import SemanticBus.Data.Run
import SemanticBus.Events.Subscriber

/-!
# The consumer of a subscription

A consumer iterates over a subscription while events are delivered and the
subscription is closed, any number of times.  The end marker gets lost when the queue
is full, and the consumer looks at the closed flag only between events; it ends all
the same, because a queue that has no room for the marker is not empty
(`Attended`), so the consumer wakes up and looks at the flag (`ends_of_closed`).
-/

namespace SemanticBus

/-- Where a consumer is: about to look at the closed flag, waiting for an event,
handling one, or past the loop. -/
inductive ConsumerStage where
  | ready
  | waiting
  | handling (event : BaseEvent)
  | ended

namespace ConsumerStage

/-- How far a consumer is from its end, once the subscription is closed. -/
def rank : ConsumerStage → ℕ
  | ended => 0
  | ready | handling _ => 1
  | waiting => 2

theorem rank_le (stage : ConsumerStage) : stage.rank ≤ 2 := by
  cases stage with
  | ended => exact Nat.zero_le 2
  | ready | handling event => exact Nat.le_succ 1
  | waiting => exact le_rfl

end ConsumerStage

structure Iteration where
  sub : EventSubscription
  stage : ConsumerStage := .ready

/-- What can happen to them.  A consumer goes on after waiting or handling, or leaves the
loop: it breaks, an error is raised, or its task is cancelled. -/
inductive ConsumerStep where
  | deliver (event : BaseEvent)
  | close
  | next
  | leave

namespace ConsumerStep

def isNext : ConsumerStep → Bool
  | next => true
  | _ => false

end ConsumerStep

namespace Iteration

/-- Take the next item of the queue, or wait for one; the end marker ends the loop. -/
def take (t : Iteration) : Iteration :=
  match t.sub.queue with
  | [] => { t with stage := .waiting }
  | none :: queue => { sub := { t.sub with queue := queue }, stage := .ended }
  | some event :: queue => { sub := { t.sub with queue := queue }, stage := .handling event }

def loop (t : Iteration) : Iteration :=
  if t.sub.closed then { t with stage := .ended } else t.take

/-- The consumer goes on, unless it waits and the queue is empty. -/
def next (t : Iteration) : Option Iteration :=
  match t.stage with
  | .ready | .handling _ => some t.loop
  | .waiting => if t.sub.queue.isEmpty then none else some t.take
  | .ended => none

def leave (t : Iteration) : Option Iteration :=
  match t.stage with
  | .ready | .waiting | .handling _ => some { t with stage := .ended }
  | .ended => none

/-- The state after a step, if the step is possible. -/
def step (t : Iteration) : ConsumerStep → Option Iteration
  | .deliver event => some { t with sub := (t.sub.deliver event).1 }
  | .close => some { t with sub := t.sub.close }
  | .next => t.next
  | .leave => t.leave

variable {t t' : Iteration}

/-- The consumer is blocked: it waits at an empty queue. -/
def Blocked (t : Iteration) : Prop := t.stage = .waiting ∧ t.sub.queue = []

/-- Nobody waits at the empty queue of a closed subscription. -/
structure Attended (t : Iteration) : Prop where
  pos : 0 < t.sub.maxQueueSize
  awake : t.sub.closed = true → ¬ t.Blocked

/-- What the consumer does when it goes on: it ends as the subscription is closed, waits at
the empty queue of an open one, or takes an item, and only if it waited for one may the
subscription be closed. -/
inductive Goes (t : Iteration) : Iteration → Prop where
  | ends (hclosed : t.sub.closed = true) (hstage : t.stage ≠ .ended) :
      Goes t { t with stage := .ended }
  | waits (hopen : t.sub.closed = false) (hqueue : t.sub.queue = []) :
      Goes t { t with stage := .waiting }
  | takes (item : Option BaseEvent) (queue : List (Option BaseEvent)) (stage : ConsumerStage)
      (hqueue : t.sub.queue = item :: queue) (hstage : stage ≠ .waiting)
      (hfree : t.sub.closed = false ∨ t.stage = .waiting) :
      Goes t { sub := { t.sub with queue := queue }, stage := stage }

theorem goes_take (hfree : t.sub.closed = false ∨ t.stage = .waiting ∧ t.sub.queue ≠ []) :
    t.Goes t.take := by
  have hfree' : t.sub.closed = false ∨ t.stage = .waiting := hfree.imp_right And.left
  unfold take
  split
  · rename_i hqueue
    rcases hfree with hopen | ⟨-, hne⟩
    · exact .waits hopen hqueue
    · exact absurd hqueue hne
  · rename_i queue hqueue
    exact .takes none queue .ended hqueue (by rintro ⟨⟩) hfree'
  · rename_i event queue hqueue
    exact .takes (some event) queue (.handling event) hqueue (by rintro ⟨⟩) hfree'

theorem goes_loop (hstage : t.stage ≠ .ended) : t.Goes t.loop := by
  unfold loop
  split
  · rename_i hclosed
    exact .ends hclosed hstage
  · rename_i hopen
    exact goes_take (.inl (Bool.not_eq_true _ ▸ hopen))

theorem goes_next (h : t.next = some t') : t.Goes t' := by
  unfold next at h
  cases hstage : t.stage with
  | ready | handling event =>
      rw [hstage] at h
      exact Option.some.inj h ▸ goes_loop (by rw [hstage]; rintro ⟨⟩)
  | waiting =>
      simp only [hstage] at h
      split_ifs at h with hempty
      refine Option.some.inj h ▸ goes_take (.inr ⟨hstage, ?_⟩)
      exact fun hqueue ↦ hempty (List.isEmpty_iff.mpr hqueue)
  | ended =>
      rw [hstage] at h
      cases h

/-- A consumer that is not blocked and has not ended can go on. -/
theorem exists_next (hend : t.stage ≠ .ended) (hblocked : ¬ t.Blocked) :
    ∃ t', t.step .next = some t' := by
  rw [step, next]
  cases hstage : t.stage with
  | ready | handling event => exact ⟨_, rfl⟩
  | waiting =>
      have hempty : t.sub.queue.isEmpty = false := by
        refine Bool.eq_false_iff.mpr fun hempty ↦ hblocked ⟨hstage, ?_⟩
        exact List.isEmpty_iff.mp hempty
      refine ⟨t.take, ?_⟩
      simp only [hempty]
      rfl
  | ended => exact absurd hstage hend

/-! ## Nobody is left waiting -/

theorem queue_close_ne_nil {sub : EventSubscription} (hpos : 0 < sub.maxQueueSize) :
    sub.close.queue ≠ [] := by
  show (if sub.isFull then sub.queue else sub.queue ++ [none]) ≠ []
  split
  · rename_i hfull
    rw [EventSubscription.isFull, Bool.and_eq_true, decide_eq_true_iff, decide_eq_true_iff] at hfull
    exact List.ne_nil_of_length_pos (hpos.trans_le hfull.2)
  · exact List.append_ne_nil_of_right_ne_nil _ (List.cons_ne_nil _ _)

/-- A new subscription. -/
theorem Attended.new {n : ℕ} (hn : 0 < n) (id : String) (filter : EventFilter) :
    Attended { sub := { subscriptionId := id, filter := filter, maxQueueSize := n } } where
  pos := hn
  awake := by rintro ⟨⟩

theorem Attended.deliver (h : t.Attended) (event : BaseEvent) :
    Attended { t with sub := (t.sub.deliver event).1 } := by
  rcases t.sub.deliver_cases event with ⟨-, heq⟩ | ⟨hopen, -, -, heq⟩ | ⟨hopen, -, -, heq⟩
  all_goals rw [heq]
  · exact h
  · refine ⟨h.pos, fun hclosed ↦ ?_⟩
    cases hopen.symm.trans hclosed
  · refine ⟨h.pos, fun hclosed ↦ ?_⟩
    cases hopen.symm.trans hclosed

theorem Attended.goes (h : t.Attended) (hgoes : t.Goes t') : t'.Attended := by
  cases hgoes with
  | ends hclosed hstage => exact ⟨h.pos, fun _ ↦ by rintro ⟨⟨⟩, -⟩⟩
  | waits hopen hqueue =>
      refine ⟨h.pos, fun hclosed ↦ ?_⟩
      cases hopen.symm.trans hclosed
  | takes item queue stage hqueue hstage hfree => exact ⟨h.pos, fun _ hblocked ↦ hstage hblocked.1⟩

/-- Every step leaves the consumer attended. -/
theorem Attended.step {a : ConsumerStep} (h : t.Attended) (ha : t.step a = some t') :
    t'.Attended := by
  cases a with
  | deliver event => exact Option.some.inj ha ▸ h.deliver event
  | close =>
      refine Option.some.inj ha ▸ ⟨h.pos, fun _ hblocked ↦ ?_⟩
      exact queue_close_ne_nil h.pos hblocked.2
  | next => exact h.goes (goes_next ha)
  | leave =>
      rw [Iteration.step, leave] at ha
      split at ha
      · exact Option.some.inj ha ▸ ⟨h.pos, fun _ ↦ by rintro ⟨⟨⟩, -⟩⟩
      · exact Option.some.inj ha ▸ ⟨h.pos, fun _ ↦ by rintro ⟨⟨⟩, -⟩⟩
      · exact Option.some.inj ha ▸ ⟨h.pos, fun _ ↦ by rintro ⟨⟨⟩, -⟩⟩
      · cases ha

/-! ## After the close -/

/-- A run of a closed subscription with `k` steps of the consumer: it stays closed, no event
is added, and the consumer comes closer to its end. -/
structure Winds (t : Iteration) (k : ℕ) (t' : Iteration) : Prop where
  closed : t'.sub.closed = true
  pending : t'.sub.pending <:+ t.sub.pending
  received : t'.sub.eventsReceived = t.sub.eventsReceived
  rank : t'.stage.rank + k ≤ t.stage.rank

theorem Winds.refl (hclosed : t.sub.closed = true) : t.Winds 0 t :=
  ⟨hclosed, List.suffix_rfl, rfl, le_rfl⟩

theorem Winds.trans {k k' : ℕ} {t'' : Iteration} (h : t.Winds k t') (h' : t'.Winds k' t'') :
    t.Winds (k + k') t'' where
  closed := h'.closed
  pending := h'.pending.trans h.pending
  received := h'.received.trans h.received
  rank := by
    have hrank := h.rank
    have hrank' := h'.rank
    omega

theorem rank_pos (h : t.stage ≠ .ended) : 0 < t.stage.rank := by
  cases hstage : t.stage with
  | ready | handling event => exact Nat.one_pos
  | waiting => exact Nat.two_pos
  | ended => exact absurd hstage h

theorem rank_le_one {stage : ConsumerStage} (h : stage ≠ .waiting) : stage.rank ≤ 1 := by
  cases stage with
  | ready | handling event => exact le_rfl
  | waiting => exact absurd rfl h
  | ended => exact Nat.zero_le 1

/-- The consumer of a closed subscription only takes the item it has waited for. -/
theorem Winds.goes (hclosed : t.sub.closed = true) (h : t.Goes t') : t.Winds 1 t' := by
  cases h with
  | ends _ hstage => exact ⟨hclosed, List.suffix_rfl, rfl, rank_pos hstage⟩
  | waits hopen _ => cases hopen.symm.trans hclosed
  | takes item queue stage hqueue hstage hfree =>
      rcases hfree with hopen | hwaiting
      · cases hopen.symm.trans hclosed
      · refine ⟨hclosed, ?_, rfl, ?_⟩
        · rw [EventSubscription.pending, EventSubscription.pending, hqueue,
            ← List.singleton_append, List.reduceOption_append]
          exact List.suffix_append _ _
        · rw [hwaiting]
          exact Nat.succ_le_succ (rank_le_one hstage)

theorem deliver_of_closed {sub : EventSubscription} (hclosed : sub.closed = true)
    (event : BaseEvent) : sub.deliver event = (sub, false) := by
  rw [EventSubscription.deliver, hclosed, Bool.true_or, if_pos rfl]

theorem Winds.step {a : ConsumerStep} (hclosed : t.sub.closed = true) (ha : t.step a = some t') :
    t.Winds ([a].countP ConsumerStep.isNext) t' := by
  cases a with
  | deliver event =>
      rw [Iteration.step, deliver_of_closed hclosed] at ha
      exact Option.some.inj ha ▸ .refl hclosed
  | close =>
      refine Option.some.inj ha ▸ ⟨rfl, ?_, rfl, le_rfl⟩
      rw [EventSubscription.pending_close]
  | next => exact .goes hclosed (goes_next ha)
  | leave =>
      rw [Iteration.step, leave] at ha
      split at ha
      · exact Option.some.inj ha ▸ ⟨hclosed, List.suffix_rfl, rfl, Nat.zero_le _⟩
      · exact Option.some.inj ha ▸ ⟨hclosed, List.suffix_rfl, rfl, Nat.zero_le _⟩
      · exact Option.some.inj ha ▸ ⟨hclosed, List.suffix_rfl, rfl, Nat.zero_le _⟩
      · cases ha

theorem Winds.run {as : List ConsumerStep} (hclosed : t.sub.closed = true)
    (h : Run (Step.graph Iteration.step) t as t') :
    t.Winds (as.countP ConsumerStep.isNext) t' := by
  induction h with
  | nil t => exact .refl hclosed
  | cons ha _ ih =>
      have hstep := Winds.step hclosed ha
      rw [← List.singleton_append, List.countP_append]
      exact hstep.trans (ih hstep.closed)

/-- Once a subscription is closed, its consumer is never blocked: it can go on until it has
ended, which it has after two steps, and no further event is queued. -/
theorem ends_of_closed {n : ℕ} {id : String} {filter : EventFilter}
    {before after : List ConsumerStep} (hn : 0 < n)
    (hbefore : Run (Step.graph step)
      { sub := { subscriptionId := id, filter := filter, maxQueueSize := n } } before t)
    (hclosed : t.sub.closed = true) (hafter : Run (Step.graph step) t after t') :
    ¬ t'.Blocked ∧ (t'.stage ≠ .ended → ∃ t'', t'.step .next = some t'') ∧
      (2 ≤ after.countP ConsumerStep.isNext → t'.stage = .ended) ∧
      t'.sub.pending <:+ t.sub.pending ∧ t'.sub.eventsReceived = t.sub.eventsReceived := by
  have hattended : t'.Attended :=
    (hbefore.append hafter).invariant (fun _ _ _ ↦ Attended.step) (Attended.new hn id filter)
  have hwinds := Winds.run hclosed hafter
  have hawake := hattended.awake hwinds.closed
  refine ⟨hawake, fun hend ↦ exists_next hend hawake, ?_, hwinds.pending, hwinds.received⟩
  intro htwo
  by_contra hend
  have hrank := hwinds.rank
  have hpos := rank_pos hend
  have hle : t.stage.rank ≤ 2 := t.stage.rank_le
  omega

def sampleEvent : BaseEvent :=
  { eventType := .flowStarted, sessionId := ⟨7⟩, tenantId := "acme", message := "" }

/-- The consumer waits, and a queue of size 1 was full when the subscription was closed. -/
def sampleClosed : Iteration where
  sub :=
    { subscriptionId := "s", maxQueueSize := 1, queue := [some sampleEvent], closed := true,
      eventsReceived := 1 }
  stage := .waiting

/-- The consumer takes the event and ends, though there is no end marker. -/
theorem ends_unmarked : ∃ t : Iteration, t.sub.closed = true ∧ ¬ t.Blocked ∧
    (2 ≤ [ConsumerStep.close, .next, .next].countP ConsumerStep.isNext → t.stage = .ended) := by
  have hbefore : Run (Step.graph step) { sub := { subscriptionId := "s", maxQueueSize := 1 } }
      [.next, .deliver sampleEvent, .close] sampleClosed := Run.graph_iff.mpr rfl
  have hafter : Run (Step.graph step) sampleClosed [.close, .next, .next] _ :=
    Run.graph_iff.mpr rfl
  obtain ⟨hawake, -, hend, -⟩ := ends_of_closed Nat.one_pos hbefore rfl hafter
  exact ⟨_, rfl, hawake, hend⟩

end Iteration

end SemanticBus
