import Mathlib.Algebra.Order.BigOperators.Group.List
import SemanticBus.Queue.Acknowledgement

/-!
# What the group has still to read

`dequeue` first moves due tasks from the delayed set to the ends of the streams, then
reads one entry of each stream it looks at.  This file says what both do to the lists
of unread ids (`unread_scheduled`, `readStreams_unread`) and that a `dequeue` that
finds anything leaves less to do (`backlog_dequeue`).
-/

namespace SemanticBus

namespace RedisTaskStore

variable {s s' : RedisTaskStore} {now t : Time} {tenantId : Option String} {p : TaskPriority}
  {ps : List TaskPriority} {id : UUID} {ids : List UUID}

/-- The ids that the group has not read from a stream. -/
def unread (s : RedisTaskStore) (p : TaskPriority) : List UUID :=
  (s.streams p).unread.map Prod.snd

/-- The ids of every stream rise. -/
def InOrder (s : RedisTaskStore) : Prop := ∀ p, (s.streams p).InOrder

def Due (s : RedisTaskStore) (now : Time) (id : UUID) : Prop :=
  ∃ score, s.delayed.get? id = some score ∧ 0 ≤ score ∧ score ≤ Time.timestamp now

/-- Whether the hash of a task sends it to a stream. -/
def goesTo (s : RedisTaskStore) (now : Time) (p : TaskPriority) (id : UUID) : Bool :=
  (s.tasks.read now id).any fun task ↦ task.priority = p

/-- What is to be moved, and moved tasks to be read. -/
def backlog (s : RedisTaskStore) : Nat :=
  2 * s.delayed.size + (TaskPriority.all.map fun p ↦ (s.unread p).length).sum

theorem InOrder.setStream {stream : RedisStream UUID} (h : s.InOrder) (hs : stream.InOrder) :
    (s.setStream p stream).InOrder := by
  intro p'
  rw [setStream_streams]
  by_cases hp : p' = p
  · rw [hp, Function.update_self]
    exact hs
  · rw [Function.update_of_ne hp]
    exact h p'

/-! ## Moving -/

/-- The store after one delayed task is moved. -/
def moved (now : Time) (s : RedisTaskStore) (id : UUID) : RedisTaskStore :=
  let added := ((RedisTaskQueue.addDelayed id).run now s).2
  { added with delayed := added.delayed.erase id }

/-- A task that is moved is added to the stream of its priority. -/
theorem moved_cases (now : Time) (s : RedisTaskStore) (id : UUID) :
    (s.tasks.read now id = none ∧ moved now s id = { s with delayed := s.delayed.erase id }) ∨
      ∃ task, s.tasks.read now id = some task ∧ moved now s id =
        { s.setStream task.priority ((s.streams task.priority).add now id) with
          delayed := s.delayed.erase id } := by
  rw [moved, RedisTaskQueue.addDelayed, Prog.run_bind, RedisTaskQueue.getTask, Prog.run_query]
  cases s.tasks.read now id with
  | none => exact .inl ⟨rfl, rfl⟩
  | some task => exact .inr ⟨task, rfl, rfl⟩

@[simp] theorem moved_tasks : (moved now s id).tasks = s.tasks := by
  rcases moved_cases now s id with ⟨-, heq⟩ | ⟨task, -, heq⟩
  · rw [heq]
  · rw [heq]
    rfl

@[simp] theorem moved_delayed : (moved now s id).delayed = s.delayed.erase id := by
  rcases moved_cases now s id with ⟨-, heq⟩ | ⟨task, -, heq⟩
  · rw [heq]
  · rw [heq]

theorem InOrder.moved (h : s.InOrder) : (moved now s id).InOrder := by
  rcases moved_cases now s id with ⟨-, heq⟩ | ⟨task, -, heq⟩
  · rw [heq]
    exact h
  · rw [heq]
    exact h.setStream ((h task.priority).add now id)

theorem unread_moved (h : s.InOrder) (p : TaskPriority) :
    (moved now s id).unread p = s.unread p ++ [id].filter (s.goesTo now p) := by
  rcases moved_cases now s id with ⟨hread, heq⟩ | ⟨task, hread, heq⟩
  · rw [heq, List.filter_singleton, goesTo, hread]
    exact (List.append_nil _).symm
  · rw [heq, List.filter_singleton, goesTo, hread, Option.any_some]
    by_cases hp : task.priority = p
    · subst hp
      show ((Function.update s.streams _ _ _).unread).map Prod.snd = _
      rw [Function.update_self, (h task.priority).unread_add, List.map_append, decide_eq_true rfl]
      rfl
    · show ((Function.update s.streams _ _ _).unread).map Prod.snd = _
      rw [Function.update_of_ne (Ne.symm hp), decide_eq_false hp]
      exact (List.append_nil _).symm

/-- The length of what is to be read grows by one at most. -/
theorem backlog_moved {score : ℚ} (h : s.InOrder) (hget : s.delayed.get? id = some score) :
    (moved now s id).backlog < s.backlog := by
  have hsize := Dict.size_erase_lt hget
  have hlength : ∀ p, ((moved now s id).unread p).length
      = (s.unread p).length + (s.goesTo now p id).toNat := by
    intro p
    rw [unread_moved h, List.length_append, List.filter_singleton]
    cases s.goesTo now p id with
    | true | false => rfl
  -- the hash has one priority
  have hone : (TaskPriority.all.map fun p ↦ (s.goesTo now p id).toNat).sum ≤ 1 := by
    simp only [goesTo]
    cases s.tasks.read now id with
    | none => exact Nat.zero_le _
    | some task =>
        simp only [Option.any_some]
        cases task.priority with
        | critical | high | normal | low | background => decide
  rw [backlog, backlog, moved_delayed]
  simp only [hlength, List.sum_map_add]
  omega

theorem foldl_moved (h : s.InOrder) (ids : List UUID) :
    (ids.foldl (moved now) s).tasks = s.tasks ∧
      (ids.foldl (moved now) s).delayed = ids.foldl Dict.erase s.delayed ∧
      (ids.foldl (moved now) s).InOrder ∧
      ∀ p, (ids.foldl (moved now) s).unread p = s.unread p ++ ids.filter (s.goesTo now p) := by
  induction ids generalizing s with
  | nil => exact ⟨rfl, rfl, h, fun p ↦ (List.append_nil _).symm⟩
  | cons id ids ih =>
      obtain ⟨htasks, hdelayed, horder, hunread⟩ := ih h.moved
      rw [List.foldl_cons, List.foldl_cons]
      refine ⟨htasks.trans moved_tasks, moved_delayed ▸ hdelayed, horder, fun p ↦ ?_⟩
      have hgoes : (moved now s id).goesTo now p = s.goesTo now p := by
        funext id'
        rw [goesTo, goesTo, moved_tasks]
      rw [hunread p, unread_moved h, hgoes, List.append_assoc, ← List.filter_append]
      rfl

theorem backlog_foldl_moved (h : s.InOrder) (hnodup : ids.Nodup)
    (hget : ∀ id ∈ ids, ∃ score, s.delayed.get? id = some score) :
    (ids.foldl (moved now) s).backlog + ids.length ≤ s.backlog := by
  induction ids generalizing s with
  | nil => exact le_refl _
  | cons id ids ih =>
      obtain ⟨hid, hnodup⟩ := List.nodup_cons.mp hnodup
      obtain ⟨score, hscore⟩ := hget id List.mem_cons_self
      have hleft : ∀ id' ∈ ids, ∃ score, (moved now s id).delayed.get? id' = some score := by
        intro id' hid'
        have hne : id' ≠ id := fun heq ↦ hid (heq ▸ hid')
        rw [moved_delayed, Dict.get?_erase, if_neg hne]
        exact hget id' (List.mem_cons_of_mem _ hid')
      have hlt : (moved now s id).backlog < s.backlog := backlog_moved h hscore
      have hrest := ih h.moved hnodup hleft
      rw [List.foldl_cons, List.length_cons]
      omega

/-! ## The loop -/

/-- The next entry of a stream holds a task to hand out. -/
def hands (s : RedisTaskStore) (now : Time) (tenantId : Option String) (p : TaskPriority) : Bool :=
  (s.streams p).next.any fun e ↦ s.fate now tenantId e.2 = .ready

/-- The streams that a loop over the priorities reads. -/
def looksAt (s : RedisTaskStore) (now : Time) (tenantId : Option String) :
    List TaskPriority → List TaskPriority
  | [] => []
  | p :: ps => p :: if s.hands now tenantId p then [] else s.looksAt now tenantId ps

theorem looksAt_congr (htasks : s'.tasks = s.tasks)
    (hnext : ∀ p ∈ ps, (s'.streams p).next = (s.streams p).next) :
    s'.looksAt now tenantId ps = s.looksAt now tenantId ps := by
  induction ps with
  | nil => rfl
  | cons p ps ih =>
      have hfate : ∀ id, s'.fate now tenantId id = s.fate now tenantId id := by
        intro id
        rw [fate, fate, htasks]
      have hhands : s'.hands now tenantId p = s.hands now tenantId p := by
        simp only [hands, hfate, hnext p List.mem_cons_self]
      rw [looksAt, looksAt, hhands, ih fun p' hp' ↦ hnext p' (List.mem_cons_of_mem _ hp')]

theorem looksAt_sub (h : p ∈ s.looksAt now tenantId ps) : p ∈ ps := by
  induction ps with
  | nil => cases h
  | cons p' ps ih =>
      rcases List.mem_cons.mp h with rfl | h
      · exact List.mem_cons_self
      · split at h
        · cases h
        · exact List.mem_cons_of_mem _ (ih h)

/-- The ids that the group has not read after a loop over the priorities. -/
def unreadAfter (s : RedisTaskStore) (now : Time) (tenantId : Option String)
    (ps : List TaskPriority) (p : TaskPriority) : List UUID :=
  if p ∈ s.looksAt now tenantId ps then (s.unread p).tail else s.unread p

/-- Neither the hashes of the tasks nor the delayed tasks are changed. -/
def SameTasks (s s' : RedisTaskStore) : Prop := s'.tasks = s.tasks ∧ s'.delayed = s.delayed

theorem SameTasks.refl (s : RedisTaskStore) : SameTasks s s := ⟨rfl, rfl⟩

theorem SameTasks.trans {s'' : RedisTaskStore} (h : SameTasks s s') (h' : SameTasks s' s'') :
    SameTasks s s'' := ⟨h'.1.trans h.1, h'.2.trans h.2⟩

end RedisTaskStore

namespace RedisTaskQueue

open RedisTaskStore Prog

variable {q : RedisTaskQueue} {now : Time} {tenantId : Option String} {p : TaskPriority}
  {ps : List TaskPriority} {s s' : RedisTaskStore} {id : UUID}

theorem same_readStreams (q : RedisTaskQueue) (tenantId : Option String)
    (ps : List TaskPriority) : Within SameTasks (q.readStreams tenantId ps) := by
  have hmodify : ∀ {f : Time → RedisTaskStore → RedisTaskStore},
      (∀ now s, SameTasks s (f now s)) → Within SameTasks (.modify f) := .modify
  have hxack : ∀ e, Within SameTasks (xack e) := fun e ↦ hmodify fun _ _ ↦ ⟨rfl, rfl⟩
  have hstatus : ∀ id status, Within SameTasks (setStatus id status) :=
    fun id status ↦ hmodify fun _ _ ↦ ⟨rfl, rfl⟩
  have hmark : ∀ id e, Within SameTasks (q.markExpired id e) := fun id e ↦
    .bind (hstatus id _) fun _ ↦ .bind (hxack e) fun _ ↦
      .bind (hmodify fun _ _ ↦ ⟨rfl, rfl⟩) fun _ ↦ hmodify fun _ _ ↦ ⟨rfl, rfl⟩
  induction ps with
  | nil => exact .ret _
  | cons p ps ih =>
      refine .bind (.command fun _ s ↦ ⟨rfl, rfl⟩) fun entry ↦ ?_
      cases entry with
      | none => exact ih
      | some entry =>
          refine .bind (.query _ .refl) fun task ↦ ?_
          cases task with
          | none => exact .bind (hxack _) fun _ ↦ ih
          | some task =>
              refine .bind (.ask .refl) fun now ↦ ?_
              split
              · exact ih
              · split
                · exact .bind (hmark _ _) fun _ ↦ ih
                · exact .bind (hstatus _ _) fun _ ↦ .ret _

/-- Of each stream that the loop looks at the first unread entry is read. -/
theorem readStreams_unread (q : RedisTaskQueue) (now : Time) (tenantId : Option String)
    (hps : ps.Nodup) (h : s.InOrder) :
    ((q.readStreams tenantId ps).run now s).2.InOrder ∧
      ∀ p, ((q.readStreams tenantId ps).run now s).2.unread p
        = s.unreadAfter now tenantId ps p := by
  induction ps generalizing s with
  | nil => exact ⟨h, fun p ↦ rfl⟩
  | cons p ps ih =>
      obtain ⟨hp, hps⟩ := List.nodup_cons.mp hps
      obtain ⟨s₁, reply, hround, hrun⟩ := q.readStreams_cons now tenantId p ps s
      rw [hrun]
      -- a round that goes on: the rest finds the other streams as they were
      have hgo : ∀ stream : RedisStream UUID, s₁.tasks = s.tasks →
          s₁.streams = Function.update s.streams p stream → stream.InOrder →
          stream.unread.map Prod.snd = (s.unread p).tail → s.hands now tenantId p = false →
          ((q.readStreams tenantId ps).run now s₁).2.InOrder ∧
            ∀ p', ((q.readStreams tenantId ps).run now s₁).2.unread p'
              = s.unreadAfter now tenantId (p :: ps) p' := by
        intro stream htasks hstreams hstream hunread hhands
        have hother : ∀ p', p' ≠ p → s₁.streams p' = s.streams p' := by
          intro p' hne
          rw [hstreams, Function.update_of_ne hne]
        have horder : s₁.InOrder := by
          intro p'
          by_cases heq : p' = p
          · rw [heq, hstreams, Function.update_self]
            exact hstream
          · rw [hother p' heq]
            exact h p'
        have hlooks : s₁.looksAt now tenantId ps = s.looksAt now tenantId ps :=
          looksAt_congr htasks fun p' hp' ↦ by rw [hother p' fun heq ↦ hp (heq ▸ hp')]
        obtain ⟨horder', hafter⟩ := ih (s := s₁) hps horder
        refine ⟨horder', fun p' ↦ ?_⟩
        rw [hafter p', unreadAfter, unreadAfter, hlooks, looksAt, hhands,
          if_neg Bool.false_ne_true]
        by_cases heq : p' = p
        · have hnot : p' ∉ s.looksAt now tenantId ps := fun hmem ↦ hp (heq ▸ looksAt_sub hmem)
          rw [if_neg hnot, if_pos (heq ▸ List.mem_cons_self), heq, unread, hstreams,
            Function.update_self, hunread]
        · simp only [List.mem_cons, heq, false_or]
          rw [unread, hother p' heq, ← unread]
      cases hround with
      | empty hnext =>
          have hnil : (s.streams p).unread = [] := RedisStream.unread_eq_nil hnext
          refine hgo (s.streams p) rfl (Function.update_eq_self p s.streams).symm (h p) ?_ ?_
          · rw [unread, hnil]
            rfl
          · rw [hands, hnext]
            rfl
      | @dropped m id _ hnext hfate htasks hstreams =>
          refine hgo _ htasks hstreams (((h p).deliver hnext _).ack m) ?_ ?_
          · show (((s.streams p).deliver q.consumer m).unread).map Prod.snd = _
            rw [(h p).unread_deliver hnext, List.map_tail, unread]
          · rw [hands, hnext, Option.any_some]
            rcases hfate with hfate | hfate
            · rw [hfate]
              rfl
            · rw [hfate]
              rfl
      | @passed m id _ hnext hfate htasks hstreams =>
          refine hgo _ htasks hstreams ((h p).deliver hnext _) ?_ ?_
          · rw [(h p).unread_deliver hnext, List.map_tail, unread]
          · rw [hands, hnext, Option.any_some, hfate]
            rfl
      | @claimed m id task _ hnext hfate hread htasks hstreams =>
          have hhands : s.hands now tenantId p = true := by
            rw [hands, hnext, Option.any_some, hfate]
            rfl
          constructor
          · intro p'
            show (s₁.streams p').InOrder
            rw [hstreams]
            by_cases heq : p' = p
            · rw [heq, Function.update_self]
              exact (h p).deliver hnext _
            · rw [Function.update_of_ne heq]
              exact h p'
          · intro p'
            show s₁.unread p' = _
            rw [unreadAfter, looksAt, hhands, if_pos rfl, unread, hstreams]
            by_cases heq : p' = p
            · rw [heq, Function.update_self, if_pos List.mem_cons_self,
                (h p).unread_deliver hnext, List.map_tail, unread]
            · rw [Function.update_of_ne heq, if_neg fun hmem ↦ heq (List.mem_singleton.mp hmem),
                unread]

/-! ## A dequeue -/

def due (s : RedisTaskStore) (now : Time) : List UUID :=
  zrangebyscore s.delayed (fun i j ↦ i.int ≤ j.int) 0 (Time.timestamp now) 100

theorem scheduled_eq (s : RedisTaskStore) (now : Time) :
    scheduled s now = (due s now).foldl (moved now) s := by
  have hmove : ∀ ids s, (moveDelayed ids).run now s = ((), ids.foldl (moved now) s) := by
    intro ids
    induction ids with
    | nil => exact fun _ ↦ rfl
    | cons id ids ih =>
        intro s
        rw [moveDelayed, Prog.run_bind, Prog.run_bind, Prog.run_modify, ih]
        rfl
  rw [scheduled, processDelayedTasks, Prog.run_bind, Prog.run_query, hmove]
  rfl

theorem due_of_mem (h : id ∈ due s now) : s.Due now id := mem_zrangebyscore h

theorem scheduled_tasks (h : s.InOrder) : (scheduled s now).tasks = s.tasks := by
  rw [scheduled_eq]
  exact (foldl_moved h _).1

theorem inOrder_scheduled (h : s.InOrder) (now : Time) : (scheduled s now).InOrder := by
  rw [scheduled_eq]
  exact (foldl_moved h _).2.2.1

theorem get?_delayed_scheduled (h : s.InOrder) (id : UUID) :
    (scheduled s now).delayed.get? id = if id ∈ due s now then none else s.delayed.get? id := by
  rw [scheduled_eq, (foldl_moved h _).2.1, Dict.get?_foldl_erase]

/-- Due tasks go to the ends of the streams. -/
theorem unread_scheduled (h : s.InOrder) (p : TaskPriority) :
    (scheduled s now).unread p = s.unread p ++ (due s now).filter (s.goesTo now p) := by
  rw [scheduled_eq]
  exact (foldl_moved h _).2.2.2 p

structure DequeueEffect (s : RedisTaskStore) (now : Time) (tenantId : Option String)
    (s' : RedisTaskStore) : Prop where
  inOrder : s'.InOrder
  tasks : s'.tasks = s.tasks
  delayed : s'.delayed = (scheduled s now).delayed
  unread : ∀ p, s'.unread p = (scheduled s now).unreadAfter now tenantId TaskPriority.all p

theorem dequeue_effect (now : Time) (tenantId : Option String) (h : s.InOrder)
    (hclosed : q.closed = false) :
    DequeueEffect s now tenantId (q.exec now (.dequeue tenantId) s).2 := by
  have hloop := readStreams_unread q now tenantId (by decide : TaskPriority.all.Nodup)
    (inOrder_scheduled h now)
  have hsame := (same_readStreams q tenantId TaskPriority.all).run SameTasks.refl
    SameTasks.trans now (scheduled s now)
  rw [exec, prog, dequeue, hclosed, if_neg Bool.false_ne_true, Prog.run_bind]
  exact ⟨hloop.1, hsame.1.trans (scheduled_tasks h), hsame.2, hloop.2⟩

theorem unreadAfter_sublist (s : RedisTaskStore) (now : Time) (tenantId : Option String)
    (ps : List TaskPriority) (p : TaskPriority) :
    List.Sublist (s.unreadAfter now tenantId ps p) (s.unread p) := by
  rw [unreadAfter]
  split
  · exact List.tail_sublist _
  · exact List.Sublist.refl _

/-- A loop that finds anything unread reads something. -/
theorem exists_looksAt (now : Time) (tenantId : Option String) (hp : p ∈ ps)
    (hunread : s.unread p ≠ []) :
    ∃ p' ∈ s.looksAt now tenantId ps, s.unread p' ≠ [] := by
  induction ps with
  | nil => cases hp
  | cons p₁ ps ih =>
      by_cases hfirst : s.unread p₁ = []
      · have hhands : s.hands now tenantId p₁ = false := by
          rw [hands, RedisStream.next_eq_head?, List.map_eq_nil_iff.mp hfirst]
          rfl
        rcases List.mem_cons.mp hp with rfl | hp
        · exact absurd hfirst hunread
        · obtain ⟨p', hmem, hne⟩ := ih hp
          refine ⟨p', ?_, hne⟩
          rw [looksAt, hhands, if_neg Bool.false_ne_true]
          exact List.mem_cons_of_mem _ hmem
      · exact ⟨p₁, List.mem_cons_self, hfirst⟩

/-- A `dequeue` that finds a due task, or anything unread, leaves less to do. -/
theorem backlog_dequeue (h : s.InOrder) (heffect : DequeueEffect s now tenantId s')
    (hfinds : (∃ p, s.unread p ≠ []) ∨ due s now ≠ []) : s'.backlog < s.backlog := by
  have hscheduled : (scheduled s now).backlog + (due s now).length ≤ s.backlog := by
    rw [scheduled_eq]
    refine backlog_foldl_moved h (nodup_zrangebyscore _ _ _ _ _) fun id hid ↦ ?_
    exact (due_of_mem hid).imp fun score hscore ↦ hscore.1
  have hlength : ∀ p ∈ TaskPriority.all,
      (s'.unread p).length ≤ ((scheduled s now).unread p).length := by
    intro p _
    rw [heffect.unread]
    exact (unreadAfter_sublist _ _ _ _ _).length_le
  have hle := List.sum_le_sum hlength
  rw [backlog, heffect.delayed]
  rw [backlog] at hscheduled
  by_cases hdue : due s now = []
  · -- nothing was moved: the loop reads something
    obtain ⟨p, hunread⟩ := hfinds.resolve_right (not_not_intro hdue)
    have hp : p ∈ TaskPriority.all := by
      cases p with
      | critical | high | normal | low | background => decide
    have hthere : (scheduled s now).unread p ≠ [] := by
      rw [unread_scheduled h]
      exact List.append_ne_nil_of_left_ne_nil hunread _
    obtain ⟨p', hlooks, hne⟩ := exists_looksAt now tenantId hp hthere
    have hlt := List.sum_lt_sum (l := TaskPriority.all) _ _ hlength ⟨p', looksAt_sub hlooks, by
      rw [heffect.unread, unreadAfter, if_pos hlooks, List.length_tail]
      exact Nat.sub_lt (List.length_pos_iff.mpr hne) Nat.one_pos⟩
    omega
  · have hpos := List.length_pos_iff.mpr hdue
    omega

end RedisTaskQueue

end SemanticBus
