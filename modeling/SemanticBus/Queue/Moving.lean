import Mathlib.Data.Fintype.Basic
import SemanticBus.Queue.Commands

/-!
# Due tasks that several clients move

A `dequeue` reads the ids of the due tasks, and then adds each to its stream and removes
it from the delayed set, in commands of their own.  When two of them read an id before
one has removed it, both add it.

Notes keep, for each time that a task was put in the delayed set, the entries it was
added as, and the entries through which tasks were claimed.  As long as no id is read
that another `dequeue` is about to remove, none is put again before it is removed, and
the hash of each is there, every put is added once (`moved_once`).
-/

universe u

namespace SemanticBus

abbrev QueueState (κ : Type u) := Points κ QueuePoint RedisTaskStore

structure MoveNotes where
  /-- For each time that a task was put in the delayed set, the last one first, the entries
  that it was added as. -/
  puts : UUID → List (List EntryRef) := fun _ ↦ []
  /-- The entries through which tasks were claimed. -/
  claimed : List EntryRef := []

namespace MoveNotes

def put (notes : MoveNotes) (id : UUID) : MoveNotes :=
  { notes with puts := Function.update notes.puts id ([] :: notes.puts id) }

/-- Note that a delayed task is added to a stream. -/
def add (notes : MoveNotes) (id : UUID) (e : EntryRef) : MoveNotes :=
  match notes.puts id with
  | [] => notes
  | es :: rest => { notes with puts := Function.update notes.puts id ((e :: es) :: rest) }

/-- Every put of a task was added once. -/
def Settled (notes : MoveNotes) (id : UUID) : Prop := ∀ es ∈ notes.puts id, es.length = 1

/-- The last put of a task was not added yet, and the others were, once. -/
def Opened (notes : MoveNotes) (id : UUID) : Prop :=
  ∃ rest, notes.puts id = [] :: rest ∧ ∀ es ∈ rest, es.length = 1

variable {notes : MoveNotes} {id j : UUID} {e : EntryRef}

theorem opened_put (h : notes.Settled id) : (notes.put id).Opened id :=
  ⟨notes.puts id, Function.update_self _ _ _, h⟩

theorem puts_put_of_ne (h : j ≠ id) : (notes.put id).puts j = notes.puts j :=
  Function.update_of_ne h _ _

theorem settled_add (h : notes.Opened id) : (notes.add id e).Settled id := by
  obtain ⟨rest, hputs, hrest⟩ := h
  rw [Settled, add, hputs]
  show ∀ es ∈ Function.update notes.puts id _ id, _
  rw [Function.update_self]
  intro es hes
  rcases List.mem_cons.mp hes with rfl | hes
  · rfl
  · exact hrest es hes

theorem puts_add_of_ne (h : j ≠ id) : (notes.add id e).puts j = notes.puts j := by
  rw [add]
  split
  · rfl
  · exact Function.update_of_ne h _ _

@[simp] theorem claimed_add : (notes.add id e).claimed = notes.claimed := by
  rw [add]
  split
  · rfl
  · rfl

end MoveNotes

namespace RedisTaskQueue

open RedisTaskStore MoveNotes

variable {κ : Type u} {q : RedisTaskQueue} {tenantId : Option String} {now : Time}
  {s s' : RedisTaskStore} {point point' : QueuePoint} {x y : QueueState κ × MoveNotes}
  {a : κ × Time}

/-- The delayed tasks that a call has read and not removed. -/
def moving : QueuePoint → List UUID
  | .getDelayed id ids | .addDelayed id _ ids | .removeDelayed id ids => id :: ids
  | _ => []

/-- The entry that a call has read and not decided on. -/
def held : QueuePoint → Option EntryRef
  | .fetch e _ _ | .judge e _ _ _ | .claim e _ _ => some e
  | _ => none

/-- The task that the next command of a call puts in the delayed set. -/
def putOf : QueuePoint → Option UUID
  | .plan (.zadd id _) _ _ => some id
  | _ => none

/-- Whether the next command of a call reads the due tasks. -/
def isScan : QueuePoint → Bool
  | .scan => true
  | _ => false

/-- The entry through which the next command of a call claims a task. -/
def claimOf : QueuePoint → Option EntryRef
  | .claim e _ _ => some e
  | _ => none

def moveNote (p : QueueState κ) (a : κ × Time) (notes : MoveNotes) : MoveNotes :=
  match p.points a.1 with
  | .plan (.zadd id _) _ _ => notes.put id
  | .addDelayed id priority _ => notes.add id ⟨priority, (p.server.streams priority).nextId a.2⟩
  | .claim e _ _ => { notes with claimed := e :: notes.claimed }
  | _ => notes

/-- Each time that a task was put in the delayed set it was added once at most, and exactly
once if it was put again or is no longer there; no entry was claimed twice. -/
structure EachOnce (x : QueueState κ × MoveNotes) : Prop where
  atMost : ∀ id, ∀ es ∈ x.2.puts id, es.length ≤ 1
  again : ∀ id, ∀ es ∈ (x.2.puts id).tail, es.length = 1
  gone : ∀ id, x.1.server.delayed.get? id = none → x.2.Settled id
  claimed : x.2.claimed.Nodup

/-- A `dequeue` reads no id that another one has read and not removed, the hash of an id is
there when it is moved, and no task is put in the delayed set that is there. -/
def GoodMove (x : QueueState κ × MoveNotes) (a : κ × Time) : Prop :=
  match x.1.points a.1 with
  | .scan => ∀ id ∈ due x.1.server a.2, ∀ j, id ∉ moving (x.1.points j)
  | .getDelayed id _ => ∃ task, x.1.server.tasks.read a.2 id = some task
  | .plan (.zadd id _) _ _ => x.1.server.delayed.get? id = none
  | _ => True

/-! ## What a command does -/

@[simp] theorem held_planPoint (cs : List QueueCommand) (reply : WorkerReply) :
    held (planPoint cs reply) = none := by
  cases cs with
  | nil | cons => rfl

@[simp] theorem moving_planPoint (cs : List QueueCommand) (reply : WorkerReply) :
    moving (planPoint cs reply) = [] := by
  cases cs with
  | nil | cons => rfl

@[simp] theorem held_readPoint (ps : List TaskPriority) : held (readPoint ps) = none := by
  cases ps with
  | nil | cons => rfl

@[simp] theorem moving_readPoint (ps : List TaskPriority) : moving (readPoint ps) = [] := by
  cases ps with
  | nil | cons => rfl

@[simp] theorem held_dropPoint (ps : List TaskPriority) (as : List Aside) :
    held (dropPoint ps as) = none := by
  cases as with
  | nil => exact held_readPoint ps
  | cons a as => rfl

@[simp] theorem moving_dropPoint (ps : List TaskPriority) (as : List Aside) :
    moving (dropPoint ps as) = [] := by
  cases as with
  | nil => exact moving_readPoint ps
  | cons a as => rfl

@[simp] theorem held_movePoint (ids : List UUID) : held (movePoint ids) = none := by
  cases ids with
  | nil | cons => rfl

@[simp] theorem moving_movePoint (ids : List UUID) : moving (movePoint ids) = ids := by
  cases ids with
  | nil | cons => rfl

inductive MoveEffect (now : Time) (s : RedisTaskStore) :
    QueuePoint → QueuePoint → RedisTaskStore → Prop
  /-- Nothing. -/
  | aside {point point' : QueuePoint} {s' : RedisTaskStore} : moving point = [] →
      moving point' = [] → s'.delayed = s.delayed → putOf point = none → isScan point = false →
      MoveEffect now s point point' s'
  | put {id : UUID} {executeAt : ℚ} {cs : List QueueCommand} {reply : WorkerReply} :
      MoveEffect now s (.plan (.zadd id executeAt) cs reply) (planPoint cs reply)
        { s with delayed := s.delayed.insert id executeAt }
  | scan : MoveEffect now s .scan (movePoint (due s now)) s
  | found {id : UUID} {ids : List UUID} {task : TaskPayload} : s.tasks.read now id = some task →
      MoveEffect now s (.getDelayed id ids) (.addDelayed id task.priority ids) s
  | missing {id : UUID} {ids : List UUID} : s.tasks.read now id = none →
      MoveEffect now s (.getDelayed id ids) (.removeDelayed id ids) s
  | add {id : UUID} {priority : TaskPriority} {ids : List UUID} :
      MoveEffect now s (.addDelayed id priority ids) (.removeDelayed id ids)
        (s.setStream priority ((s.streams priority).add now id))
  | remove {id : UUID} {ids : List UUID} :
      MoveEffect now s (.removeDelayed id ids) (movePoint ids)
        { s with delayed := s.delayed.erase id }

theorem moveEffect_of_next (h : q.pointNext tenantId point now s = some (point', s')) :
    MoveEffect now s point point' s' := by
  cases point with
  | lookup id plan =>
      simp only [pointNext] at h
      split at h
      · cases h
        exact .aside rfl rfl rfl rfl rfl
      · cases h
        exact .aside rfl (moving_planPoint _ _) rfl rfl rfl
  | plan c cs reply =>
      cases c with
      | zadd id executeAt =>
          cases h
          exact .put
      | zaddIn id seconds =>
          cases h
          exact .aside rfl rfl rfl rfl rfl
      | xadd priority id =>
          cases h
          exact .aside rfl (moving_planPoint _ _) rfl rfl rfl
      | aside b =>
          cases h
          exact .aside rfl (moving_planPoint _ _) (b.untouched now s).delayed rfl rfl
  | scan =>
      cases h
      exact .scan
  | getDelayed id ids =>
      simp only [pointNext] at h
      split at h
      · rename_i hread
        cases h
        exact .missing hread
      · rename_i hread
        cases h
        exact .found hread
  | addDelayed id priority ids =>
      cases h
      exact .add
  | removeDelayed id ids =>
      cases h
      exact .remove
  | read p ps =>
      simp only [pointNext] at h
      split at h
      · cases h
        exact .aside rfl (moving_readPoint _) rfl rfl rfl
      · cases h
        exact .aside rfl rfl rfl rfl rfl
  | fetch e id ps =>
      simp only [pointNext] at h
      split at h
      · cases h
        exact .aside rfl (moving_dropPoint _ _) rfl rfl rfl
      · cases h
        exact .aside rfl rfl rfl rfl rfl
  | judge e id task ps =>
      simp only [pointNext] at h
      split at h
      · cases h
        exact .aside rfl (moving_readPoint _) rfl rfl rfl
      · split at h
        · cases h
          exact .aside rfl (moving_dropPoint _ _) rfl rfl rfl
        · cases h
          exact .aside rfl rfl rfl rfl rfl
  | drop b as ps =>
      cases h
      exact .aside rfl (moving_dropPoint _ _) (b.untouched now s).delayed rfl rfl
  | claim e id task =>
      cases h
      exact .aside rfl rfl rfl rfl rfl
  | returned reply => cases h

inductive ClaimEffect (s : RedisTaskStore) : QueuePoint → QueuePoint → RedisTaskStore → Prop
  /-- An entry is let go at most. -/
  | aside {point point' : QueuePoint} {s' : RedisTaskStore} :
      (∀ e, held point' = some e → held point = some e) →
      (∀ p, s'.delivered p = s.delivered p) → claimOf point = none →
      ClaimEffect s point point' s'
  | read {p : TaskPriority} {ps : List TaskPriority} {m : StreamId} {id : UUID}
      {consumer : String} : (s.streams p).next = some (m, id) →
      ClaimEffect s (.read p ps) (.fetch ⟨p, m⟩ id ps)
        (s.setStream p ((s.streams p).deliver consumer m))
  | claim {e : EntryRef} {id : UUID} {task : TaskPayload} {reply : WorkerReply}
      {s' : RedisTaskStore} : (∀ p, s'.delivered p = s.delivered p) →
      ClaimEffect s (.claim e id task) (.returned reply) s'

theorem delivered_add (s : RedisTaskStore) (now : Time) (priority : TaskPriority) (id : UUID)
    (p : TaskPriority) :
    (s.setStream priority ((s.streams priority).add now id)).delivered p = s.delivered p := by
  rw [delivered, setStream_streams]
  by_cases hp : p = priority
  · rw [hp, Function.update_self]
    rfl
  · rw [Function.update_of_ne hp]
    rfl

theorem claimEffect_of_next (h : q.pointNext tenantId point now s = some (point', s')) :
    ClaimEffect s point point' s' := by
  have hnone : ∀ {l l' : QueuePoint}, held l' = none →
      ∀ e, held l' = some e → held l = some e :=
    fun hl' e he ↦ nomatch hl'.symm.trans he
  cases point with
  | lookup id plan =>
      simp only [pointNext] at h
      split at h
      · cases h
        exact .aside (hnone rfl) (fun _ ↦ rfl) rfl
      · cases h
        exact .aside (hnone (held_planPoint _ _)) (fun _ ↦ rfl) rfl
  | plan c cs reply =>
      cases c with
      | zadd id executeAt =>
          cases h
          exact .aside (hnone (held_planPoint _ _)) (fun _ ↦ rfl) rfl
      | zaddIn id seconds =>
          cases h
          exact .aside (hnone rfl) (fun _ ↦ rfl) rfl
      | xadd priority id =>
          cases h
          exact .aside (hnone (held_planPoint _ _)) (delivered_add s now priority id) rfl
      | aside b =>
          cases h
          exact .aside (hnone (held_planPoint _ _)) (b.untouched now s).delivered rfl
  | scan =>
      cases h
      exact .aside (hnone (held_movePoint _)) (fun _ ↦ rfl) rfl
  | getDelayed id ids =>
      simp only [pointNext] at h
      split at h
      · cases h
        exact .aside (hnone rfl) (fun _ ↦ rfl) rfl
      · cases h
        exact .aside (hnone rfl) (fun _ ↦ rfl) rfl
  | addDelayed id priority ids =>
      cases h
      exact .aside (hnone rfl) (delivered_add s now priority id) rfl
  | removeDelayed id ids =>
      cases h
      exact .aside (hnone (held_movePoint _)) (fun _ ↦ rfl) rfl
  | read p ps =>
      simp only [pointNext] at h
      split at h
      · cases h
        exact .aside (hnone (held_readPoint _)) (fun _ ↦ rfl) rfl
      · rename_i hnext
        cases h
        exact .read hnext
  | fetch e id ps =>
      simp only [pointNext] at h
      split at h
      · cases h
        exact .aside (hnone (held_dropPoint _ _)) (fun _ ↦ rfl) rfl
      · cases h
        exact .aside (fun _ he ↦ he) (fun _ ↦ rfl) rfl
  | judge e id task ps =>
      simp only [pointNext] at h
      split at h
      · cases h
        exact .aside (hnone (held_readPoint _)) (fun _ ↦ rfl) rfl
      · split at h
        · cases h
          exact .aside (hnone (held_dropPoint _ _)) (fun _ ↦ rfl) rfl
        · cases h
          exact .aside (fun _ he ↦ he) (fun _ ↦ rfl) rfl
  | drop b as ps =>
      cases h
      exact .aside (hnone (held_dropPoint _ _)) (b.untouched now s).delivered rfl
  | claim e id task =>
      cases h
      exact .claim fun _ ↦ rfl
  | returned reply => cases h

/-! ## The delayed tasks -/

/-- The delayed task that the next command of a call removes. -/
def removeOf : QueuePoint → Option UUID
  | .removeDelayed id _ => some id
  | _ => none

theorem mem_moving_of_removeOf {id : UUID} (h : removeOf point = some id) : id ∈ moving point := by
  cases point with
  | removeDelayed id' ids =>
      cases h
      exact List.mem_cons_self
  | lookup | plan | scan | getDelayed | addDelayed | read | fetch | judge | drop | claim
  | returned => cases h

theorem removeOf_movePoint (ids : List UUID) : removeOf (movePoint ids) = none := by
  cases ids with
  | nil | cons => rfl

/-- The calls move different tasks, all of them delayed. -/
structure MovingInv (p : QueueState κ) : Prop where
  nodup : ∀ i, (moving (p.points i)).Nodup
  delayed : ∀ i, ∀ id ∈ moving (p.points i), p.server.delayed.get? id ≠ none
  apart : ∀ i j id, id ∈ moving (p.points i) → id ∈ moving (p.points j) → i = j

def ToAdd (p : QueueState κ) (id : UUID) : Prop :=
  p.server.delayed.get? id ≠ none ∧ ∀ i, removeOf (p.points i) ≠ some id

/-- The notes tell the tasks that are still to be added from those that were. -/
structure Ledger (x : QueueState κ × MoveNotes) : Prop where
  opened : ∀ id, ToAdd x.1 id → x.2.Opened id
  settled : ∀ id, ¬ ToAdd x.1 id → x.2.Settled id

theorem moveNote_aside {p : QueueState κ} (notes : MoveNotes) (hmoving : moving (p.points a.1) = [])
    (hput : putOf (p.points a.1) = none) : (moveNote p a notes).puts = notes.puts := by
  rw [moveNote]
  generalize p.points a.1 = l at hmoving hput
  cases l with
  | plan c cs reply =>
      cases c with
      | zadd => cases hput
      | zaddIn | xadd | aside => rfl
  | addDelayed => cases hmoving
  | lookup | scan | getDelayed | removeDelayed | read | fetch | judge | drop | claim
  | returned => rfl

theorem moveNote_claimed {p : QueueState κ} (notes : MoveNotes)
    (hclaim : claimOf (p.points a.1) = none) : (moveNote p a notes).claimed = notes.claimed := by
  rw [moveNote]
  generalize p.points a.1 = l at hclaim
  cases l with
  | plan c cs reply =>
      cases c with
      | zadd | zaddIn | xadd | aside => rfl
  | addDelayed => exact claimed_add
  | claim => cases hclaim
  | lookup | scan | getDelayed | removeDelayed | read | fetch | judge | drop | returned => rfl

variable [DecidableEq κ] {p : QueueState κ} {i : κ}

theorem movingInv_move (hp : MovingInv p) (hnodup : (moving point').Nodup)
    (hdelayed : ∀ id ∈ moving point', s'.delayed.get? id ≠ none)
    (hnew : ∀ id ∈ moving point', id ∈ moving (p.points i) ∨ ∀ j, id ∉ moving (p.points j))
    (hothers : ∀ j, j ≠ i → ∀ id ∈ moving (p.points j), s'.delayed.get? id ≠ none) :
    MovingInv (p.move i point' s') := by
  have hother : ∀ j id, j ≠ i → id ∈ moving point' → id ∉ moving (p.points j) := by
    intro j id hj hid hmem
    rcases hnew id hid with hold | hnone
    · exact hj (hp.apart j i id hmem hold)
    · exact hnone j hmem
  constructor
  · intro j
    by_cases hj : j = i
    · rw [hj, Points.points_move_self]
      exact hnodup
    · rw [Points.points_move_of_ne hj]
      exact hp.nodup j
  · intro j
    by_cases hj : j = i
    · rw [hj, Points.points_move_self]
      exact hdelayed
    · rw [Points.points_move_of_ne hj]
      exact hothers j hj
  · intro j k id hjid hkid
    by_cases hj : j = i
    · by_cases hk : k = i
      · rw [hj, hk]
      · rw [hj, Points.points_move_self] at hjid
        rw [Points.points_move_of_ne hk] at hkid
        exact absurd hkid (hother k id hk hjid)
    · rw [Points.points_move_of_ne hj] at hjid
      by_cases hk : k = i
      · rw [hk, Points.points_move_self] at hkid
        exact absurd hjid (hother j id hj hkid)
      · rw [Points.points_move_of_ne hk] at hkid
        exact hp.apart j k id hjid hkid

/-- A command that is not about a task leaves it to be added, or not. -/
theorem toAdd_move {id : UUID}
    (hdelayed : s'.delayed.get? id = p.server.delayed.get? id)
    (hremove : removeOf point' = some id ↔ removeOf (p.points i) = some id) :
    ToAdd (p.move i point' s') id ↔ ToAdd p id := by
  have hpoint : ∀ j, removeOf ((p.move i point' s').points j) = some id ↔
      removeOf (p.points j) = some id :=
    fun j ↦ Points.points_move_iff (P := fun l ↦ removeOf l = some id) hremove j
  rw [ToAdd, ToAdd, Points.server_move, hdelayed]
  exact and_congr_right fun _ ↦ forall_congr' fun j ↦ not_congr (hpoint j)

/-- What becomes of the notes on one task. -/
theorem ledger_move {notes notes' : MoveNotes} {id : UUID} (hledger : Ledger (p, notes))
    (hdelayed : ∀ j, j ≠ id → s'.delayed.get? j = p.server.delayed.get? j)
    (hremove : ∀ j, j ≠ id → (removeOf point' = some j ↔ removeOf (p.points i) = some j))
    (hputs : ∀ j, j ≠ id → notes'.puts j = notes.puts j)
    (hopened : ToAdd (p.move i point' s') id → notes'.Opened id)
    (hsettled : ¬ ToAdd (p.move i point' s') id → notes'.Settled id) :
    Ledger (p.move i point' s', notes') := by
  constructor
  · intro j hj
    by_cases hid : j = id
    · subst hid
      exact hopened hj
    · rw [Opened, hputs j hid]
      exact hledger.opened j ((toAdd_move (hdelayed j hid) (hremove j hid)).mp hj)
  · intro j hj
    by_cases hid : j = id
    · subst hid
      exact hsettled hj
    · rw [Settled, hputs j hid]
      exact hledger.settled j fun h ↦ hj ((toAdd_move (hdelayed j hid) (hremove j hid)).mpr h)

/-- A command that is about no task. -/
theorem ledger_same {notes notes' : MoveNotes} (hledger : Ledger (p, notes))
    (hdelayed : ∀ id, s'.delayed.get? id = p.server.delayed.get? id)
    (hremove : ∀ id, removeOf point' = some id ↔ removeOf (p.points i) = some id)
    (hputs : notes'.puts = notes.puts) : Ledger (p.move i point' s', notes') := by
  constructor
  · intro id hid
    rw [Opened, hputs]
    exact hledger.opened id ((toAdd_move (hdelayed id) (hremove id)).mp hid)
  · intro id hid
    rw [Settled, hputs]
    exact hledger.settled id fun h ↦ hid ((toAdd_move (hdelayed id) (hremove id)).mpr h)

section Commands

variable {notes notes' : MoveNotes} {id : UUID} {ids : List UUID}

theorem removeOf_of_moving (h : moving point = []) : removeOf point ≠ some id := by
  intro hremove
  have hmem := mem_moving_of_removeOf hremove
  rw [h] at hmem
  cases hmem

/-- A call that moves no task any more. -/
theorem movingInv_clear (hp : MovingInv p) (hnil : moving point' = [])
    (hothers : ∀ j, j ≠ i → ∀ id ∈ moving (p.points j), s'.delayed.get? id ≠ none) :
    MovingInv (p.move i point' s') := by
  refine movingInv_move hp ?_ ?_ ?_ hothers
  · rw [hnil]
    exact List.nodup_nil
  · rw [hnil]
    exact nofun
  · rw [hnil]
    exact nofun

theorem moveInv_aside (hmoving : MovingInv p) (hledger : Ledger (p, notes))
    (hnil : moving (p.points i) = []) (hnil' : moving point' = [])
    (hsame : s'.delayed = p.server.delayed) (hputs : notes'.puts = notes.puts) :
    MovingInv (p.move i point' s') ∧ Ledger (p.move i point' s', notes') := by
  constructor
  · refine movingInv_clear hmoving hnil' fun j _ id hid ↦ ?_
    rw [hsame]
    exact hmoving.delayed j id hid
  · refine ledger_same hledger (fun id ↦ by rw [hsame]) (fun id ↦ ?_) hputs
    exact iff_of_false (removeOf_of_moving hnil') (removeOf_of_moving hnil)

theorem moveInv_put {executeAt : ℚ} {cs : List QueueCommand} {reply : WorkerReply}
    (hmoving : MovingInv p) (hledger : Ledger (p, notes))
    (hpoint : p.points i = .plan (.zadd id executeAt) cs reply)
    (hgood : p.server.delayed.get? id = none) :
    let p' := p.move i (planPoint cs reply)
      { p.server with delayed := p.server.delayed.insert id executeAt }
    MovingInv p' ∧ Ledger (p', notes.put id) := by
  have hnil : moving (planPoint cs reply) = [] := moving_planPoint cs reply
  have hnone : ∀ j, id ∉ moving (p.points j) := fun j hmem ↦ hmoving.delayed j id hmem hgood
  constructor
  · refine movingInv_clear hmoving hnil fun j _ id' hid ↦ ?_
    have hne : id' ≠ id := fun heq ↦ hnone j (heq ▸ hid)
    rw [Dict.get?_insert_of_ne _ _ hne]
    exact hmoving.delayed j id' hid
  · have hclosed : notes.Settled id := hledger.settled id fun h ↦ h.1 hgood
    refine ledger_move hledger (fun j hj ↦ Dict.get?_insert_of_ne _ _ hj) (fun j _ ↦ ?_)
      (fun j hj ↦ puts_put_of_ne hj) (fun _ ↦ opened_put hclosed) fun hnot ↦ ?_
    · rw [hpoint]
      exact iff_of_false (removeOf_of_moving hnil) nofun
    · refine absurd ⟨?_, fun j h ↦ ?_⟩ hnot
      · rw [Points.server_move, Dict.get?_insert_self]
        exact Option.some_ne_none _
      · by_cases hj : j = i
        · rw [hj, Points.points_move_self] at h
          exact removeOf_of_moving hnil h
        · rw [Points.points_move_of_ne hj] at h
          exact hnone j (mem_moving_of_removeOf h)

theorem moveInv_scan (hmoving : MovingInv p) (hledger : Ledger (p, notes))
    (hpoint : p.points i = .scan) (hgood : ∀ id ∈ due p.server now, ∀ j, id ∉ moving (p.points j)) :
    let p' := p.move i (movePoint (due p.server now)) p.server
    MovingInv p' ∧ Ledger (p', notes) := by
  have hids : moving (movePoint (due p.server now)) = due p.server now := moving_movePoint _
  constructor
  · refine movingInv_move hmoving ?_ ?_ ?_ fun j _ ↦ hmoving.delayed j
    · rw [hids]
      exact nodup_zrangebyscore _ _ _ _ _
    · rw [hids]
      intro id hid
      obtain ⟨score, hget, -⟩ := due_of_mem hid
      rw [hget]
      exact Option.some_ne_none _
    · rw [hids]
      exact fun id hid ↦ .inr (hgood id hid)
  · refine ledger_same hledger (fun _ ↦ rfl) (fun id ↦ ?_) rfl
    rw [hpoint, removeOf_movePoint]
    exact iff_of_false nofun nofun

theorem moveInv_found {priority : TaskPriority} (hmoving : MovingInv p)
    (hledger : Ledger (p, notes)) (hpoint : p.points i = .getDelayed id ids) :
    let p' := p.move i (.addDelayed id priority ids) p.server
    MovingInv p' ∧ Ledger (p', notes) := by
  have hsame : moving (.addDelayed id priority ids) = moving (p.points i) := by
    rw [hpoint]
    rfl
  constructor
  · refine movingInv_move hmoving ?_ ?_ ?_ fun j _ ↦ hmoving.delayed j
    · rw [hsame]
      exact hmoving.nodup i
    · rw [hsame]
      exact hmoving.delayed i
    · rw [hsame]
      exact fun id hid ↦ .inl hid
  · refine ledger_same hledger (fun _ ↦ rfl) (fun id ↦ ?_) rfl
    rw [hpoint]
    exact iff_of_false nofun nofun

theorem moveInv_add {priority : TaskPriority} {e : EntryRef} (hmoving : MovingInv p)
    (hledger : Ledger (p, notes)) (hpoint : p.points i = .addDelayed id priority ids) :
    let p' := p.move i (.removeDelayed id ids)
      (p.server.setStream priority ((p.server.streams priority).add now id))
    MovingInv p' ∧ Ledger (p', notes.add id e) := by
  have hsame : moving (.removeDelayed id ids) = moving (p.points i) := by
    rw [hpoint]
    rfl
  have hself : id ∈ moving (p.points i) := by
    rw [hpoint]
    exact List.mem_cons_self
  constructor
  · refine movingInv_move hmoving ?_ ?_ ?_ fun j _ ↦ hmoving.delayed j
    · rw [hsame]
      exact hmoving.nodup i
    · rw [hsame]
      exact hmoving.delayed i
    · rw [hsame]
      exact fun id hid ↦ .inl hid
  · -- no other call removes the task, and this one has not got there
    have hopen : notes.Opened id := by
      refine hledger.opened id ⟨hmoving.delayed i id hself, fun j h ↦ ?_⟩
      obtain rfl := hmoving.apart i j id hself (mem_moving_of_removeOf h)
      rw [hpoint] at h
      cases h
    refine ledger_move hledger (fun _ _ ↦ rfl) (fun j hj ↦ ?_) (fun j hj ↦ puts_add_of_ne hj)
      (fun hadd ↦ ?_) fun _ ↦ settled_add hopen
    · rw [hpoint]
      exact iff_of_false (fun h ↦ hj (Option.some.inj h).symm) nofun
    · refine absurd ?_ (hadd.2 i)
      rw [Points.points_move_self]
      rfl

theorem moveInv_remove (hmoving : MovingInv p) (hledger : Ledger (p, notes))
    (hpoint : p.points i = .removeDelayed id ids) :
    let p' := p.move i (movePoint ids) { p.server with delayed := p.server.delayed.erase id }
    MovingInv p' ∧ Ledger (p', notes) := by
  have hsame : moving (p.points i) = id :: ids := by rw [hpoint, moving]
  have hnodup := hmoving.nodup i
  have hdelayed := hmoving.delayed i
  rw [hsame] at hnodup hdelayed
  obtain ⟨hnotMem, hids⟩ := List.nodup_cons.mp hnodup
  have herase : ∀ {id'}, id' ≠ id →
      (p.server.delayed.erase id).get? id' = p.server.delayed.get? id' := by
    intro id' hne
    rw [Dict.get?_erase, if_neg hne]
  have hmove : moving (movePoint ids) = ids := moving_movePoint ids
  constructor
  · refine movingInv_move hmoving ?_ ?_ ?_ fun j hj id' hid ↦ ?_
    · rw [hmove]
      exact hids
    · rw [hmove]
      intro id' hid
      rw [herase fun heq ↦ hnotMem (heq ▸ hid)]
      exact hdelayed id' (List.mem_cons_of_mem _ hid)
    · rw [hmove, hsame]
      exact fun id' hid ↦ .inl (List.mem_cons_of_mem _ hid)
    · rw [herase]
      · exact hmoving.delayed j id' hid
      · rintro rfl
        exact hj (hmoving.apart j i id' hid (hsame ▸ List.mem_cons_self))
  · have hclosed : notes.Settled id := by
      refine hledger.settled id fun h ↦ h.2 i ?_
      rw [hpoint]
      rfl
    refine ledger_move hledger (fun j hj ↦ herase hj) (fun j hj ↦ ?_) (fun _ _ ↦ rfl)
      (fun hadd ↦ absurd (Dict.get?_erase_self _ _) hadd.1) fun _ ↦ hclosed
    rw [hpoint, removeOf_movePoint]
    exact iff_of_false nofun fun h ↦ hj (Option.some.inj h).symm

end Commands

/-- What a good command keeps. -/
theorem moveInv_step {calls : κ → RedisTaskQueue × WorkerCall} (hmoving : MovingInv x.1)
    (hledger : Ledger x) (hgood : GoodMove x a)
    (hstep : Step.graph (noted moveNote (queueOutline calls).step) x a y) :
    MovingInv y.1 ∧ Ledger y := by
  obtain ⟨p, notes⟩ := x
  obtain ⟨r, hr, rfl⟩ := Option.map_eq_some_iff.mp hstep
  obtain ⟨point', s', hnext, rfl⟩ := Outline.exists_move hr
  have heffect := moveEffect_of_next hnext
  have hnote : moveNote p a notes = moveNote p a notes := rfl
  rw [GoodMove] at hgood
  conv at hnote => rhs; rw [moveNote]
  generalize hpoint : p.points a.1 = point at heffect hgood hnote
  cases heffect with
  | aside hnil hnil' hsame hput hscan =>
      exact moveInv_aside hmoving hledger (by rw [hpoint, hnil]) hnil' hsame
        (moveNote_aside notes (by rw [hpoint, hnil]) (by rw [hpoint, hput]))
  | put => exact hnote ▸ moveInv_put hmoving hledger hpoint hgood
  | scan => exact hnote ▸ moveInv_scan hmoving hledger hpoint hgood
  | found hread => exact hnote ▸ moveInv_found hmoving hledger hpoint
  | missing hread =>
      obtain ⟨task, htask⟩ := hgood
      cases hread.symm.trans htask
  | add => exact hnote ▸ moveInv_add hmoving hledger hpoint
  | remove => exact hnote ▸ moveInv_remove hmoving hledger hpoint

/-! ## The claims -/

/-- Different calls hold different entries, and none that was claimed. -/
structure ClaimInv (x : QueueState κ × MoveNotes) : Prop where
  apart : ∀ i j e, held (x.1.points i) = some e → held (x.1.points j) = some e → i = j
  heldRead : ∀ i e, held (x.1.points i) = some e → e.id ≤ x.1.server.delivered e.priority
  fresh : ∀ i e, held (x.1.points i) = some e → e ∉ x.2.claimed
  claimedRead : ∀ e ∈ x.2.claimed, e.id ≤ x.1.server.delivered e.priority
  nodup : x.2.claimed.Nodup

theorem delivered_deliver_read {p : TaskPriority} {m : StreamId} {id : UUID} (consumer : String)
    (hnext : (s.streams p).next = some (m, id)) (p' : TaskPriority) :
    s.delivered p' ≤ (s.setStream p ((s.streams p).deliver consumer m)).delivered p' := by
  rw [delivered, delivered, setStream_streams]
  by_cases hp : p' = p
  · rw [hp, Function.update_self]
    exact (RedisStream.delivered_lt_of_next hnext).le
  · rw [Function.update_of_ne hp]

section Claims

variable {notes notes' : MoveNotes} {e : EntryRef}

theorem claimInv_aside (hx : ClaimInv (p, notes))
    (hheld : ∀ e, held point' = some e → held (p.points i) = some e)
    (hsame : ∀ p', s'.delivered p' = p.server.delivered p')
    (hclaimed : notes'.claimed = notes.claimed) : ClaimInv (p.move i point' s', notes') := by
  -- whoever holds an entry held it before
  have hbefore : ∀ j e, held ((p.move i point' s').points j) = some e →
      held (p.points j) = some e := by
    intro j e hj
    by_cases heq : j = i
    · rw [heq, Points.points_move_self] at hj
      rw [heq]
      exact hheld e hj
    · rw [Points.points_move_of_ne heq] at hj
      exact hj
  constructor
  · exact fun i j e hi hj ↦ hx.apart i j e (hbefore i e hi) (hbefore j e hj)
  · intro j e hj
    rw [Points.server_move, hsame]
    exact hx.heldRead j e (hbefore j e hj)
  · intro j e hj
    rw [hclaimed]
    exact hx.fresh j e (hbefore j e hj)
  · intro e he
    rw [hclaimed] at he
    rw [Points.server_move, hsame]
    exact hx.claimedRead e he
  · rw [hclaimed]
    exact hx.nodup

theorem claimInv_read {prio : TaskPriority} {ps : List TaskPriority} {m : StreamId} {id : UUID}
    {consumer : String} (hx : ClaimInv (p, notes))
    (hentry : (p.server.streams prio).next = some (m, id))
    (hclaimed : notes'.claimed = notes.claimed) :
    ClaimInv (p.move i (.fetch ⟨prio, m⟩ id ps)
      (p.server.setStream prio ((p.server.streams prio).deliver consumer m)), notes') := by
  have hmono := delivered_deliver_read consumer hentry
  -- the entry was not handed out before
  have hnew : ∀ e : EntryRef, e.id ≤ p.server.delivered e.priority → e ≠ ⟨prio, m⟩ := by
    rintro e he rfl
    exact not_lt_of_ge he (RedisStream.delivered_lt_of_next hentry)
  have hself : (p.server.setStream prio ((p.server.streams prio).deliver consumer m)).delivered
      prio = m := by
    rw [delivered, setStream_streams, Function.update_self]
    rfl
  have hcases : ∀ j e, held ((p.move i (.fetch ⟨prio, m⟩ id ps)
      (p.server.setStream prio ((p.server.streams prio).deliver consumer m))).points j) = some e →
        j = i ∧ e = ⟨prio, m⟩ ∨ j ≠ i ∧ held (p.points j) = some e := by
    intro j e hj
    by_cases heq : j = i
    · rw [heq, Points.points_move_self] at hj
      exact .inl ⟨heq, (Option.some.inj hj).symm⟩
    · rw [Points.points_move_of_ne heq] at hj
      exact .inr ⟨heq, hj⟩
  constructor
  · intro j k e hj hk
    rcases hcases j e hj with ⟨rfl, rfl⟩ | ⟨-, hheld⟩
    · rcases hcases k _ hk with ⟨rfl, -⟩ | ⟨-, hheld⟩
      · rfl
      · exact absurd rfl (hnew _ (hx.heldRead k _ hheld))
    · rcases hcases k e hk with ⟨rfl, rfl⟩ | ⟨-, hheld'⟩
      · exact absurd rfl (hnew _ (hx.heldRead j _ hheld))
      · exact hx.apart j k e hheld hheld'
  · intro j e hj
    rcases hcases j e hj with ⟨-, rfl⟩ | ⟨-, hj⟩
    · exact hself.ge
    · exact (hx.heldRead j e hj).trans (hmono e.priority)
  · intro j e hj
    rw [hclaimed]
    rcases hcases j e hj with ⟨-, rfl⟩ | ⟨-, hj⟩
    · exact fun hmem ↦ hnew _ (hx.claimedRead _ hmem) rfl
    · exact hx.fresh j e hj
  · intro e he
    rw [hclaimed] at he
    exact (hx.claimedRead e he).trans (hmono e.priority)
  · rw [hclaimed]
    exact hx.nodup

theorem claimInv_claim {reply : WorkerReply} (hx : ClaimInv (p, notes))
    (hheld : held (p.points i) = some e) (hsame : ∀ p', s'.delivered p' = p.server.delivered p')
    (hclaimed : notes'.claimed = e :: notes.claimed) :
    ClaimInv (p.move i (.returned reply) s', notes') := by
  have hbefore : ∀ j e', held ((p.move i (.returned reply) s').points j) = some e' →
      j ≠ i ∧ held (p.points j) = some e' := by
    intro j e' hj
    by_cases heq : j = i
    · rw [heq, Points.points_move_self] at hj
      cases hj
    · rw [Points.points_move_of_ne heq] at hj
      exact ⟨heq, hj⟩
  constructor
  · exact fun j k e' hj hk ↦ hx.apart j k e' (hbefore j e' hj).2 (hbefore k e' hk).2
  · intro j e' hj
    rw [Points.server_move, hsame]
    exact hx.heldRead j e' (hbefore j e' hj).2
  · intro j e' hj
    obtain ⟨hne, hj⟩ := hbefore j e' hj
    rw [hclaimed]
    intro hmem
    rcases List.mem_cons.mp hmem with rfl | hmem
    · exact hne (hx.apart j i _ hj hheld)
    · exact hx.fresh j e' hj hmem
  · intro e' he'
    rw [hclaimed] at he'
    rw [Points.server_move, hsame]
    rcases List.mem_cons.mp he' with rfl | he'
    · exact hx.heldRead i _ hheld
    · exact hx.claimedRead e' he'
  · rw [hclaimed]
    exact List.nodup_cons.mpr ⟨hx.fresh i e hheld, hx.nodup⟩

end Claims

/-- Every command keeps the claims apart. -/
theorem claimInv_step {calls : κ → RedisTaskQueue × WorkerCall} (hx : ClaimInv x)
    (hstep : Step.graph (noted moveNote (queueOutline calls).step) x a y) : ClaimInv y := by
  obtain ⟨p, notes⟩ := x
  obtain ⟨r, hr, rfl⟩ := Option.map_eq_some_iff.mp hstep
  obtain ⟨point', s', hnext, rfl⟩ := Outline.exists_move hr
  have heffect := claimEffect_of_next hnext
  generalize hpoint : p.points a.1 = point at heffect
  cases heffect with
  | aside hheld hsame hclaim =>
      exact claimInv_aside hx (hpoint ▸ hheld) hsame (moveNote_claimed notes (by rw [hpoint, hclaim]))
  | read hentry => exact claimInv_read hx hentry (moveNote_claimed notes (by rw [hpoint]; rfl))
  | claim hsame =>
      exact claimInv_claim hx (by rw [hpoint]; rfl) hsame (by rw [moveNote, hpoint])

/-! ## Runs -/

/-- The calls before their first commands, on an empty server. -/
def queueBegun (calls : κ → RedisTaskQueue × WorkerCall) : QueueState κ where
  server := {}
  points i := (calls i).1.firstPoint (calls i).2

omit [DecidableEq κ] in
/-- The tasks of the notes were added once each. -/
theorem eachOnce_of_inv (hledger : Ledger x) (hclaim : ClaimInv x) : EachOnce x := by
  have hlengths : ∀ id, (∀ es ∈ x.2.puts id, es.length ≤ 1) ∧
      ∀ es ∈ (x.2.puts id).tail, es.length = 1 := by
    intro id
    by_cases hadd : ToAdd x.1 id
    · obtain ⟨rest, hputs, hrest⟩ := hledger.opened id hadd
      rw [hputs]
      refine ⟨fun es hes ↦ ?_, hrest⟩
      rcases List.mem_cons.mp hes with rfl | hes
      · exact Nat.zero_le 1
      · exact (hrest es hes).le
    · have hsettled := hledger.settled id hadd
      exact ⟨fun es hes ↦ (hsettled es hes).le, fun es hes ↦ hsettled es (List.mem_of_mem_tail hes)⟩
  constructor
  · exact fun id ↦ (hlengths id).1
  · exact fun id ↦ (hlengths id).2
  · exact fun id hnone ↦ hledger.settled id fun h ↦ h.1 hnone
  · exact hclaim.nodup

/-- Under every interleaving of the commands of any calls, each time that a task is put in the
delayed set it is added to its stream once, and the entry is claimed once at most, as long as
no `dequeue` reads an id that another one has read and not removed, the hash of an id that is
moved is there, and no task is put in the delayed set that is there. -/
theorem moved_once (calls : κ → RedisTaskQueue × WorkerCall) {as : List (κ × Time)}
    {x : ProgPool κ Time RedisTaskStore WorkerReply}
    (h : Run (Step.graph ProgPool.issue)
      { server := {}, progs := fun i ↦ (calls i).1.prog (calls i).2 } as x) :
    ∃ y : QueueState κ × MoveNotes, x = (queueOutline calls).pool y.1 ∧
      let step := Step.graph (noted moveNote (queueOutline calls).step)
      Run step (queueBegun calls, {}) as y ∧
        (Run (Step.Only GoodMove step) (queueBegun calls, {}) as y →
          ∀ bs z, bs <+: as → Run step (queueBegun calls, {}) bs z → EachOnce z) := by
  have hbegun : (queueOutline calls).pool (queueBegun calls)
      = { server := {}, progs := fun i ↦ (calls i).1.prog (calls i).2 } := by
    refine congrArg (ProgPool.mk _) (funext fun i ↦ ?_)
    exact (calls i).1.pointProg_firstPoint (calls i).2
  rw [← hbegun] at h
  obtain ⟨p, hrun, rfl⟩ := (queueOutline calls).run_pool.mp h
  obtain ⟨notes, hnoted⟩ := hrun.exists_noted moveNote {}
  refine ⟨(p, notes), rfl, hnoted, fun hgood bs z hbs hz ↦ ?_⟩
  -- the steps of a prefix are good
  obtain ⟨cs, rfl⟩ := hbs
  obtain ⟨z', hz', -⟩ := hgood.exists_of_append
  obtain rfl : z' = z := by
    have hfold := Run.graph_iff.mp hz'.of_only
    exact Option.some.inj (hfold.symm.trans (Run.graph_iff.mp hz))
  have hfirst : ∀ i, moving ((queueBegun calls).points i) = [] ∧
      removeOf ((queueBegun calls).points i) = none ∧
      held ((queueBegun calls).points i) = none := by
    intro i
    show moving ((calls i).1.firstPoint (calls i).2) = [] ∧
      removeOf ((calls i).1.firstPoint (calls i).2) = none ∧
      held ((calls i).1.firstPoint (calls i).2) = none
    cases (calls i).2 with
    | enqueue task delaySeconds =>
        rw [firstPoint]
        refine ⟨moving_planPoint _ _, ?_, held_planPoint _ _⟩
        cases ((calls i).1.enqueuePlan task delaySeconds).1 with
        | nil | cons => rfl
    | dequeue tenantId =>
        rw [firstPoint]
        cases (calls i).1.closed with
        | true | false => exact ⟨rfl, rfl, rfl⟩
    | complete | fail => exact ⟨rfl, rfl, rfl⟩
  have hstart : (MovingInv (queueBegun calls) ∧ Ledger (queueBegun calls, {})) ∧
      ClaimInv (queueBegun calls, {}) := by
    refine ⟨⟨⟨fun i ↦ ?_, fun i id hid ↦ ?_, fun i j id hid ↦ ?_⟩, ⟨fun id hadd ↦ ?_, fun id _ ↦ ?_⟩⟩,
      ⟨fun i j e hi ↦ ?_, fun i e hi ↦ ?_, fun i e hi ↦ ?_, by rintro _ ⟨⟩, List.nodup_nil⟩⟩
    · rw [(hfirst i).1]
      exact List.nodup_nil
    · rw [(hfirst i).1] at hid
      cases hid
    · rw [(hfirst i).1] at hid
      cases hid
    · exact absurd (Dict.get?_empty id) hadd.1
    · intro es hes
      cases hes
    · cases (hfirst i).2.2.symm.trans hi
    · cases (hfirst i).2.2.symm.trans hi
    · cases (hfirst i).2.2.symm.trans hi
  have hinv := hz'.invariant
    (P := fun x ↦ (MovingInv x.1 ∧ Ledger x) ∧ ClaimInv x) (fun x a y hx hstep ↦
      ⟨moveInv_step hx.1.1 hx.1.2 hstep.1 hstep.2, claimInv_step hx.2 hstep.2⟩) hstart
  exact eachOnce_of_inv hinv.1.2 hinv.2

def sampleWorkers : Fin 3 → RedisTaskQueue × WorkerCall
  | 0 => (sampleClient, .dequeue none)
  | 1 => ({ sampleClient with consumer := "worker_2" }, .dequeue none)
  | 2 => (sampleClient, .enqueue (sampleTask []) 1)

def enqueueTurns : List (Fin 3 × Time) :=
  [(2, 0), (2, 0), (2, 0), (2, 0), (2, 0), (2, 0)]

def moveTurns (i : Fin 3) : List (Fin 3 × Time) :=
  [(i, Time.seconds 2), (i, Time.seconds 2), (i, Time.seconds 2)]

/-- The commands of a worker that then reads three streams, and claims a task. -/
def claimTurns (i : Fin 3) : List (Fin 3 × Time) := moveTurns i ++ moveTurns i

instance decidableGoodMove [Fintype κ] (x : QueueState κ × MoveNotes) (a : κ × Time) :
    Decidable (GoodMove x a) :=
  match h : x.1.points a.1 with
  | .scan => decidable_of_iff (∀ id ∈ due x.1.server a.2, ∀ j, id ∉ moving (x.1.points j))
      (by rw [GoodMove, h])
  | .getDelayed id _ => decidable_of_iff ((x.1.server.tasks.read a.2 id).isSome = true)
      (by rw [GoodMove, h, Option.isSome_iff_exists])
  | .plan (.zadd id _) _ _ => decidable_of_iff (x.1.server.delayed.get? id = none)
      (by rw [GoodMove, h])
  | .plan (.zaddIn _ _) _ _ | .plan (.xadd _ _) _ _ | .plan (.aside _) _ _ | .lookup _ _
  | .addDelayed _ _ _ | .removeDelayed _ _ | .read _ _ | .fetch _ _ _ | .judge _ _ _ _
  | .drop _ _ _ | .claim _ _ _ | .returned _ => .isTrue (by rw [GoodMove, h]; trivial)

/-- The second worker finds nothing due at half a second.  While it reads the streams, the first
one moves the task, and then the second one claims it. -/
def sharedTurns : List (Fin 3 × Time) :=
  enqueueTurns ++ [(1, 500000), (0, Time.seconds 2), (1, Time.seconds 2), (0, Time.seconds 2),
    (1, Time.seconds 2), (0, Time.seconds 2), (0, Time.seconds 2), (1, Time.seconds 2),
    (1, Time.seconds 2), (0, Time.seconds 2), (1, Time.seconds 2), (0, Time.seconds 2),
    (1, Time.seconds 2)]

theorem moved_once_sample : ∃ z : QueueState (Fin 3) × MoveNotes,
    Run (Step.graph (noted moveNote (queueOutline sampleWorkers).step))
      (queueBegun sampleWorkers, {}) sharedTurns z ∧
    (z.2.puts ⟨1⟩).map List.length = [1] ∧ z.2.claimed.length = 1 ∧
    ∀ bs z, bs <+: sharedTurns →
      Run (Step.graph (noted moveNote (queueOutline sampleWorkers).step))
        (queueBegun sampleWorkers, {}) bs z → EachOnce z := by
  let step (x : QueueState (Fin 3) × MoveNotes) (a : Fin 3 × Time) :=
    if GoodMove x a then noted moveNote (queueOutline sampleWorkers).step x a else none
  have hnotes : (sharedTurns.foldlM step (queueBegun sampleWorkers, {})).map
      (fun z ↦ ((z.2.puts ⟨1⟩).map List.length, z.2.claimed.length)) = some ([1], 1) := by
    decide +kernel
  obtain ⟨z, hz, hcounts⟩ := Option.map_eq_some_iff.mp hnotes
  obtain ⟨hputs, hclaimed⟩ := Prod.mk.inj hcounts
  have hgood : Run (Step.Only GoodMove (Step.graph (noted moveNote
      (queueOutline sampleWorkers).step))) (queueBegun sampleWorkers, {}) sharedTurns z :=
    Run.only_graph_iff.mpr hz
  obtain ⟨x, hpool⟩ : ∃ x, Run (Step.graph ProgPool.issue)
      { server := {}, progs := fun i ↦ (sampleWorkers i).1.prog (sampleWorkers i).2 }
      sharedTurns x := by
    apply Exists.intro
    apply Run.graph_iff.mpr
    with_unfolding_all rfl
  obtain ⟨y, -, hrun, honce⟩ := moved_once sampleWorkers hpool
  obtain rfl : z = y :=
    Option.some.inj ((Run.graph_iff.mp hgood.of_only).symm.trans (Run.graph_iff.mp hrun))
  exact ⟨z, hrun, hputs, hclaimed, honce hgood⟩

/-- Both workers read the id of the one task, and both get it. -/
theorem moved_twice : ∃ x : ProgPool (Fin 3) Time RedisTaskStore WorkerReply,
    Run (Step.graph ProgPool.issue)
      { server := {}, progs := fun i ↦ (sampleWorkers i).1.prog (sampleWorkers i).2 }
      (enqueueTurns ++ [(0, Time.seconds 2), (1, Time.seconds 2)] ++ moveTurns 0 ++ moveTurns 1 ++
        claimTurns 0 ++ claimTurns 1) x ∧
    ∃ task task', x.progs 0 = .pure (.dequeued (some task)) ∧
      x.progs 1 = .pure (.dequeued (some task')) ∧ task.taskId = ⟨1⟩ ∧ task'.taskId = ⟨1⟩ := by
  apply Exists.intro
  constructor
  · apply Run.graph_iff.mpr
    with_unfolding_all rfl
  · apply Exists.intro
    apply Exists.intro
    constructor
    · with_unfolding_all rfl
    · constructor
      · with_unfolding_all rfl
      · exact ⟨rfl, rfl⟩

end RedisTaskQueue

end SemanticBus
