import SemanticBus.Data.Pool
import SemanticBus.Storage.Execs

/-!
# Concurrent creation of executions

Some calls of `put_if_absent` share a session and an idempotency key, and issue their
commands to the server in any order.  A call that finds no mapping of the key stands in
a window until it writes the mapping itself.  The calls give one execution exactly when
no call enters the window while one with another execution id stands in it
(`deduplicated_iff`).
-/

universe u

namespace SemanticBus

/-- Some calls whose records share a session and an idempotency key. -/
structure KeyedCalls (κ : Type u) where
  records : κ → ExecRecord
  sessionId : UUID
  key : String
  sessionId_eq : ∀ i, (records i).sessionId = sessionId
  key_eq : ∀ i, nonempty (records i).idempotencyKey = some key

/-- Where a call stands: the command that it issues next, or what it returned. -/
inductive PutPoint where
  | getMapping
  /-- `GET` of the record that the key is mapped to. -/
  | getFound (execId : UUID)
  /-- `SET` with `NX`. -/
  | setRecord
  /-- `GET` of the record that was there. -/
  | getRecord
  | setMapping
  | addToIndex
  | expireIndex
  | returned (reply : ExecReply)

namespace PutPoint

/-- The call has found no mapping and not written one. -/
def inWindow : PutPoint → Prop
  | .setRecord | .getRecord | .setMapping => True
  | _ => False

/-- The `SET` with `NX` of the call was the first one. -/
def created : PutPoint → Prop
  | .setMapping | .addToIndex | .expireIndex => True
  | .returned (.put _ created) => created = true
  | _ => False

def mapped : PutPoint → Prop
  | .addToIndex | .expireIndex => True
  | .returned (.put _ created) => created = true
  | _ => False

end PutPoint

namespace KeyedCalls

variable {κ : Type u} (calls : KeyedCalls κ) (store : RedisExecStore)

def prog (i : κ) : PutPoint → ExecProg ExecReply
  | .getMapping => store.putIfAbsent (calls.records i)
  | .getFound execId => store.putFound (calls.records i) execId
  | .setRecord => store.putNew (calls.records i)
  | .getRecord => store.readBack (calls.records i)
  | .setMapping => store.register (calls.records i)
  | .addToIndex => do
      RedisExecStore.addToIndex (calls.records i)
      store.expireIndex (calls.records i)
      pure (.put (calls.records i) true)
  | .expireIndex => do
      store.expireIndex (calls.records i)
      pure (.put (calls.records i) true)
  | .returned reply => pure reply

def next (i : κ) (point : PutPoint) (now : Time) (s : RedisExecs) :
    Option (PutPoint × RedisExecs) :=
  let record := calls.records i
  match point with
  | .getMapping =>
      match s.idem.read now (calls.sessionId, calls.key) with
      | none => some (.setRecord, s)
      | some execId => some (.getFound execId, s)
  | .getFound execId =>
      match s.execs.read now execId with
      | none => some (.setRecord, s)
      | some existing => some (.returned (.put existing false), s)
  | .setRecord =>
      match s.execs.read now record.execId with
      | none => some (.setMapping,
          { s with execs := s.execs.write record.execId record (store.expiry now) })
      | some _ => some (.getRecord, s)
  | .getRecord =>
      match s.execs.read now record.execId with
      | none => some (.setMapping, s)
      | some existing => some (.returned (.put existing false), s)
  | .setMapping => some (.addToIndex,
      { s with
        idem := s.idem.write (calls.sessionId, calls.key) record.execId (store.expiry now) })
  | .addToIndex => some (.expireIndex,
      { s with
        bySession := s.bySession.change now record.sessionId fun members ↦
          insert record.execId (members.getD ∅) })
  | .expireIndex => some (.returned (.put record true),
      { s with bySession := s.bySession.expire now record.sessionId store.ttl })
  | .returned _ => none

/-- The calls, by the points at which they stand. -/
def outline : Outline κ PutPoint Time RedisExecs ExecReply where
  prog := calls.prog store
  next := calls.next store
  issue_prog := by
    intro i point now s
    cases point with
    | getMapping =>
        rw [prog, RedisExecStore.putIfAbsent, calls.key_eq]
        simp only [next]
        rw [← calls.sessionId_eq i]
        show some _ = _
        cases hread : s.idem.read now ((calls.records i).sessionId, calls.key) with
        | none => simp only [hread]; rfl
        | some execId => simp only [hread]; rfl
    | getFound execId =>
        simp only [next]
        show some _ = _
        cases hread : s.execs.read now execId with
        | none => simp only [hread]; rfl
        | some existing => simp only [hread]; rfl
    | setRecord =>
        simp only [next]
        show some _ = _
        cases hread : s.execs.read now (calls.records i).execId with
        | none => simp only [hread]; rfl
        | some existing => simp only [hread]; rfl
    | getRecord =>
        simp only [next]
        show some _ = _
        cases hread : s.execs.read now (calls.records i).execId with
        | none => simp only [hread]; rfl
        | some existing => simp only [hread]; rfl
    | setMapping =>
        rw [prog, RedisExecStore.register, RedisExecStore.mapKey, calls.key_eq]
        simp only [next]
        rw [← calls.sessionId_eq i]
        rfl
    | addToIndex => rfl
    | expireIndex => rfl
    | returned reply => rfl

/-! ## What a command does -/

/-- What the next command of a call does to the server, and the point after it. -/
inductive Move (i : κ) (now : Time) (s : RedisExecs) : PutPoint → PutPoint → RedisExecs → Prop
  | missed : s.idem.read now (calls.sessionId, calls.key) = none →
      Move i now s .getMapping .setRecord s
  | found {execId : UUID} : s.idem.read now (calls.sessionId, calls.key) = some execId →
      Move i now s .getMapping (.getFound execId) s
  | lost {execId : UUID} : s.execs.read now execId = none →
      Move i now s (.getFound execId) .setRecord s
  | returnFound {execId : UUID} {existing : ExecRecord} :
      s.execs.read now execId = some existing →
      Move i now s (.getFound execId) (.returned (.put existing false)) s
  | create : s.execs.read now (calls.records i).execId = none →
      Move i now s .setRecord .setMapping
        { s with
          execs := s.execs.write (calls.records i).execId (calls.records i) (store.expiry now) }
  | present {existing : ExecRecord} :
      s.execs.read now (calls.records i).execId = some existing →
      Move i now s .setRecord .getRecord s
  | expired : s.execs.read now (calls.records i).execId = none →
      Move i now s .getRecord .setMapping s
  | returnPresent {existing : ExecRecord} :
      s.execs.read now (calls.records i).execId = some existing →
      Move i now s .getRecord (.returned (.put existing false)) s
  | map : Move i now s .setMapping .addToIndex
      { s with
        idem := s.idem.write (calls.sessionId, calls.key) (calls.records i).execId
          (store.expiry now) }
  | index {bySession : Expiring UUID (Finset UUID)} :
      Move i now s .addToIndex .expireIndex { s with bySession := bySession }
  | done {bySession : Expiring UUID (Finset UUID)} :
      Move i now s .expireIndex (.returned (.put (calls.records i) true))
        { s with bySession := bySession }

variable {calls store}

theorem move_of_next {i : κ} {now : Time} {s s' : RedisExecs} {point point' : PutPoint}
    (h : calls.next store i point now s = some (point', s')) :
    calls.Move store i now s point point' s' := by
  cases point with
  | getMapping =>
      simp only [next] at h
      split at h
      · rename_i hread
        cases h
        exact .missed hread
      · rename_i hread
        cases h
        exact .found hread
  | getFound execId =>
      simp only [next] at h
      split at h
      · rename_i hread
        cases h
        exact .lost hread
      · rename_i hread
        cases h
        exact .returnFound hread
  | setRecord =>
      simp only [next] at h
      split at h
      · rename_i hread
        cases h
        exact .create hread
      · rename_i hread
        cases h
        exact .present hread
  | getRecord =>
      simp only [next] at h
      split at h
      · rename_i hread
        cases h
        exact .expired hread
      · rename_i hread
        cases h
        exact .returnPresent hread
  | setMapping =>
      cases h
      exact .map
  | addToIndex =>
      cases h
      exact .index
  | expireIndex =>
      cases h
      exact .done
  | returned reply => cases h

/-! ## Whose records there are -/

/-- The lifetime of the keys that are written from `start` on. -/
def window (store : RedisExecStore) (start t : Time) : Prop :=
  start ≤ t ∧ t < start + Time.seconds store.ttl

instance (store : RedisExecStore) (start t : Time) : Decidable (window store start t) :=
  inferInstanceAs (Decidable (_ ∧ _))

abbrev State (κ : Type u) := Points κ PutPoint RedisExecs

/-- What a call relies on: another one, or the same one, has created the record. -/
def Justified (calls : KeyedCalls κ) (p : State κ) (i : κ) : PutPoint → Prop
  | .getFound execId => ∃ j, (p.points j).created ∧ (calls.records j).execId = execId
  | .getRecord =>
      ∃ j, (p.points j).created ∧ (calls.records j).execId = (calls.records i).execId
  | .returned (.put existing false) => ∃ j, (p.points j).created ∧ calls.records j = existing
  | _ => True

/-- The server holds the records of the calls that created one, at every time of the
lifetime, and maps the key to one of them. -/
structure Sound (calls : KeyedCalls κ) (store : RedisExecStore) (start : Time) (p : State κ) :
    Prop where
  stored : ∀ t, window store start t → ∀ i existing,
    p.server.execs.read t (calls.records i).execId = some existing →
      ∃ j, (p.points j).created ∧ calls.records j = existing ∧
        (calls.records j).execId = (calls.records i).execId
  kept : ∀ i, (p.points i).created → ∀ t, window store start t →
    p.server.execs.read t (calls.records i).execId = some (calls.records i)
  unique : ∀ i j, (p.points i).created → (p.points j).created →
    (calls.records i).execId = (calls.records j).execId → i = j
  keyed : ∀ t, window store start t → ∀ execId,
    p.server.idem.read t (calls.sessionId, calls.key) = some execId →
      ∃ j, (p.points j).created ∧ (calls.records j).execId = execId
  mapped : ∀ i, (p.points i).mapped → ∀ t, window store start t →
    p.server.idem.read t (calls.sessionId, calls.key) ≠ none
  justified : ∀ i, calls.Justified p i (p.points i)

variable {start now : Time} {p q : State κ} {i : κ} {point point' : PutPoint} {s' : RedisExecs}

theorem window.lt {t : Time} (hnow : window store start now) (ht : window store start t) :
    t < now + Time.seconds store.ttl := ht.2.trans_le (Int.add_le_add_right hnow.1 _)

theorem window.lt_expiry {t : Time} (hnow : window store start now) (ht : window store start t) :
    ∀ e ∈ store.expiry now, t < e := by
  intro e he
  rw [← Option.some.inj he]
  exact hnow.lt ht

theorem Justified.mono (h : calls.Justified p i point)
    (hcreated : ∀ j, (p.points j).created → (q.points j).created) :
    calls.Justified q i point := by
  unfold Justified at h ⊢
  split at h
  · exact h.imp fun j ↦ And.imp_left (hcreated j)
  · exact h.imp fun j ↦ And.imp_left (hcreated j)
  · exact h.imp fun j ↦ And.imp_left (hcreated j)
  · trivial

/-- A creator stands in the window until it has written the mapping. -/
theorem inWindow_of_created (hcreated : point.created) (hmap : ¬ point.mapped) :
    point.inWindow := by
  cases point with
  | setMapping => trivial
  | addToIndex => exact absurd trivial hmap
  | expireIndex => exact absurd trivial hmap
  | returned reply =>
      cases reply with
      | put record created => exact absurd hcreated hmap
      | record record => exact hcreated.elim
      | records records => exact hcreated.elim
  | _ => exact hcreated.elim

variable [DecidableEq κ]

/-- A call goes on, at a time of the lifetime of a key that is written from `start` on. -/
def Step (calls : KeyedCalls κ) (store : RedisExecStore) (start : Time) :
    Step (State κ) (κ × Time) :=
  Step.Only (fun _ a ↦ window store start a.2) (Step.graph (calls.outline store).step)

theorem exists_move {a : κ × Time} (h : Step calls store start p a q) :
    window store start a.2 ∧ ∃ point s, calls.Move store a.1 a.2 p.server (p.points a.1) point s ∧
      q = p.move a.1 point s := by
  obtain ⟨hwindow, hstep⟩ := h
  obtain ⟨point, s, hnext, rfl⟩ := Outline.exists_move hstep
  exact ⟨hwindow, point, s, move_of_next hnext, rfl⟩

/-- A move after which the records and the mapping are what they were. -/
theorem Sound.frame (h : calls.Sound store start p) (hexecs : s'.execs = p.server.execs)
    (hidem : s'.idem = p.server.idem) (hpoint : p.points i = point')
    (hcreated : point.created ↔ point'.created) (hmapped : point.mapped ↔ point'.mapped)
    (hjust : calls.Justified p i point) : calls.Sound store start (p.move i point s') := by
  have hc := @Points.points_move_iff _ _ _ _ p i point s' PutPoint.created (hpoint ▸ hcreated)
  have hm := @Points.points_move_iff _ _ _ _ p i point s' PutPoint.mapped (hpoint ▸ hmapped)
  refine ⟨?_, ?_, ?_, ?_, ?_, ?_⟩
  · intro t ht j existing hread
    simp only [hc]
    exact h.stored t ht j existing (hexecs ▸ hread)
  · intro j hj t ht
    show s'.execs.read t _ = _
    rw [hexecs]
    exact h.kept j ((hc j).mp hj) t ht
  · intro j k hj hk
    exact h.unique j k ((hc j).mp hj) ((hc k).mp hk)
  · intro t ht execId hread
    simp only [hc]
    exact h.keyed t ht execId (hidem ▸ hread)
  · intro j hj t ht
    show s'.idem.read t _ ≠ none
    rw [hidem]
    exact h.mapped j ((hm j).mp hj) t ht
  · refine (@Points.forall_points_move _ _ _ _ _ _ _ _ (calls.Justified _)).mpr ⟨?_, ?_⟩
    · exact hjust.mono fun j ↦ (hc j).mpr
    · exact fun j _ ↦ (h.justified j).mono fun k ↦ (hc k).mpr

/-- The first `SET` with `NX` of an execution id. -/
theorem Sound.create (h : calls.Sound store start p) (hnow : window store start now)
    (hnone : p.server.execs.read now (calls.records i).execId = none) :
    calls.Sound store start (p.move i .setMapping
      { p.server with
        execs := p.server.execs.write (calls.records i).execId (calls.records i)
          (store.expiry now) }) := by
  have hself : (Function.update p.points i .setMapping i).created := by
    rw [Function.update_self]
    trivial
  have hother : ∀ j, (p.points j).created → (Function.update p.points i .setMapping j).created := by
    intro j hj
    by_cases hji : j = i
    · rw [hji]
      exact hself
    · rw [Function.update_of_ne hji]
      exact hj
  have hcreated : ∀ j, (Function.update p.points i .setMapping j).created →
      j = i ∨ (p.points j).created := by
    intro j hj
    by_cases hji : j = i
    · exact .inl hji
    · rw [Function.update_of_ne hji] at hj
      exact .inr hj
  -- no creator has this id
  have hfresh : ∀ j, (p.points j).created → (calls.records j).execId ≠ (calls.records i).execId := by
    intro j hj hid
    have hread := h.kept j hj now hnow
    rw [hid, hnone] at hread
    cases hread
  have hwrite := fun t (ht : window store start t) j ↦
    @Expiring.read_write _ _ _ p.server.execs (calls.records i).execId
      (calls.records j).execId t (calls.records i) _ (hnow.lt_expiry ht)
  refine ⟨?_, ?_, ?_, ?_, ?_, ?_⟩
  · intro t ht j existing hread
    have hread := (hwrite t ht j).symm.trans hread
    split at hread
    · rename_i hid
      exact ⟨i, hself, Option.some.inj hread, hid.symm⟩
    · obtain ⟨k, hk, hrest⟩ := h.stored t ht j existing hread
      exact ⟨k, hother k hk, hrest⟩
  · intro j hj t ht
    refine (hwrite t ht j).trans ?_
    rcases hcreated j hj with hji | hold
    · rw [hji, if_pos rfl]
    · rw [if_neg (hfresh j hold)]
      exact h.kept j hold t ht
  · intro j k hj hk hid
    rcases hcreated j hj with hji | hjold
    · rcases hcreated k hk with hki | hkold
      · rw [hji, hki]
      · exact absurd (hid.symm.trans (hji ▸ rfl)) (hfresh k hkold)
    · rcases hcreated k hk with hki | hkold
      · exact absurd (hid.trans (hki ▸ rfl)) (hfresh j hjold)
      · exact h.unique j k hjold hkold hid
  · intro t ht execId hread
    obtain ⟨j, hj, hid⟩ := h.keyed t ht execId hread
    exact ⟨j, hother j hj, hid⟩
  · intro j hj t ht
    refine h.mapped j ?_ t ht
    have hj : (Function.update p.points i .setMapping j).mapped := hj
    by_cases hji : j = i
    · rw [hji, Function.update_self] at hj
      exact hj.elim
    · rw [Function.update_of_ne hji] at hj
      exact hj
  · refine (@Points.forall_points_move _ _ _ _ _ _ _ _ (calls.Justified _)).mpr ⟨?_, ?_⟩
    · trivial
    · exact fun j _ ↦ (h.justified j).mono hother

/-- The `SET` of the mapping. -/
theorem Sound.map (h : calls.Sound store start p) (hnow : window store start now)
    (hpoint : p.points i = .setMapping) :
    calls.Sound store start (p.move i .addToIndex
      { p.server with
        idem := p.server.idem.write (calls.sessionId, calls.key) (calls.records i).execId
          (store.expiry now) }) := by
  have hc := @Points.points_move_iff _ _ _ _ p i .addToIndex
    { p.server with
      idem := p.server.idem.write (calls.sessionId, calls.key) (calls.records i).execId
        (store.expiry now) } PutPoint.created (by rw [hpoint]; exact Iff.rfl)
  have hwrite := fun t (ht : window store start t) ↦
    @Expiring.read_write _ _ _ p.server.idem (calls.sessionId, calls.key)
      (calls.sessionId, calls.key) t (calls.records i).execId _ (hnow.lt_expiry ht)
  refine ⟨?_, ?_, ?_, ?_, ?_, ?_⟩
  · intro t ht j existing hread
    simp only [hc]
    exact h.stored t ht j existing hread
  · exact fun j hj ↦ h.kept j ((hc j).mp hj)
  · exact fun j k hj hk ↦ h.unique j k ((hc j).mp hj) ((hc k).mp hk)
  · intro t ht execId hread
    have hread := (hwrite t ht).symm.trans hread
    rw [if_pos rfl] at hread
    refine ⟨i, (hc i).mpr ?_, Option.some.inj hread⟩
    rw [hpoint]
    trivial
  · intro j _ t ht hread
    have hread := (hwrite t ht).symm.trans hread
    rw [if_pos rfl] at hread
    cases hread
  · refine (@Points.forall_points_move _ _ _ _ _ _ _ _ (calls.Justified _)).mpr ⟨?_, ?_⟩
    · trivial
    · exact fun j _ ↦ (h.justified j).mono fun k ↦ (hc k).mpr

omit [DecidableEq κ] in
/-- The record that a call relies on is there. -/
theorem Sound.read_of_created (h : calls.Sound store start p) (hnow : window store start now)
    {execId : UUID} (hcreated : ∃ j, (p.points j).created ∧ (calls.records j).execId = execId) :
    p.server.execs.read now execId ≠ none := by
  rcases hcreated with ⟨j, hj, rfl⟩
  rw [h.kept j hj now hnow]
  exact Option.some_ne_none _

theorem Sound.step {a : κ × Time} (h : calls.Sound store start p)
    (hstep : Step calls store start p a q) : calls.Sound store start q := by
  obtain ⟨hnow, point, s, hmove, rfl⟩ := exists_move hstep
  obtain ⟨i, now⟩ := a
  have hjust := h.justified i
  generalize hpoint : p.points i = old at hmove
  rw [hpoint] at hjust
  cases hmove with
  | missed hread => exact h.frame rfl rfl hpoint Iff.rfl Iff.rfl trivial
  | found hread => exact h.frame rfl rfl hpoint Iff.rfl Iff.rfl (h.keyed now hnow _ hread)
  | lost hread => exact absurd hread (h.read_of_created hnow hjust)
  | returnFound hread =>
      refine h.frame rfl rfl hpoint ?_ ?_ ?_
      · exact iff_of_false Bool.false_ne_true id
      · exact iff_of_false Bool.false_ne_true id
      · obtain ⟨j, hj, rfl⟩ := hjust
        rw [h.kept j hj now hnow] at hread
        exact ⟨j, hj, Option.some.inj hread⟩
  | create hread => exact h.create hnow hread
  | present hread =>
      refine h.frame rfl rfl hpoint Iff.rfl Iff.rfl ?_
      obtain ⟨j, hj, -, hid⟩ := h.stored now hnow i _ hread
      exact ⟨j, hj, hid⟩
  | expired hread => exact absurd hread (h.read_of_created hnow hjust)
  | returnPresent hread =>
      refine h.frame rfl rfl hpoint ?_ ?_ ?_
      · exact iff_of_false Bool.false_ne_true id
      · exact iff_of_false Bool.false_ne_true id
      · obtain ⟨j, hj, hrecord, -⟩ := h.stored now hnow i _ hread
        exact ⟨j, hj, hrecord⟩
  | map => exact h.map hnow hpoint
  | index => exact h.frame rfl rfl hpoint Iff.rfl Iff.rfl trivial
  | done =>
      refine h.frame rfl rfl hpoint ?_ ?_ trivial
      · exact iff_of_true rfl trivial
      · exact iff_of_true rfl trivial

/-! ## One execution -/

/-- A call that finds no mapping meets only calls with its execution id in the window. -/
def Good (calls : KeyedCalls κ) (p : State κ) (a : κ × Time) : Prop :=
  p.points a.1 = .getMapping →
    p.server.idem.read a.2 (calls.sessionId, calls.key) = none →
      ∀ j, (p.points j).inWindow → (calls.records j).execId = (calls.records a.1).execId

/-- At most one call creates its record, and the calls that returned another one returned
its record. -/
structure Deduplicated (calls : KeyedCalls κ) (p : State κ) : Prop where
  one : ∀ i j, (p.points i).created → (p.points j).created → i = j
  same : ∀ j existing, p.points j = .returned (.put existing false) →
    ∃ i, (p.points i).created ∧ existing = calls.records i

/-- No call is under way. -/
def Settled (p : State κ) : Prop :=
  ∀ i, p.points i = .getMapping ∨ ∃ reply, p.points i = .returned reply

/-- The call has created its record, or will unless another one does. -/
def engaged (point : PutPoint) : Prop := point.inWindow ∨ point.created

/-- The calls that may create a record have one execution id. -/
def Agreed (calls : KeyedCalls κ) (p : State κ) : Prop :=
  ∀ i j, engaged (p.points i) → engaged (p.points j) →
    (calls.records i).execId = (calls.records j).execId

/-- An execution id that gets a record. -/
def Live (calls : KeyedCalls κ) (p : State κ) (execId : UUID) : Prop :=
  ∃ i, engaged (p.points i) ∧ (calls.records i).execId = execId

omit [DecidableEq κ] in
theorem Sound.deduplicated (h : calls.Sound store start p) (hagreed : calls.Agreed p) :
    calls.Deduplicated p := by
  constructor
  · intro i j hi hj
    exact h.unique i j hi hj (hagreed i j (.inr hi) (.inr hj))
  · intro j existing hj
    have hjust := h.justified j
    rw [hj] at hjust
    obtain ⟨i, hi, hrecord⟩ := hjust
    exact ⟨i, hi, hrecord.symm⟩

omit [DecidableEq κ] in
/-- What a move does to the calls that may create a record: none joins them, unless it found
no mapping. -/
theorem engaged_move {a : κ × Time} {s : RedisExecs} (h : calls.Sound store start p)
    (hnow : window store start a.2)
    (hmove : calls.Move store a.1 a.2 p.server (p.points a.1) point s) :
    (p.points a.1 = .getMapping ∧ point = .setRecord ∧
        p.server.idem.read a.2 (calls.sessionId, calls.key) = none) ∨
      (engaged point → engaged (p.points a.1)) := by
  have hjust := h.justified a.1
  generalize hpoint : p.points a.1 = old at hmove
  rw [hpoint] at hjust
  cases hmove with
  | missed hread => exact .inl ⟨rfl, rfl, hread⟩
  | found hread => exact .inr (Or.elim · False.elim False.elim)
  | lost hread => exact absurd hread (h.read_of_created hnow hjust)
  | returnFound hread => exact .inr (Or.elim · False.elim fun h ↦ absurd h Bool.false_ne_true)
  | create hread => exact .inr fun _ ↦ .inl trivial
  | present hread => exact .inr fun _ ↦ .inl trivial
  | expired hread => exact .inr fun _ ↦ .inl trivial
  | returnPresent hread => exact .inr fun _ ↦ .inl trivial
  | map => exact .inr fun _ ↦ .inl trivial
  | index => exact .inr fun _ ↦ .inr trivial
  | done => exact .inr fun _ ↦ .inr trivial

theorem Agreed.step {a : κ × Time} (hagreed : calls.Agreed p) (h : calls.Sound store start p)
    (hgood : calls.Good p a) (hstep : Step calls store start p a q) : calls.Agreed q := by
  obtain ⟨hnow, point, s, hmove, rfl⟩ := exists_move hstep
  rcases engaged_move h hnow hmove with ⟨hget, rfl, hread⟩ | hold
  · -- a creator has written the mapping, or stands in the window
    have hsame : ∀ j, engaged (p.points j) →
        (calls.records j).execId = (calls.records a.1).execId := by
      rintro j (hj | hj)
      · exact hgood hget hread j hj
      · by_cases hmap : (p.points j).mapped
        · exact absurd hread (h.mapped j hmap a.2 hnow)
        · exact hgood hget hread j (inWindow_of_created hj hmap)
    have hafter : ∀ j, engaged ((p.move a.1 .setRecord s).points j) →
        (calls.records j).execId = (calls.records a.1).execId := by
      intro j hj
      by_cases hji : j = a.1
      · rw [hji]
      · apply hsame
        rw [Points.points_move_of_ne hji] at hj
        exact hj
    intro i j hi hj
    rw [hafter i hi, hafter j hj]
  · have hafter : ∀ j, engaged ((p.move a.1 point s).points j) → engaged (p.points j) := by
      intro j hj
      by_cases hji : j = a.1
      · subst hji
        rw [Points.points_move_self] at hj
        exact hold hj
      · rw [Points.points_move_of_ne hji] at hj
        exact hj
    exact fun i j hi hj ↦ hagreed i j (hafter i hi) (hafter j hj)

/-- An execution id that gets a record goes on to get one. -/
theorem Live.step {a : κ × Time} {execId : UUID} (hlive : calls.Live p execId)
    (h : calls.Sound store start p) (hstep : Step calls store start p a q) :
    calls.Live q execId := by
  obtain ⟨hnow, point, s, hmove, rfl⟩ := exists_move hstep
  obtain ⟨j, hj, rfl⟩ := hlive
  by_cases hja : j = a.1
  · subst hja
    have hjust := h.justified a.1
    generalize hpoint : p.points a.1 = old at hmove hj
    rw [hpoint] at hjust
    have hstays : engaged point → ∃ i, engaged ((p.move a.1 point s).points i) ∧
        (calls.records i).execId = (calls.records a.1).execId := by
      intro hpoint
      refine ⟨a.1, ?_, rfl⟩
      rw [Points.points_move_self]
      exact hpoint
    cases hmove with
    | missed => exact (hj.elim id id).elim
    | found => exact (hj.elim id id).elim
    | lost => exact (hj.elim id id).elim
    | returnFound => exact (hj.elim id id).elim
    | create => exact hstays (.inl trivial)
    | present => exact hstays (.inl trivial)
    | expired => exact hstays (.inl trivial)
    | returnPresent =>
        -- another call has created the record that is returned
        obtain ⟨k, hk, hid⟩ := hjust
        refine ⟨k, .inr ?_, hid⟩
        rw [Points.points_move_of_ne]
        · exact hk
        · rintro rfl
          rw [hpoint] at hk
          exact hk
    | map => exact hstays (.inr trivial)
    | index => exact hstays (.inr trivial)
    | done => exact hstays (.inr rfl)
  · refine ⟨j, ?_, rfl⟩
    rw [Points.points_move_of_ne hja]
    exact hj

/-- A call that meets another execution id in the window makes for two executions. -/
theorem exists_live {a : κ × Time} (hbad : ¬ calls.Good p a)
    (hstep : Step calls store start p a q) :
    ∃ i j, (calls.records i).execId ≠ (calls.records j).execId ∧
      calls.Live q (calls.records i).execId ∧ calls.Live q (calls.records j).execId := by
  obtain ⟨hnow, point, s, hmove, rfl⟩ := exists_move hstep
  unfold Good at hbad
  push Not at hbad
  obtain ⟨hget, hread, j, hj, hne⟩ := hbad
  have hpoint : point = .setRecord := by
    rw [hget] at hmove
    cases hmove with
    | missed => rfl
    | found hfound => cases hread.symm.trans hfound
  have hja : j ≠ a.1 := by
    rintro rfl
    rw [hget] at hj
    exact hj
  refine ⟨j, a.1, hne, ⟨j, .inl ?_, rfl⟩, ⟨a.1, .inl ?_, rfl⟩⟩
  · rw [Points.points_move_of_ne hja]
    exact hj
  · rw [Points.points_move_self, hpoint]
    trivial

omit [DecidableEq κ] in
/-- Calls that are settled have created the executions that were to come. -/
theorem Live.created (hsettled : Settled p) {execId : UUID} (h : calls.Live p execId) :
    ∃ i, (p.points i).created ∧ (calls.records i).execId = execId := by
  obtain ⟨i, hi, hid⟩ := h
  refine ⟨i, ?_, hid⟩
  rcases hsettled i with hpoint | ⟨reply, hpoint⟩
  · rw [hpoint] at hi
    exact (hi.elim id id).elim
  · rw [hpoint] at hi ⊢
    exact hi.elim False.elim id

/-- The calls before their first commands. -/
def begun (κ : Type u) (s : RedisExecs) : State κ where
  server := s
  points _ := .getMapping

omit [DecidableEq κ] in
theorem Sound.begun {s : RedisExecs}
    (hidem : s.idem.get? (calls.sessionId, calls.key) = none)
    (hexecs : ∀ i, s.execs.get? (calls.records i).execId = none) :
    calls.Sound store start (begun κ s) := by
  have hmap : ∀ t, s.idem.read t (calls.sessionId, calls.key) = none := by
    intro t
    rw [Expiring.read, hidem, Option.bind_none]
  have hread : ∀ t i, s.execs.read t (calls.records i).execId = none := by
    intro t i
    rw [Expiring.read, hexecs, Option.bind_none]
  exact
    { stored := fun t _ i _ h ↦ by cases (hread t i).symm.trans h
      kept := fun _ h ↦ h.elim
      unique := fun _ _ h ↦ h.elim
      keyed := fun t _ _ h ↦ by cases (hmap t).symm.trans h
      mapped := fun _ h ↦ h.elim
      justified := fun _ ↦ trivial }

def Split (calls : KeyedCalls κ) (store : RedisExecStore) (start : Time) (p : State κ) : Prop :=
  calls.Sound store start p ∧ ∃ i j, (calls.records i).execId ≠ (calls.records j).execId ∧
    calls.Live p (calls.records i).execId ∧ calls.Live p (calls.records j).execId

theorem Split.step {a : κ × Time} (h : calls.Split store start p)
    (hstep : Step calls store start p a q) : calls.Split store start q := by
  obtain ⟨hsound, i, j, hne, hi, hj⟩ := h
  exact ⟨hsound.step hstep, i, j, hne, hi.step hsound hstep, hj.step hsound hstep⟩

omit [DecidableEq κ] in
/-- The calls do not settle on one of two executions. -/
theorem Split.not_deduplicated (h : calls.Split store start p) :
    ¬ (Settled p ∧ calls.Deduplicated p) := by
  rintro ⟨hsettled, hdedup⟩
  obtain ⟨-, i, j, hne, hi, hj⟩ := h
  obtain ⟨k, hk, hkid⟩ := hi.created hsettled
  obtain ⟨l, hl, hlid⟩ := hj.created hsettled
  rw [hdedup.one k l hk hl] at hkid
  exact hne (hkid.symm.trans hlid)

/-- Some calls share a session and an idempotency key, and none of them has a record on the
server.  Within the lifetime of a key, in every run of their programs in which no call finds
the key unmapped while one with another execution id is about to map it, one execution is
created and every other call returns it; and a run that settles on one execution is such a
run. -/
theorem deduplicated_iff (calls : KeyedCalls κ) (store : RedisExecStore) {start : Time}
    {s : RedisExecs} {as : List (κ × Time)} {x : ProgPool κ Time RedisExecs ExecReply}
    (hidem : s.idem.get? (calls.sessionId, calls.key) = none)
    (hexecs : ∀ i, s.execs.get? (calls.records i).execId = none)
    (hwindow : ∀ a ∈ as, window store start a.2)
    (h : Run (Step.graph ProgPool.issue)
      { server := s, progs := fun i ↦ store.putIfAbsent (calls.records i) } as x) :
    ∃ p, x = (calls.outline store).pool p ∧
      (Run (Step.Only calls.Good (Step.graph (calls.outline store).step)) (begun κ s) as p →
        calls.Deduplicated p) ∧
      (Settled p → calls.Deduplicated p →
        Run (Step.Only calls.Good (Step.graph (calls.outline store).step)) (begun κ s) as p) := by
  obtain ⟨p, hrun, rfl⟩ := (calls.outline store).run_pool.mp
    (show Run _ ((calls.outline store).pool (begun κ s)) as x from h)
  have hsound : calls.Sound store start (begun κ s) := .begun hidem hexecs
  refine ⟨p, rfl, ?_, ?_⟩
  · intro hgood
    have hinv : calls.Sound store start p ∧ calls.Agreed p := by
      apply (hgood.only_of_labels hwindow).invariant
        (P := fun p ↦ calls.Sound store start p ∧ calls.Agreed p)
      · rintro p a q ⟨hsound, hagreed⟩ ⟨hnow, hgood, hstep⟩
        exact ⟨hsound.step ⟨hnow, hstep⟩, hagreed.step hsound hgood ⟨hnow, hstep⟩⟩
      · exact ⟨hsound, fun _ _ h ↦ (h.elim id id).elim⟩
    exact hinv.1.deduplicated hinv.2
  · intro hsettled hdedup
    have hgood : Run (Step.Only calls.Good (Step calls store start)) (begun κ s) as p := by
      refine (hrun.only_of_labels hwindow).only_of_doomed (I := calls.Sound store start)
        (D := calls.Split store start) (P := fun p ↦ Settled p ∧ calls.Deduplicated p)
        (fun _ _ _ h _ hstep ↦ h.step hstep) ?_ (fun _ _ _ h hstep ↦ h.step hstep)
        (fun _ h ↦ h.not_deduplicated) hsound ⟨hsettled, hdedup⟩
      intro p a q hsound hbad hstep
      exact ⟨hsound.step hstep, exists_live hbad hstep⟩
    exact hgood.mono fun _ _ _ h ↦ ⟨h.1, h.2.2⟩

/-- The calls of two clients for one session and key, with an execution id each. -/
def sample : KeyedCalls Bool where
  records i := sampleExec (if i then ⟨2⟩ else ⟨1⟩) ⟨100⟩ (some "key")
  sessionId := ⟨100⟩
  key := "key"
  sessionId_eq _ := rfl
  key_eq _ := rfl

/-- One call after the other. -/
theorem deduplicated_sample :
    ∃ x : ProgPool Bool Time RedisExecs ExecReply,
      ∃ p, x = (sample.outline {}).pool p ∧
        (Run (Step.Only sample.Good (Step.graph (sample.outline {}).step)) (begun Bool {})
          (List.replicate 5 (false, 0) ++ List.replicate 2 (true, 1)) p → sample.Deduplicated p) ∧
        (Settled p → sample.Deduplicated p →
          Run (Step.Only sample.Good (Step.graph (sample.outline {}).step)) (begun Bool {})
            (List.replicate 5 (false, 0) ++ List.replicate 2 (true, 1)) p) :=
  ⟨_, deduplicated_iff sample {} rfl (fun _ ↦ rfl)
    (show ∀ a ∈ List.replicate 5 (false, 0) ++ List.replicate 2 (true, 1), window {} 0 a.2
      by decide)
    (Run.graph_iff.mpr rfl)⟩

/-- Two calls look the key up before either has mapped it: both create their records. -/
theorem both_created :
    ∃ x : ProgPool Bool Time RedisExecs ExecReply,
      Run (Step.graph ProgPool.issue)
        { server := {}, progs := fun i ↦ RedisExecStore.putIfAbsent {} (sample.records i) }
        ([(false, 0), (true, 0)] ++ List.replicate 4 (false, 1) ++ List.replicate 4 (true, 2)) x ∧
      x.progs false = .pure (.put (sample.records false) true) ∧
      x.progs true = .pure (.put (sample.records true) true) :=
  ⟨_, Run.graph_iff.mpr rfl, rfl, rfl⟩

end KeyedCalls

end SemanticBus
