import SemanticBus.Data.LastIndex
import SemanticBus.Session.Session

/-!
# The executions of a session

A session looks its executions up in two private indexes, by the text of an id and
by idempotency key.  `add_execution` keeps them, the constructor leaves them empty
whatever list of executions it is given, and nothing else reads an id in another
spelling.  So a lookup finds the last record exactly if that record was added
(`lookups_iff`); two entries of the list are two objects.
-/

namespace SemanticBus

inductive ExecutionCall where
  | addExecution (record : ExecutionRecord)
  | updateExecutionStatus (now : Time) (execId : Json) (status : ExecutionStatus)
      (resultViewId : Option Json) (resultValid : Option Bool)

def ExecutionCall.added (calls : List ExecutionCall) : List ExecutionRecord :=
  calls.filterMap fun
    | .addExecution record => some record
    | .updateExecutionStatus _ _ _ _ _ => none

namespace Session

open ExecutionCall (added)

/-- The session that the constructor builds from the fields of another one.  The indexes
are private, so they are not among the fields. -/
def construct (fields : Session) : Session :=
  { fields with execIndex := ∅, idempotencyIndex := ∅ }

/-- The session after a call. -/
def exec (session : Session) : ExecutionCall → Session
  | .addExecution record => session.addExecution record
  | .updateExecutionStatus now execId status resultViewId resultValid =>
      session.updateExecutionStatus now execId status resultViewId resultValid

/-- The session that is built and then changed by some calls. -/
def after (fields : Session) (calls : List ExecutionCall) : Session :=
  calls.foldl exec (construct fields)

def getExecutionByIdempotencyKey (session : Session) (key : String) : Option ExecutionRecord :=
  ((session.idempotencyIndex.get? key).filter (· < session.executions.length)).bind fun idx ↦
    session.executions[idx]?

/-- The executions with the last one of an id changed. -/
def updateLast (executions : List ExecutionRecord) (id : UUID)
    (f : ExecutionRecord → ExecutionRecord) : List ExecutionRecord :=
  match lastIdx? (·.execId = id) executions with
  | none => executions
  | some idx => executions.modify idx f

variable {fields session : Session} {records : List ExecutionRecord} {id : UUID}
  {text key : String}

/-! ## What the calls keep -/

/-- The entry of a record in the index by id. -/
def execKey (record : ExecutionRecord) : Option String := some record.execId.str

/-- The entry of a record in the index by idempotency key. -/
def idempotencyKey? (record : ExecutionRecord) : Option String :=
  record.idempotencyKey.filter (· ≠ "")

/-- The executions are those of the constructor, and then those that were added; the
indexes are of the latter. -/
structure Tracks (fields : Session) (records : List ExecutionRecord) (session : Session) :
    Prop where
  execIds : session.executions.map (·.execId) = (fields.executions ++ records).map (·.execId)
  idempotencyKeys : session.executions.map (·.idempotencyKey)
    = (fields.executions ++ records).map (·.idempotencyKey)
  execIndex : Indexes fields.executions.length (records.map execKey) session.execIndex
  idempotencyIndex : Indexes fields.executions.length (records.map idempotencyKey?)
    session.idempotencyIndex

theorem Tracks.length (h : Tracks fields records session) :
    session.executions.length = fields.executions.length + records.length := by
  rw [← List.length_append, ← List.length_map (·.execId), h.execIds, List.length_map]

theorem Tracks.construct (fields : Session) : Tracks fields [] (construct fields) where
  execIds := by rw [List.append_nil]; rfl
  idempotencyKeys := by rw [List.append_nil]; rfl
  execIndex := .nil _
  idempotencyIndex := .nil _

theorem idempotencyIndex_addExecution (session : Session) (record : ExecutionRecord) :
    (session.addExecution record).idempotencyIndex =
      (idempotencyKey? record).elim session.idempotencyIndex fun key ↦
        session.idempotencyIndex.insert key session.executions.length := by
  unfold addExecution idempotencyKey?
  dsimp only
  cases record.idempotencyKey with
  | none => rfl
  | some key =>
      dsimp only
      split
      · rename_i hempty
        rw [hempty]
        rfl
      · rename_i hne
        rw [Option.filter_some, if_pos (decide_eq_true hne)]
        rfl

theorem Tracks.addExecution (h : Tracks fields records session) (record : ExecutionRecord) :
    Tracks fields (records ++ [record]) (session.addExecution record) where
  execIds := by
    rw [← List.append_assoc, List.map_append, ← h.execIds]
    exact List.map_append
  idempotencyKeys := by
    rw [← List.append_assoc, List.map_append, ← h.idempotencyKeys]
    exact List.map_append
  execIndex := by
    have hconcat := h.execIndex.concat (execKey record)
    rw [List.length_map, ← h.length] at hconcat
    rw [List.map_append]
    exact hconcat
  idempotencyIndex := by
    have hconcat := h.idempotencyIndex.concat (idempotencyKey? record)
    rw [List.length_map, ← h.length] at hconcat
    rw [List.map_append, idempotencyIndex_addExecution]
    exact hconcat

/-- What does not change in a record that is updated does not change in the list. -/
theorem map_modify {β : Type} {g : ExecutionRecord → β} {f : ExecutionRecord → ExecutionRecord}
    (hg : ∀ record, g (f record) = g record) (executions : List ExecutionRecord) (idx : Nat) :
    (executions.modify idx f).map g = executions.map g := by
  apply List.ext_getElem?
  intro i
  rw [List.getElem?_map, List.getElem?_modify, List.getElem?_map]
  cases executions[i]? with
  | none => rfl
  | some record =>
      by_cases hi : idx = i
      · simp [hi, hg]
      · simp [hi]

theorem execId_update (record : ExecutionRecord) (now : Time) (status : ExecutionStatus)
    (resultViewId : Option Json) (resultValid : Option Bool) :
    (record.update now status resultViewId resultValid).execId = record.execId := by
  cases status <;> rfl

theorem idempotencyKey_update (record : ExecutionRecord) (now : Time) (status : ExecutionStatus)
    (resultViewId : Option Json) (resultValid : Option Bool) :
    (record.update now status resultViewId resultValid).idempotencyKey = record.idempotencyKey := by
  cases status <;> rfl

theorem Tracks.exec (h : Tracks fields records session) (call : ExecutionCall) :
    Tracks fields (records ++ added [call]) (session.exec call) := by
  cases call with
  | addExecution record => exact h.addExecution record
  | updateExecutionStatus now execId status resultViewId resultValid =>
      have hnil : added [.updateExecutionStatus now execId status resultViewId resultValid] = [] :=
        rfl
      rw [hnil, List.append_nil, Session.exec, Session.updateExecutionStatus]
      split
      · exact h
      · exact
          { execIds := (map_modify (fun _ ↦ execId_update _ _ _ _ _) _ _).trans h.execIds
            idempotencyKeys := (map_modify (fun _ ↦ idempotencyKey_update _ _ _ _ _) _ _).trans
              h.idempotencyKeys
            execIndex := h.execIndex
            idempotencyIndex := h.idempotencyIndex }

/-- Every sequence of calls keeps track. -/
theorem Tracks.foldl (h : Tracks fields records session) (calls : List ExecutionCall) :
    Tracks fields (records ++ added calls) (calls.foldl Session.exec session) := by
  induction calls generalizing records session with
  | nil =>
      rw [show added [] = [] from rfl, List.append_nil]
      exact h
  | cons call calls ih =>
      rw [show added (call :: calls) = added [call] ++ added calls from
        List.filterMap_append (l := [call]), ← List.append_assoc]
      exact ih (h.exec call)

theorem Tracks.after (fields : Session) (calls : List ExecutionCall) :
    Tracks fields (added calls) (after fields calls) := (Tracks.construct fields).foldl calls

/-! ## Lookups -/

/-- A position in an index is one in the list. -/
theorem Tracks.filter_position (h : Tracks fields records session) (p : ExecutionRecord → Bool) :
    ((lastIdx? p records).map (fields.executions.length + ·)).filter
        (· < session.executions.length)
      = (lastIdx? p records).map (fields.executions.length + ·) := by
  cases hlast : lastIdx? p records with
  | none => rfl
  | some idx =>
      have hlt := lt_of_lastIdx? hlast
      rw [Option.map_some, Option.filter_some, if_pos]
      rw [decide_eq_true_iff, h.length]
      omega

theorem Tracks.execPosition (h : Tracks fields records session) (text : String) :
    session.execPosition (.str text) = (lastIdx? (·.execId.str = text) records).map
      (fields.executions.length + ·) := by
  have hget := h.execIndex text
  have hpred : (fun record ↦ decide (execKey record = some text))
      = fun record ↦ decide (record.execId.str = text) := by
    funext record
    exact decide_eq_decide.mpr Option.some_inj
  rw [lastIdx?_map, hpred] at hget
  rw [Session.execPosition, Json.str?, Option.bind_some, hget]
  exact h.filter_position _

theorem Tracks.idempotencyPosition (h : Tracks fields records session) (hkey : key ≠ "") :
    (session.idempotencyIndex.get? key).filter (· < session.executions.length)
      = (lastIdx? (·.idempotencyKey = some key) records).map (fields.executions.length + ·) := by
  have hget := h.idempotencyIndex key
  have hpred : (fun record ↦ decide (idempotencyKey? record = some key))
      = fun record ↦ decide (record.idempotencyKey = some key) := by
    funext record
    apply decide_eq_decide.mpr
    rw [idempotencyKey?, Option.filter_eq_some_iff]
    simp [hkey]
  rw [lastIdx?_map, hpred] at hget
  rw [hget]
  exact h.filter_position _

/-- The last record with an id is where the ids say. -/
theorem Tracks.lastIdx?_execId (h : Tracks fields records session) (id : UUID) :
    lastIdx? (·.execId = id) session.executions
      = lastIdx? (·.execId = id) (fields.executions ++ records) := by
  calc
    _ = lastIdx? (· = id) (session.executions.map (·.execId)) := (lastIdx?_map _ _).symm
    _ = lastIdx? (· = id) ((fields.executions ++ records).map (·.execId)) := by rw [h.execIds]
    _ = _ := lastIdx?_map _ _

theorem Tracks.lastIdx?_idempotencyKey (h : Tracks fields records session) (key : String) :
    lastIdx? (·.idempotencyKey = some key) session.executions
      = lastIdx? (·.idempotencyKey = some key) (fields.executions ++ records) := by
  calc
    _ = lastIdx? (· = some key) (session.executions.map (·.idempotencyKey)) :=
      (lastIdx?_map _ _).symm
    _ = lastIdx? (· = some key) ((fields.executions ++ records).map (·.idempotencyKey)) := by
      rw [h.idempotencyKeys]
    _ = _ := lastIdx?_map _ _

/-- An id leads to its last record: if it is among those of the constructor it was added
again, and if it was added it is asked for in its canonical spelling. -/
structure Findable (fields : Session) (records : List ExecutionRecord) (id : UUID)
    (text : String) : Prop where
  added : (∃ record ∈ fields.executions, record.execId = id) →
    ∃ record ∈ records, record.execId = id
  spelling : (∃ record ∈ records, record.execId = id) → text = id.str

/-- A key leads to its last record: if it is among those of the constructor it was added
again. -/
def KeyFindable (fields : Session) (records : List ExecutionRecord) (key : String) : Prop :=
  (∃ record ∈ fields.executions, record.idempotencyKey = some key) →
    ∃ record ∈ records, record.idempotencyKey = some key

/-- No record has an id whose text is another spelling. -/
theorem lastIdx?_of_ne_str (htext : UUID.parse text = some id) (hspelling : text ≠ id.str)
    (records : List ExecutionRecord) : lastIdx? (·.execId.str = text) records = none := by
  rw [lastIdx?_eq_none_iff]
  intro record _
  apply decide_eq_false
  rintro rfl
  rw [UUID.parse_str] at htext
  exact hspelling (congrArg UUID.str (Option.some.inj htext))

/-- The position of an id is the last one exactly if the id is findable. -/
theorem Tracks.execPosition_eq_iff (h : Tracks fields records session)
    (htext : UUID.parse text = some id) :
    (session.execPosition (.str text) = none ∨ session.execPosition (.str text)
        = lastIdx? (·.execId = id) session.executions) ∧
      (session.execPosition (.str text) = lastIdx? (·.execId = id) session.executions ↔
        Findable fields records id text) := by
  rw [h.execPosition, h.lastIdx?_execId]
  by_cases hspelling : text = id.str
  · have hpred : (fun record : ExecutionRecord ↦ decide (record.execId.str = text))
        = fun record ↦ decide (record.execId = id) := by
      funext record
      rw [hspelling]
      exact decide_eq_decide.mpr UUID.str_injective.eq_iff
    rw [hpred]
    constructor
    · cases hlast : lastIdx? (·.execId = id) records with
      | none => exact .inl rfl
      | some idx =>
          refine .inr ?_
          rw [lastIdx?_append, hlast]
          rfl
    · rw [eq_comm, lastIdx?_append_eq_iff]
      simp only [decide_eq_true_iff]
      exact ⟨fun hadded ↦ ⟨hadded, fun _ ↦ hspelling⟩, Findable.added⟩
  · rw [lastIdx?_of_ne_str htext hspelling records, Option.map_none]
    refine ⟨.inl rfl, ?_⟩
    rw [eq_comm, lastIdx?_eq_none_iff]
    constructor
    · intro hall
      have hno : ∀ record ∈ fields.executions ++ records, record.execId ≠ id := fun record hmem ↦
        of_decide_eq_false (hall record hmem)
      constructor
      · rintro ⟨record, hmem, heq⟩
        exact absurd heq (hno record (List.mem_append_left _ hmem))
      · rintro ⟨record, hmem, heq⟩
        exact absurd heq (hno record (List.mem_append_right _ hmem))
    · intro hfindable record hmem
      apply decide_eq_false
      intro heq
      refine hspelling (hfindable.spelling ?_)
      rcases List.mem_append.mp hmem with hmem | hmem
      · exact hfindable.added ⟨record, hmem, heq⟩
      · exact ⟨record, hmem, heq⟩

theorem Tracks.getExecution_eq_iff (h : Tracks fields records session)
    (htext : UUID.parse text = some id) :
    session.getExecution (.str text) = session.executions.reverse.find? (·.execId = id) ↔
      Findable fields records id text := by
  obtain ⟨hcases, hiff⟩ := h.execPosition_eq_iff htext
  rw [getExecution, bind_eq_find?_iff hcases, hiff]

theorem Tracks.getExecutionByIdempotencyKey_eq_iff (h : Tracks fields records session)
    (hkey : key ≠ "") :
    session.getExecutionByIdempotencyKey key
        = session.executions.reverse.find? (·.idempotencyKey = some key) ↔
      KeyFindable fields records key := by
  rw [getExecutionByIdempotencyKey, h.idempotencyPosition hkey]
  have happend := h.lastIdx?_idempotencyKey key
  rw [bind_eq_find?_iff, happend, eq_comm, lastIdx?_append_eq_iff]
  · simp only [decide_eq_true_iff]
    rfl
  · cases hlast : lastIdx? (·.idempotencyKey = some key) records with
    | none => exact .inl rfl
    | some idx =>
        refine .inr ?_
        rw [happend, lastIdx?_append, hlast]
        rfl

/-- An update of an id that is findable is one of its last record. -/
theorem Tracks.updateExecutionStatus (h : Tracks fields records session)
    (htext : UUID.parse text = some id) (hfindable : Findable fields records id text) (now : Time)
    (status : ExecutionStatus) (resultViewId : Option Json) (resultValid : Option Bool) :
    session.updateExecutionStatus now (.str text) status resultViewId resultValid =
      { session with
        executions := updateLast session.executions id
          (·.update now status resultViewId resultValid) } := by
  rw [Session.updateExecutionStatus, (h.execPosition_eq_iff htext).2.mpr hfindable, updateLast]
  cases lastIdx? (·.execId = id) session.executions with
  | none => rfl
  | some idx => rfl

/-- For every session that is built with any executions and then changed by any calls, and
an id in any spelling: the lookups by the id and by an idempotency key find the last
records that have them, and an update by the id changes only that record, exactly if
both are findable. -/
theorem lookups_iff (fields : Session) (calls : List ExecutionCall) (id : UUID)
    (text key : String) (htext : UUID.parse text = some id) (hkey : key ≠ "") (now : Time)
    (status : ExecutionStatus) (resultViewId : Option Json) (resultValid : Option Bool) :
    let session := after fields calls
    (session.getExecution (.str text) = session.executions.reverse.find? (·.execId = id) ∧
        session.getExecutionByIdempotencyKey key
          = session.executions.reverse.find? (·.idempotencyKey = some key) ∧
        session.updateExecutionStatus now (.str text) status resultViewId resultValid =
          { session with
            executions := updateLast session.executions id
              (·.update now status resultViewId resultValid) }) ↔
      Findable fields (added calls) id text ∧ KeyFindable fields (added calls) key := by
  intro session
  have htracks : Tracks fields (added calls) session := Tracks.after fields calls
  constructor
  · rintro ⟨hget, hgetKey, -⟩
    exact ⟨(htracks.getExecution_eq_iff htext).mp hget,
      (htracks.getExecutionByIdempotencyKey_eq_iff hkey).mp hgetKey⟩
  · rintro ⟨hfindable, hkeyFindable⟩
    exact ⟨(htracks.getExecution_eq_iff htext).mpr hfindable,
      (htracks.getExecutionByIdempotencyKey_eq_iff hkey).mpr hkeyFindable,
      htracks.updateExecutionStatus htext hfindable now status resultViewId resultValid⟩

/-- A session without executions. -/
def sampleFields : Session where
  ephemeralInterfaceId := ⟨100⟩
  tenantId := "acme"
  requesterAgentId := ⟨1⟩
  requesterConnId := "acme:1"
  intentMessageId := ⟨2⟩
  createdAt := 0

def sampleExecution : ExecutionRecord where
  execId := ⟨10⟩
  correlationId := ⟨3⟩
  idempotencyKey := some "k"
  requesterConnId := "acme:1"
  createdAt := 0

/-- An execution that is added is found. -/
theorem lookups_sample :
    let session := after sampleFields [.addExecution sampleExecution]
    session.getExecution (.str (UUID.str ⟨10⟩)) = some sampleExecution ∧
      session.getExecutionByIdempotencyKey "k" = some sampleExecution := by
  intro session
  have hfindable : Findable sampleFields [sampleExecution] ⟨10⟩ (UUID.str ⟨10⟩) := by
    constructor
    · rintro ⟨record, hmem, -⟩
      cases hmem
    · intro _
      rfl
  have hkeyFindable : KeyFindable sampleFields [sampleExecution] "k" := by
    rintro ⟨record, hmem, -⟩
    cases hmem
  obtain ⟨hget, hgetKey, -⟩ := (lookups_iff sampleFields [.addExecution sampleExecution] ⟨10⟩
    (UUID.str ⟨10⟩) "k" (UUID.parse_str _) (by decide) 0 .completed none none).mpr
      ⟨hfindable, hkeyFindable⟩
  exact ⟨hget, hgetKey⟩

/-- An execution that the constructor is given is not found, nor is one whose id is spelled
in capitals. -/
theorem lookups_miss :
    let restored := after { sampleFields with executions := [sampleExecution] } []
    let session := after sampleFields [.addExecution sampleExecution]
    let capitals := "00000000-0000-0000-0000-00000000000A"
    (restored.executions.reverse.find? (·.execId = ⟨10⟩) = some sampleExecution ∧
        restored.getExecution (.str (UUID.str ⟨10⟩)) = none ∧
        restored.getExecutionByIdempotencyKey "k" = none) ∧
      (session.executions.reverse.find? (·.execId = ⟨10⟩) = some sampleExecution ∧
        UUID.parse capitals = some ⟨10⟩ ∧ session.getExecution (.str capitals) = none) := by
  refine ⟨⟨rfl, rfl, rfl⟩, rfl, by decide +kernel, ?_⟩
  have hposition : (after sampleFields [.addExecution sampleExecution]).execPosition
      (.str "00000000-0000-0000-0000-00000000000A") = none := by decide +kernel
  rw [getExecution, hposition]
  rfl

end Session

end SemanticBus
