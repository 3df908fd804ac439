import SemanticBus.Storage.RedisRegistries

/-!
# Heartbeats and sweeps

A sweep marks the connections offline that were not heard of for a while.  A heartbeat
only stamps the record: unlike `AgentRegistry.heartbeat` it leaves the mark, so a
connection that is back stays offline until its next upsert.

`Does` says what one call to a store does to the records, and a store whose calls do so
tells the status of every connection right after each sweep, as long as no heartbeat
comes for a connection that is marked (`keepsStatus_of_does`).  The three stores do so
on conditions of their own (`status_kept`).
-/

universe u v

namespace SemanticBus

/-! ## Ages -/

namespace Time

/-- The distance of a time span from its rounding. -/
theorem timedelta_bounds (s : ℚ) :
    (timedelta s : ℚ) ≤ s * 1000000 + 1 / 2 ∧ s * 1000000 ≤ timedelta s + 1 / 2 := by
  have hfloor := Int.floor_le (s * 1000000)
  have hlt := Int.lt_floor_add_one (s * 1000000)
  rw [timedelta]
  split_ifs with hdown hup heven
  · constructor
    · linarith
    · linarith
  · push_cast
    constructor
    · linarith
    · linarith
  · constructor
    · linarith
    · linarith
  · push_cast
    constructor
    · linarith
    · linarith

/-- An age is compared with a rounded time span as with the span itself, unless the span was
rounded up to the age. -/
theorem timedelta_lt_iff {s : ℚ} {age : Time}
    (hexact : s * 1000000 < timedelta s → age ≠ timedelta s) :
    timedelta s < age ↔ s < timestamp age := by
  obtain ⟨hupper, hlower⟩ := timedelta_bounds s
  rw [timestamp, lt_div_iff₀ (by norm_num)]
  constructor
  · intro h
    have hle : ((timedelta s : ℤ) : ℚ) + 1 ≤ age := by exact_mod_cast h
    linarith
  · intro h
    have hle : timedelta s ≤ age := by
      have hlt : ((timedelta s : ℤ) : ℚ) < age + 1 := by linarith
      exact Int.lt_add_one_iff.mp (by exact_mod_cast hlt)
    refine lt_of_le_of_ne hle ?_
    intro heq
    refine hexact ?_ heq.symm
    rw [heq]
    exact h

theorem timestamp_mono {t t' : Time} (h : t ≤ t') : timestamp t ≤ timestamp t' := by
  rw [timestamp, timestamp]
  gcongr

end Time

namespace RegistryBackend

open RedisRegistryStore (beat)

variable {ε : Type v} {σ : Type u} (B : RegistryBackend ε σ) (T : ℚ)

/-- The calls: upserts of connections that are online, heartbeats, and sweeps with one
timeout, whose `SCAN` has at least one batch. -/
def Sweeping : RegistryCall → Prop
  | .upsertPresence record => record.status = "online"
  | .upkeep (.heartbeat _ _) => True
  | .upkeep (.remove _) => False
  | .upkeep (.expireStale timeoutSeconds batches) => timeoutSeconds = T ∧ 0 < batches

/-- When each connection was last heard of, by an upsert or a heartbeat. -/
def heard (now : Time) (call : RegistryCall) (contacts : String → Time) : String → Time :=
  match call with
  | .upsertPresence record => Function.update contacts record.connId now
  | .upkeep (.heartbeat connId _) => Function.update contacts connId now
  | .upkeep _ => contacts

/-- Calls one after the other, with notes of the contacts. -/
def Sweeps : Step (Time × σ × (String → Time)) (ε × RegistryCall) :=
  fun x a y ↦ x.1 ≤ B.now a.1 ∧ Sweeping T a.2 ∧
    y = (B.now a.1, B.exec a.1 a.2 x.2.1, heard (B.now a.1) a.2 x.2.2)

/-- Right after a sweep a connection is offline exactly when it was last heard of longer ago
than the timeout, and right after its heartbeat it is online. -/
def TellsStatus (a : ε × RegistryCall) (y : Time × σ × (String → Time)) : Prop :=
  match a.2 with
  | .upkeep (.expireStale _ _) => ∀ r, B.holds y.1 y.2.1 r →
      (r.status = "offline" ↔ T < Time.timestamp (y.1 - y.2.2 r.connId))
  | .upkeep (.heartbeat connId _) => ∀ r, B.holds y.1 y.2.1 r → r.connId = connId →
      r.status = "online"
  | _ => True

/-- It is so after every call of every run of calls that meet a condition. -/
def KeepsStatus (Good : σ → ε × RegistryCall → Prop) (s : σ) : Prop :=
  ∀ start contacts as x a y,
    Run (Step.Only (fun x a ↦ Good x.2.1 a) (B.Sweeps T)) (start, s, contacts) as x →
      Step.Only (fun x a ↦ Good x.2.1 a) (B.Sweeps T) x a y → B.TellsStatus T a y

/-- No heartbeat comes for a connection that is marked offline. -/
def Unmarked (s : σ) (a : ε × RegistryCall) : Prop :=
  match a.2 with
  | .upkeep (.heartbeat connId _) => ∀ r, B.holds (B.now a.1) s r → r.connId = connId →
      r.status ≠ "offline"
  | _ => True

/-! ## What a call does -/

/-- The record after a sweep. -/
def marked (now : Time) (record : PresenceRecord) : PresenceRecord :=
  if record.status = "online" ∧ T < Time.timestamp (now - record.lastSeen) then
    { record with status := "offline" }
  else record

/-- What a call does to the records: an upsert and a heartbeat stamp that of their connection, and
a sweep marks those that are too old. -/
def Does (now : Time) (s : σ) (call : RegistryCall) (s' : σ) : Prop :=
  match call with
  | .upsertPresence record => ∀ r', B.holds now s' r' →
      r'.connId = record.connId ∧ r'.status = record.status ∧ r'.lastSeen = now ∨
        r'.connId ≠ record.connId ∧ B.holds now s r'
  | .upkeep (.heartbeat connId load) => ∀ r', B.holds now s' r' →
      (∃ r, B.holds now s r ∧ r.connId = connId ∧ r' = beat r now load) ∨
        r'.connId ≠ connId ∧ B.holds now s r'
  | .upkeep (.remove _) => True
  | .upkeep (.expireStale _ _) => ∀ r', B.holds now s' r' →
      ∃ r, B.holds now s r ∧ r' = marked T now r

/-- A record that was stamped when its connection was last heard of, and is offline only if that
is too long ago. -/
structure Current (now : Time) (contacts : String → Time) (r : PresenceRecord) : Prop where
  lastSeen : r.lastSeen = contacts r.connId
  status : r.status = "online" ∨
    r.status = "offline" ∧ T < Time.timestamp (now - contacts r.connId)

variable {B T} {now t : Time} {contacts : String → Time} {r : PresenceRecord} {s s' : σ}

/-- Records only get older. -/
theorem Current.mono (h : Current T now contacts r) (hle : now ≤ t) :
    Current T t contacts r := by
  refine ⟨h.lastSeen, h.status.imp_right ?_⟩
  rintro ⟨hoffline, hlate⟩
  exact ⟨hoffline, hlate.trans_le (Time.timestamp_mono (sub_le_sub_right hle _))⟩

theorem Current.other {connId : String} (h : Current T now contacts r) (hne : r.connId ≠ connId) :
    Current T now (Function.update contacts connId now) r := by
  have hsame : Function.update contacts connId now r.connId = contacts r.connId :=
    Function.update_of_ne hne _ _
  refine ⟨?_, ?_⟩
  · rw [hsame]
    exact h.lastSeen
  · rw [hsame]
    exact h.status

theorem Current.heard (honline : r.status = "online") (hseen : r.lastSeen = now) :
    Current T now (Function.update contacts r.connId now) r := by
  refine ⟨?_, .inl honline⟩
  rw [Function.update_self]
  exact hseen

theorem Current.marked (h : Current T now contacts r) :
    Current T now contacts (marked T now r) ∧
      ((marked T now r).status = "offline" ↔
        T < Time.timestamp (now - contacts (marked T now r).connId)) := by
  unfold RegistryBackend.marked
  split
  · rename_i hold
    have hlate : T < Time.timestamp (now - contacts r.connId) := h.lastSeen ▸ hold.2
    exact ⟨⟨h.lastSeen, .inr ⟨rfl, hlate⟩⟩, iff_of_true rfl hlate⟩
  · rename_i hyoung
    refine ⟨h, ?_⟩
    rcases h.status with honline | ⟨hoffline, hlate⟩
    · rw [h.lastSeen] at hyoung
      refine iff_of_false ?_ (fun hlate ↦ hyoung ⟨honline, hlate⟩)
      rw [honline]
      decide
    · exact iff_of_true hoffline hlate

/-- A call that does what it should keeps the records current, and tells their status. -/
theorem Does.current {env : ε} {call : RegistryCall} (hcall : Sweeping T call)
    (hunmarked : B.Unmarked s (env, call)) (hdoes : B.Does T (B.now env) s call s')
    (h : ∀ r, B.holds (B.now env) s r → Current T (B.now env) contacts r) :
    (∀ r, B.holds (B.now env) s' r →
        Current T (B.now env) (RegistryBackend.heard (B.now env) call contacts) r) ∧
      B.TellsStatus T (env, call)
        (B.now env, s', RegistryBackend.heard (B.now env) call contacts) := by
  cases call with
  | upsertPresence record =>
      refine ⟨fun r' hr' ↦ ?_, trivial⟩
      rcases hdoes r' hr' with ⟨hconn, hstatus, hseen⟩ | ⟨hne, hr⟩
      · rw [RegistryBackend.heard, ← hconn]
        exact .heard (hstatus.trans hcall) hseen
      · exact (h r' hr).other hne
  | upkeep call =>
      cases call with
      | heartbeat connId load =>
          have honline : ∀ r, B.holds (B.now env) s r → r.connId = connId →
              r.status = "online" := by
            intro r hr hconn
            exact (h r hr).status.resolve_right fun hoffline ↦ hunmarked r hr hconn hoffline.1
          constructor
          · intro r' hr'
            rcases hdoes r' hr' with ⟨r, hr, hconn, rfl⟩ | ⟨hne, hr⟩
            · rw [RegistryBackend.heard, ← hconn]
              exact .heard (r := beat r (B.now env) load) (honline r hr hconn) rfl
            · exact (h r' hr).other hne
          · intro r' hr' hconn'
            rcases hdoes r' hr' with ⟨r, hr, hconn, rfl⟩ | ⟨hne, hr⟩
            · exact honline r hr hconn
            · exact absurd hconn' hne
      | remove connId => exact hcall.elim
      | expireStale timeoutSeconds batches =>
          constructor
          · intro r' hr'
            obtain ⟨r, hr, rfl⟩ := hdoes r' hr'
            exact (h r hr).marked.1
          · intro r' hr'
            obtain ⟨r, hr, rfl⟩ := hdoes r' hr'
            exact (h r hr).marked.2

/-- A store whose calls do what they should under an invariant tells the status of the
connections. -/
theorem keepsStatus_of_does {Good : σ → ε × RegistryCall → Prop} {I : Time → σ → Prop} {s₀ : σ}
    (hnone : ∀ now r, ¬ B.holds now s₀ r) (hinit : ∀ now, I now s₀)
    (hmono : ∀ {now t s}, now ≤ t → I now s → I t s)
    (hholds : ∀ {now t s r}, now ≤ t → B.holds t s r → B.holds now s r)
    (hgood : ∀ s a, Good s a → B.Unmarked s a)
    (hstep : ∀ env s call, I (B.now env) s → Sweeping T call → Good s (env, call) →
      I (B.now env) (B.exec env call s) ∧ B.Does T (B.now env) s call (B.exec env call s)) :
    B.KeepsStatus T Good s₀ := by
  let Kept : Time × σ × (String → Time) → Prop := fun x ↦
    I x.1 x.2.1 ∧ ∀ r, B.holds x.1 x.2.1 r → Current T x.1 x.2.2 r
  have hnext : ∀ x a y, Kept x → Step.Only (fun x a ↦ Good x.2.1 a) (B.Sweeps T) x a y →
      Kept y ∧ B.TellsStatus T a y := by
    rintro ⟨start, s, contacts⟩ ⟨env, call⟩ y ⟨hI, hcurrent⟩ ⟨hcond, hle, hcall, rfl⟩
    have hcurrent' : ∀ r, B.holds (B.now env) s r → Current T (B.now env) contacts r := by
      intro r hr
      exact (hcurrent r (hholds hle hr)).mono hle
    obtain ⟨hI', hdoes⟩ := hstep env s call (hmono hle hI) hcall hcond
    obtain ⟨hafter, htells⟩ := Does.current hcall (hgood s (env, call) hcond) hdoes hcurrent'
    exact ⟨⟨hI', hafter⟩, htells⟩
  intro start contacts as x a y hrun hstep'
  have hstart : Kept (start, s₀, contacts) := by
    refine ⟨hinit start, ?_⟩
    intro r hr
    exact absurd hr (hnone start r)
  have hx : Kept x := hrun.invariant (fun x a y hx hxy ↦ (hnext x a y hx hxy).1) hstart
  exact (hnext x a y hx hstep').2

end RegistryBackend

/-! ## In memory and over SQL -/

section Rows

open InMemoryRegistryStore (isStale markStale)
open RegistryBackend (marked)
open RedisRegistryStore (beat)

variable {T : ℚ} {now : Time} {rows : Dict String PresenceRecord} {connId : String}
  {record r : PresenceRecord}

/-- Every record is under its connection. -/
def KeyedRows (rows : Dict String PresenceRecord) : Prop :=
  ∀ c r, rows.get? c = some r → r.connId = c

/-- A record that is upserted says that its connection was heard of now, and no record is exactly
as old as a timeout that was rounded up to microseconds. -/
def Stamped (T : ℚ) (rows : Dict String PresenceRecord) (a : Time × RegistryCall) : Prop :=
  match a.2 with
  | .upsertPresence record => record.lastSeen = a.1
  | .upkeep (.expireStale _ _) => T * 1000000 < Time.timedelta T →
      ∀ c r, rows.get? c = some r → a.1 - r.lastSeen ≠ Time.timedelta T
  | .upkeep _ => True

theorem markStale_eq (hexact : T * 1000000 < Time.timedelta T →
    now - r.lastSeen ≠ Time.timedelta T) :
    markStale (now - Time.timedelta T) r = marked T now r := by
  have hstale : isStale (now - Time.timedelta T) r = true ↔
      r.status = "online" ∧ T < Time.timestamp (now - r.lastSeen) := by
    rw [isStale, Bool.and_eq_true, decide_eq_true_iff, decide_eq_true_iff,
      ← Time.timedelta_lt_iff hexact]
    refine and_congr_right fun _ ↦ ?_
    constructor
    · intro h
      linarith
    · intro h
      linarith
  rw [markStale, marked]
  by_cases h : isStale (now - Time.timedelta T) r = true
  · rw [if_pos h, if_pos (hstale.mp h)]
  · rw [if_neg h, if_neg fun hold ↦ h (hstale.mpr hold)]

/-- The records of a sweep. -/
theorem marked_of_map (hexact : Stamped T rows (now, .upkeep (.expireStale T 1)))
    (h : (rows.map fun _ r ↦ markStale (now - Time.timedelta T) r).get? connId = some r) :
    ∃ r', rows.get? connId = some r' ∧ r = marked T now r' := by
  rw [Dict.get?_map] at h
  obtain ⟨r', hget, rfl⟩ := Option.map_eq_some_iff.mp h
  exact ⟨r', hget, markStale_eq fun hup ↦ hexact hup connId r' hget⟩

/-- The records after a heartbeat. -/
theorem beaten_of_modify {load : Option ℚ} {c : String} (hkeyed : KeyedRows rows)
    (h : (rows.modify connId fun r ↦ beat r now load).get? c = some r) :
    (∃ r', rows.get? c = some r' ∧ r'.connId = connId ∧ r = beat r' now load) ∨
      r.connId ≠ connId ∧ rows.get? c = some r := by
  rw [Dict.get?_modify] at h
  split at h
  · rename_i hc
    obtain ⟨r', hget, rfl⟩ := Option.map_eq_some_iff.mp h
    subst hc
    exact .inl ⟨r', hget, hkeyed _ r' hget, rfl⟩
  · rename_i hc
    refine .inr ⟨?_, h⟩
    rw [hkeyed c r h]
    exact hc

theorem KeyedRows.modify (h : KeyedRows rows) (connId : String) {load : Option ℚ} :
    KeyedRows (rows.modify connId fun r ↦ beat r now load) := by
  intro c r hget
  rcases beaten_of_modify h hget with ⟨r', hget', -, rfl⟩ | ⟨-, hget'⟩
  · exact h c r' hget'
  · exact h c r hget'

theorem KeyedRows.map (h : KeyedRows rows) (cutoff : Time) :
    KeyedRows (rows.map fun _ r ↦ markStale cutoff r) := by
  intro c r hget
  rw [Dict.get?_map] at hget
  obtain ⟨r', hget', rfl⟩ := Option.map_eq_some_iff.mp hget
  exact (InMemoryRegistryStore.markStale_same cutoff r').1.trans (h c r' hget')

theorem KeyedRows.insert (h : KeyedRows rows) (hconn : record.connId = connId) :
    KeyedRows (rows.insert connId record) := by
  intro c r hget
  rw [Dict.get?_insert] at hget
  split at hget
  · rename_i hc
    rw [← Option.some.inj hget, hc]
    exact hconn
  · exact h c r hget

theorem KeyedRows.erase (h : KeyedRows rows) (connId : String) :
    KeyedRows (rows.erase connId) := by
  intro c r hget
  rw [Dict.get?_erase] at hget
  exact h c r (Option.ite_none_left_eq_some.mp hget).2

end Rows

namespace InMemoryRegistryStore

open RedisRegistryStore (beat)

variable {T : ℚ} {now : Time} {store : InMemoryRegistryStore} {record : PresenceRecord}

/-- An upsert puts its record among records that were there. -/
theorem upsertPresence_put (hkeyed : KeyedRows store.presence) (record : PresenceRecord) :
    ∃ rows, (store.upsertPresence record).presence = rows.insert record.connId record ∧
      KeyedRows rows ∧ ∀ c r, rows.get? c = some r → store.presence.get? c = some r := by
  refine ⟨_, rfl, ?_⟩
  split
  · split
    · refine ⟨hkeyed.erase _, fun c r hc ↦ ?_⟩
      rw [Dict.get?_erase] at hc
      exact (Option.ite_none_left_eq_some.mp hc).2
    · exact ⟨hkeyed, fun c r hc ↦ hc⟩
  · exact ⟨hkeyed, fun c r hc ↦ hc⟩

theorem presence_heartbeat {connId : String} {load : Option ℚ} :
    (store.heartbeat now connId load).2.presence =
      store.presence.modify connId fun r ↦ beat r now load := by
  rw [heartbeat]
  split
  · rename_i hnone
    rw [Dict.modify, hnone]
  · rfl

/-- The store in memory tells the status of connections whose heartbeats come in time. -/
theorem keeps_status (T : ℚ) :
    backend.KeepsStatus T (fun store a ↦ backend.Unmarked store a ∧ Stamped T store.presence a)
      {} := by
  refine RegistryBackend.keepsStatus_of_does (I := fun _ store ↦ KeyedRows store.presence)
    ?_ ?_ ?_ ?_ (fun _ _ h ↦ h.1) ?_
  · rintro now r ⟨c, hget⟩
    cases hget
  · rintro now c r ⟨⟩
  · exact fun _ hkeyed ↦ hkeyed
  · exact fun _ hheld ↦ hheld
  · rintro now store call hkeyed hcall ⟨-, hstamped⟩
    cases call with
    | upsertPresence record =>
        obtain ⟨rows, hput, hrows, hless⟩ := upsertPresence_put hkeyed record
        constructor
        · show KeyedRows (store.upsertPresence record).presence
          rw [hput]
          exact hrows.insert rfl
        · rintro r' ⟨c, hget⟩
          have hget : (store.upsertPresence record).presence.get? c = some r' := hget
          rw [hput, Dict.get?_insert] at hget
          split at hget
          · cases hget
            exact .inl ⟨rfl, rfl, hstamped⟩
          · rename_i hc
            refine .inr ⟨?_, c, hless c r' hget⟩
            rw [hrows c r' hget]
            exact hc
    | upkeep call =>
        cases call with
        | heartbeat connId load =>
            have hrows : (backend.exec now (.upkeep (.heartbeat connId load)) store).presence =
                store.presence.modify connId fun r ↦ beat r now load := presence_heartbeat
            refine ⟨?_, ?_⟩
            · show KeyedRows (backend.exec now (.upkeep (.heartbeat connId load)) store).presence
              rw [hrows]
              exact hkeyed.modify connId
            · rintro r' ⟨c, hget⟩
              rw [hrows] at hget
              rcases beaten_of_modify hkeyed hget with ⟨r, hget', hconn, rfl⟩ | ⟨hne, hget'⟩
              · exact .inl ⟨r, ⟨c, hget'⟩, hconn, rfl⟩
              · exact .inr ⟨hne, c, hget'⟩
        | remove connId => exact hcall.elim
        | expireStale timeoutSeconds batches =>
            obtain ⟨rfl, -⟩ := hcall
            refine ⟨hkeyed.map _, ?_⟩
            rintro r' ⟨c, hget⟩
            obtain ⟨r, hget', rfl⟩ := marked_of_map hstamped hget
            exact ⟨r, ⟨c, hget'⟩, rfl⟩

end InMemoryRegistryStore

namespace SqlAlchemyRegistryStore

open RedisRegistryStore (beat)

variable {now : Time} {store : SqlAlchemyRegistryStore} {rows : Dict String PresenceRecord}
  {record : PresenceRecord}

theorem rows_heartbeat {connId : String} {load : Option ℚ} :
    (store.heartbeat now connId load).2.rows =
      store.rows.modify connId fun r ↦ beat r now load := by
  rw [heartbeat]
  split
  · rename_i hnone
    rw [Dict.modify, hnone]
  · rfl

/-- The row of an upsert has the connection, the status and the time of its record. -/
theorem of_put {owner : String → UUID} {c : String} {r : PresenceRecord} (h : Rows owner rows)
    (hget : (put rows record).get? c = some r) :
    r.connId = record.connId ∧ r.status = record.status ∧ r.lastSeen = record.lastSeen ∨
      r.connId ≠ record.connId ∧ rows.get? c = some r := by
  rw [put] at hget
  split at hget
  · rename_i existing hexisting
    have hconn : existing.connId = record.connId := h.keyed _ existing hexisting
    rw [Dict.get?_insert] at hget
    split at hget
    · cases hget
      exact .inl ⟨hconn, rfl, rfl⟩
    · rename_i hc
      refine .inr ⟨?_, hget⟩
      rw [h.keyed c r hget]
      exact hc
  · rw [Dict.get?_insert] at hget
    split at hget
    · cases hget
      exact .inl ⟨rfl, rfl, rfl⟩
    · rename_i hc
      refine .inr ⟨?_, hget⟩
      rw [h.keyed c r hget]
      exact hc

/-- After a `put` the rows are still one for each agent; a row that is there stays that of its
agent, whoever's record is put. -/
theorem exists_rows_put {owner : String → UUID} (h : Rows owner rows)
    (honly : ∀ c r, rows.get? c = some r → r.agentId = record.agentId → c = record.connId) :
    ∃ owner', Rows owner' (put rows record) := by
  rw [put]
  cases hexisting : rows.get? record.connId with
  | some existing =>
      have hconn : existing.connId = record.connId := h.keyed _ existing hexisting
      have hagent : existing.agentId = owner record.connId := h.owned _ existing hexisting
      refine ⟨owner, h.insert hconn hagent ?_⟩
      intro c r hget hagent
      exact h.single c record.connId r existing hget hexisting hagent
  | none =>
      have howned : Rows (Function.update owner record.connId record.agentId) rows := by
        refine ⟨h.keyed, ?_, h.single⟩
        intro c r hget
        rw [Function.update_of_ne]
        · exact h.owned c r hget
        · rintro rfl
          cases hexisting.symm.trans hget
      have hself : record.agentId = Function.update owner record.connId record.agentId record.connId :=
        (Function.update_self record.connId record.agentId owner).symm
      exact ⟨_, howned.insert rfl hself honly⟩

/-- The store over SQL tells the status of connections whose heartbeats come in time. -/
theorem keeps_status (T : ℚ) :
    backend.KeepsStatus T (fun store a ↦ backend.Unmarked store a ∧ Stamped T store.rows a) {} := by
  refine RegistryBackend.keepsStatus_of_does (I := fun _ store ↦ ∃ owner, Rows owner store.rows)
    ?_ ?_ ?_ ?_ (fun _ _ h ↦ h.1) ?_
  · rintro now r ⟨c, hget⟩
    cases hget
  · exact fun _ ↦ ⟨fun _ ↦ ⟨0⟩, Rows.empty⟩
  · exact fun _ hrows ↦ hrows
  · exact fun _ hheld ↦ hheld
  · rintro now store call ⟨owner, hrows⟩ hcall ⟨-, hstamped⟩
    cases call with
    | upsertPresence record =>
        obtain ⟨rows, hupsert, hless, honly⟩ := upsertPresence_put hrows record
        have hexec : backend.exec now (.upsertPresence record) store = { rows := put rows record } := by
          show (store.upsertPresence record).getD store = _
          rw [hupsert, Option.getD_some]
        rw [hexec]
        refine ⟨exists_rows_put hless fun c r hget ↦ (honly c r hget).2, ?_⟩
        rintro r' ⟨c, hget⟩
        rcases of_put hless hget with ⟨hconn, hstatus, hseen⟩ | ⟨hne, hget'⟩
        · exact .inl ⟨hconn, hstatus, hseen.trans hstamped⟩
        · exact .inr ⟨hne, c, (honly c r' hget').1⟩
    | upkeep call =>
        cases call with
        | heartbeat connId load =>
            have hbeat : (backend.exec now (.upkeep (.heartbeat connId load)) store).rows =
                store.rows.modify connId fun r ↦ beat r now load := rows_heartbeat
            refine ⟨⟨owner, ?_⟩, ?_⟩
            · rw [hbeat]
              exact hrows.modify connId fun r ↦ ⟨rfl, rfl⟩
            · rintro r' ⟨c, hget⟩
              rw [hbeat] at hget
              rcases beaten_of_modify hrows.keyed hget with ⟨r, hget', hconn, rfl⟩ | ⟨hne, hget'⟩
              · exact .inl ⟨r, ⟨c, hget'⟩, hconn, rfl⟩
              · exact .inr ⟨hne, c, hget'⟩
        | remove connId => exact hcall.elim
        | expireStale timeoutSeconds batches =>
            obtain ⟨rfl, -⟩ := hcall
            refine ⟨⟨owner, hrows.map (InMemoryRegistryStore.markStale_same _)⟩, ?_⟩
            rintro r' ⟨c, hget⟩
            obtain ⟨r, hget', rfl⟩ := marked_of_map hstamped hget
            exact ⟨r, ⟨c, hget'⟩, rfl⟩

end SqlAlchemyRegistryStore

/-! ## Over Redis -/

namespace RedisRegistryStore

open RegistryBackend (marked)

variable {store : RedisRegistryStore} {T : ℚ} {now t : Time} {s s' s'' : RedisPresence}
  {env : PresenceEnv} {record : PresenceRecord}

/-- A sweep finds the key of a record: it matches the pattern, and is not taken for an index. -/
structure Found (store : RedisRegistryStore) (key : String) : Prop where
  pattern : matchesPattern (store.keyPrefix ++ ":presence:*") key = true
  index : isIndexKey key = false

/-- The records are under the keys of their connections, where a sweep finds them, and the sets
are under keys that it takes for an index. -/
structure Apart (store : RedisRegistryStore) (now : Time) (s : RedisPresence) : Prop where
  records : ∀ key r, s.read now key = some (.record r) →
    key = store.presenceKey r.connId ∧ store.Found key
  sets : ∀ key members, s.read now key = some (.conns members) → isIndexKey key = true

/-- An upsert is of a connection whose key a sweep finds, and the `SCAN` of a sweep visits all
keys of records. -/
def Visible (store : RedisRegistryStore) (s : RedisPresence) (a : PresenceEnv × RegistryCall) :
    Prop :=
  match a.2 with
  | .upsertPresence record => store.Found (store.presenceKey record.connId)
  | .upkeep (.expireStale _ _) => ∀ key r, s.read a.1.now key = some (.record r) →
      key ∈ a.1.visited
  | .upkeep _ => True

theorem isIndexKey_tenantIndexKey (store : RedisRegistryStore) (tenantId : String) :
    isIndexKey (store.tenantIndexKey tenantId) = true := by
  refine decide_eq_true ⟨(store.keyPrefix ++ ":presence").toList, tenantId.toList, ?_⟩
  rw [tenantIndexKey]
  simp

theorem Apart.mono (h : store.Apart now s) (hle : now ≤ t) : store.Apart t s where
  records key r hread := h.records key r (Expiring.read_of_le hread hle)
  sets key members hread := h.sets key members (Expiring.read_of_le hread hle)

theorem Apart.empty (now : Time) : store.Apart now ∅ := by
  constructor
  · rintro key r ⟨⟩
  · rintro key members ⟨⟩

/-! ### Upserts and heartbeats -/

theorem Apart.upserted (h : store.Apart now s) (hfound : store.Found (store.presenceKey record.connId)) :
    store.Upserted now record s (store.exec now s (.upsertPresence record)) := by
  refine upserted_of_ne ?_ ?_
  · intro heq
    have hindex := store.isIndexKey_tenantIndexKey record.tenantId
    rw [← heq, hfound.index] at hindex
    cases hindex
  · intro r hread
    have hindex := (h.records _ r hread).2.index
    rw [isIndexKey_tenantIndexKey] at hindex
    cases hindex

/-- A record that is there after an upsert. -/
theorem Upserted.record_cases (hup : store.Upserted now record s s') {key : String}
    {r : PresenceRecord} (hread : s'.read now key = some (.record r)) :
    key = store.presenceKey record.connId ∧ r = { record with lastSeen := now } ∨
      key ≠ store.presenceKey record.connId ∧ s.read now key = some (.record r) := by
  by_cases hkey : key = store.presenceKey record.connId
  · rw [hkey, hup.stored] at hread
    split at hread
    · cases hread
      exact .inl ⟨hkey, rfl⟩
    · cases hread
  · refine .inr ⟨hkey, ?_⟩
    by_cases hindex : key = store.tenantIndexKey record.tenantId
    · obtain ⟨members, -, hmembers⟩ := hup.index
      rw [hindex, hmembers] at hread
      split at hread
      · cases hread
      · cases hread
    · rw [hup.other now key hkey hindex] at hread
      exact hread

theorem Apart.upsert (h : store.Apart now s) (hfound : store.Found (store.presenceKey record.connId)) :
    store.Apart now (store.exec now s (.upsertPresence record)) := by
  have hup := h.upserted hfound
  constructor
  · intro key r hread
    rcases hup.record_cases hread with ⟨rfl, rfl⟩ | ⟨-, hread'⟩
    · exact ⟨rfl, hfound⟩
    · exact h.records key r hread'
  · intro key members hread
    by_cases hindex : key = store.tenantIndexKey record.tenantId
    · rw [hindex]
      exact isIndexKey_tenantIndexKey store _
    · by_cases hkey : key = store.presenceKey record.connId
      · rw [hkey, hup.stored] at hread
        split at hread
        · cases hread
        · cases hread
      · rw [hup.other now key hkey hindex] at hread
        exact h.sets key members hread

/-- A record under the key of another connection. -/
theorem Apart.connId_ne {key connId : String} {r : PresenceRecord} (h : store.Apart now s)
    (hread : s.read now key = some (.record r)) (hne : key ≠ store.presenceKey connId) :
    r.connId ≠ connId := by
  rintro rfl
  exact hne (h.records key r hread).1

/-- A heartbeat finds no record of its connection, or stamps it. -/
theorem Apart.heartbeat_cases (h : store.Apart now s) (connId : String) (load : Option ℚ) :
    (store.exec now s (.heartbeat connId load) = s ∧
        ∀ r, s.read now (store.presenceKey connId) ≠ some (.record r)) ∨
      ∃ r, s.read now (store.presenceKey connId) = some (.record r) ∧ r.connId = connId ∧
        store.exec now s (.heartbeat connId load) = s.write (store.presenceKey connId)
          (.record (beat r now load)) (some (now + Time.seconds store.ttl)) := by
  rw [exec_heartbeat]
  cases hgot : got { now := now } s (store.presenceKey connId) with
  | found r =>
      have hread := got_found_iff.mp hgot
      exact .inr ⟨r, hread, (presenceKey_injective (h.records _ r hread).1).symm, rfl⟩
  | missing | wrongType =>
      refine .inl ⟨rfl, ?_⟩
      intro r hread
      cases hgot.symm.trans (got_found_iff.mpr hread)

/-- Right after a record is stored. -/
theorem read_setRecord (key key' : String) (r : PresenceRecord) :
    (s.write key (.record r) (some (now + Time.seconds store.ttl))).read now key' =
      if key' = key then some (.record r) else s.read now key' := by
  apply Expiring.read_write
  rintro e ⟨⟩
  exact lt_add_of_pos_right now (Int.mul_pos store.ttl_pos (by decide))

/-- A record that is written where one of its connection was. -/
theorem Apart.write {key : String} {r r' : PresenceRecord} (h : store.Apart now s)
    (hread : s.read now key = some (.record r)) (hconn : r'.connId = r.connId) :
    store.Apart now (s.write key (.record r') (some (now + Time.seconds store.ttl))) := by
  constructor
  · intro key' r'' hread'
    rw [read_setRecord] at hread'
    split at hread'
    · rename_i hkey
      cases hread'
      rw [hkey, hconn]
      exact h.records key r hread
    · exact h.records key' r'' hread'
  · intro key' members hread'
    rw [read_setRecord] at hread'
    split at hread'
    · cases hread'
    · exact h.sets key' members hread'

theorem Apart.heartbeat (h : store.Apart now s) (connId : String) (load : Option ℚ) :
    store.Apart now (store.exec now s (.heartbeat connId load)) ∧
      ∀ r', store.backend.holds now (store.exec now s (.heartbeat connId load)) r' →
        (∃ r, store.backend.holds now s r ∧ r.connId = connId ∧ r' = beat r now load) ∨
          r'.connId ≠ connId ∧ store.backend.holds now s r' := by
  rcases h.heartbeat_cases connId load with ⟨hsame, hnone⟩ | ⟨r, hread, hconn, hwrite⟩
  · rw [hsame]
    refine ⟨h, ?_⟩
    rintro r' ⟨key, hread⟩
    refine .inr ⟨h.connId_ne hread ?_, key, hread⟩
    rintro rfl
    exact hnone r' hread
  · rw [hwrite]
    refine ⟨h.write hread rfl, ?_⟩
    rintro r' ⟨key, hread'⟩
    rw [read_setRecord] at hread'
    split at hread'
    · cases hread'
      exact .inl ⟨r, ⟨_, hread⟩, hconn, rfl⟩
    · rename_i hkey
      exact .inr ⟨h.connId_ne hread' hkey, key, hread'⟩

/-! ### Sweeps -/

theorem marked_eq (T : ℚ) (now : Time) (r : PresenceRecord) :
    marked T now r = if isStale now T r then { r with status := "offline" } else r := by
  rw [marked, isStale]
  simp only [Bool.and_eq_true, decide_eq_true_iff, gt_iff_lt]
  exact if_congr and_comm rfl rfl

/-- A sweep over some keys marks some stale records, and leaves none under these keys. -/
structure Passes (now : Time) (T : ℚ) (keys : List String) (s s' : RedisPresence) : Prop where
  marks : ∀ key v, s'.read now key = some v → s.read now key = some v ∨
    ∃ r, s.read now key = some (.record r) ∧ isStale now T r = true ∧
      v = .record { r with status := "offline" }
  fresh : ∀ key ∈ keys, isIndexKey key = false → ∀ r, s'.read now key = some (.record r) →
    isStale now T r = false

theorem Passes.refl (now : Time) (T : ℚ) (s : RedisPresence) : Passes now T [] s s where
  marks _ _ hread := .inl hread
  fresh _ hkey := absurd hkey List.not_mem_nil

/-- A record is not stale once it is marked. -/
theorem isStale_offline (r : PresenceRecord) :
    isStale now T { r with status := "offline" } = false := by
  rw [isStale, Bool.and_eq_false_iff]
  exact .inr rfl

/-- What is left fresh stays fresh. -/
theorem Passes.trans {keys keys' : List String} (h : Passes now T keys s s')
    (h' : Passes now T keys' s' s'') : Passes now T (keys ++ keys') s s'' where
  marks key v hread := by
    rcases h'.marks key v hread with hread' | ⟨r, hread', hstale, rfl⟩
    · exact h.marks key v hread'
    · rcases h.marks key _ hread' with hread | ⟨r₀, -, -, heq⟩
      · exact .inr ⟨r, hread, hstale, rfl⟩
      · cases heq
        cases (isStale_offline r₀).symm.trans hstale
  fresh key hkey hindex r hread := by
    rcases List.mem_append.mp hkey with hkey | hkey
    · rcases h'.marks key _ hread with hread' | ⟨r₀, -, -, heq⟩
      · exact h.fresh key hkey hindex r hread'
      · cases heq
        exact isStale_offline r₀
    · exact h'.fresh key hkey hindex r hread

theorem Passes.apart {keys : List String} (h : Passes now T keys s s')
    (hapart : store.Apart now s) : store.Apart now s' where
  records key r hread := by
    rcases h.marks key _ hread with hread' | ⟨r₀, hread', -, heq⟩
    · exact hapart.records key r hread'
    · cases heq
      exact hapart.records key r₀ hread'
  sets key members hread := by
    rcases h.marks key _ hread with hread' | ⟨r₀, -, -, heq⟩
    · exact hapart.sets key members hread'
    · cases heq

/-- A key that holds nothing stale, or is taken for an index. -/
theorem Passes.skip {key : String} (h : isIndexKey key = false → ∀ r,
    s.read now key = some (.record r) → isStale now T r = false) : Passes now T [key] s s where
  marks _ _ hread := .inl hread
  fresh key' hkey hindex r hread := by
    rw [List.mem_singleton.mp hkey] at hindex hread
    exact h hindex r hread

/-- A key with a stale record. -/
theorem Passes.mark {key : String} {r : PresenceRecord}
    (hread : s.read now key = some (.record r)) (hstale : isStale now T r = true) :
    Passes now T [key] s (s.write key (.record { r with status := "offline" })
      (some (now + Time.seconds store.ttl))) where
  marks key' v hread' := by
    rw [read_setRecord] at hread'
    split at hread'
    · rename_i hkey
      rw [hkey]
      exact .inr ⟨r, hread, hstale, (Option.some.inj hread').symm⟩
    · exact .inl hread'
  fresh key' hkey hindex r' hread' := by
    rw [read_setRecord, if_pos (List.mem_singleton.mp hkey)] at hread'
    cases hread'
    exact isStale_offline r

/-- The sweep of a batch passes over its keys, and goes on with the next one. -/
theorem expireKeys_passes {next : Nat → PresenceProg PresenceReply} (keys : List String)
    (count : Nat) (hapart : store.Apart env.now s) :
    ∃ count' s', Passes env.now T keys s s' ∧
      (store.expireKeys env.now T next keys count).run env s = (next count').run env s' := by
  induction keys generalizing count s with
  | nil => exact ⟨count, s, .refl env.now T s, rfl⟩
  | cons key keys ih =>
      -- the head, then the rest
      have hrest : ∀ {s₀ : RedisPresence} (count₀ : Nat), Passes env.now T [key] s s₀ →
          ∃ count' s', Passes env.now T (key :: keys) s s' ∧
            (store.expireKeys env.now T next keys count₀).run env s₀ =
              (next count').run env s' := by
        intro s₀ count₀ hhead
        obtain ⟨count', s', htail, hrun⟩ := ih count₀ (hhead.apart hapart)
        exact ⟨count', s', hhead.trans htail, hrun⟩
      rw [expireKeys]
      split
      · rename_i hindex
        refine hrest count (.skip ?_)
        intro hindex'
        cases hindex.symm.trans hindex'
      · rename_i hindex
        rw [Prog.run_bind, getRecord, Prog.run_query]
        dsimp only
        cases hgot : got env s key with
        | missing =>
            refine hrest count (.skip ?_)
            intro _ r hread
            cases hgot.symm.trans (got_found_iff.mpr hread)
        | wrongType =>
            obtain ⟨members, hread⟩ := got_wrongType_iff.mp hgot
            exact absurd (hapart.sets key members hread) hindex
        | found r =>
            have hread := got_found_iff.mp hgot
            dsimp only
            split
            · rename_i hstale
              rw [Prog.run_bind, setRecord, Prog.run_modify]
              exact hrest (count + 1) (.mark hread hstale)
            · rename_i hfresh
              refine hrest count (.skip ?_)
              intro _ r' hread'
              cases hread.symm.trans hread'
              exact Bool.not_eq_true _ ▸ hfresh

/-- The batches pass over the keys that the `SCAN` visits, if there is one. -/
theorem expireBatches_passes (batches count : Nat) (hapart : store.Apart env.now s) :
    ∃ keys s', Passes env.now T keys s s' ∧
      ((store.expireBatches env.now T batches count).run env s).2 = s' ∧
      (0 < batches → ∀ key ∈ env.visited, (s.read env.now key).isSome = true →
        matchesPattern (store.keyPrefix ++ ":presence:*") key = true → key ∈ keys) := by
  induction batches generalizing count s with
  | zero => exact ⟨[], s, .refl env.now T s, rfl, fun h ↦ absurd h (lt_irrefl 0)⟩
  | succ batches ih =>
      rw [expireBatches, Prog.run_bind, scan, Prog.run_query]
      dsimp only
      obtain ⟨count', s₁, hpasses, hrun⟩ := @expireKeys_passes store T s env
        (store.expireBatches env.now T batches)
        (env.visited.filter fun key ↦ (s.read env.now key).isSome &&
          matchesPattern (store.keyPrefix ++ ":presence:*") key) count hapart
      obtain ⟨keys, s', hpasses', hrun', -⟩ := ih count' (hpasses.apart hapart)
      refine ⟨_, s', hpasses.trans hpasses', ?_, ?_⟩
      · rw [hrun]
        exact hrun'
      · intro _ key hkey hsome hmatches
        refine List.mem_append_left _ (List.mem_filter.mpr ⟨hkey, ?_⟩)
        rw [hsome, hmatches]
        rfl

/-- After a sweep that visits all records, none is stale. -/
theorem expireStale_passes {batches : Nat} (hapart : store.Apart env.now s) (hpos : 0 < batches)
    (hvisited : ∀ key r, s.read env.now key = some (.record r) → key ∈ env.visited) :
    ∃ keys, Passes env.now T keys s ((store.expireStale T batches).run env s).2 ∧
      ∀ key r, s.read env.now key = some (.record r) → key ∈ keys := by
  rw [expireStale, Prog.run_bind, Prog.run_ask]
  dsimp only
  obtain ⟨keys, s', hpasses, hrun, hkeys⟩ := expireBatches_passes batches 0 hapart
  rw [hrun]
  refine ⟨keys, hpasses, ?_⟩
  intro key r hread
  refine hkeys hpos key (hvisited key r hread) ?_ (hapart.records key r hread).2.pattern
  rw [hread]
  rfl

/-- The records after such a sweep. -/
theorem Passes.marked {keys : List String} {key : String} {r' : PresenceRecord}
    (h : Passes now T keys s s') (hapart : store.Apart now s)
    (hkeys : ∀ key r, s.read now key = some (.record r) → key ∈ keys)
    (hread : s'.read now key = some (.record r')) :
    ∃ r, s.read now key = some (.record r) ∧ r' = RegistryBackend.marked T now r := by
  rcases h.marks key _ hread with hread' | ⟨r, hread', hstale, heq⟩
  · refine ⟨r', hread', ?_⟩
    have hindex := (hapart.records key r' hread').2.index
    rw [marked_eq, h.fresh key (hkeys key r' hread') hindex r' hread, if_neg Bool.false_ne_true]
  · refine ⟨r, hread', ?_⟩
    cases heq
    rw [marked_eq, if_pos hstale]

/-- The store over Redis tells the status of connections whose heartbeats come in time. -/
theorem keeps_status (store : RedisRegistryStore) (T : ℚ) :
    store.backend.KeepsStatus T (fun s a ↦ store.backend.Unmarked s a ∧ store.Visible s a) ∅ := by
  refine RegistryBackend.keepsStatus_of_does (I := fun now s ↦ store.Apart now s)
    ?_ Apart.empty (fun hle h ↦ h.mono hle) (fun hle h ↦ holds_of_le h hle) (fun _ _ h ↦ h.1) ?_
  · rintro now r ⟨key, hread⟩
    cases hread
  · rintro env s call hapart hcall ⟨-, hvisible⟩
    have hapart : store.Apart env.now s := hapart
    cases call with
    | upsertPresence record =>
        refine ⟨hapart.upsert hvisible, ?_⟩
        rintro r' ⟨key, hread⟩
        rcases (hapart.upserted hvisible).record_cases hread with ⟨-, rfl⟩ | ⟨hkey, hread'⟩
        · exact .inl ⟨rfl, rfl, rfl⟩
        · exact .inr ⟨hapart.connId_ne hread' hkey, key, hread'⟩
    | upkeep call =>
        cases call with
        | heartbeat connId load => exact hapart.heartbeat connId load
        | remove connId => exact hcall.elim
        | expireStale timeoutSeconds batches =>
            obtain ⟨rfl, hpos⟩ := hcall
            obtain ⟨keys, hpasses, hkeys⟩ := expireStale_passes hapart hpos hvisible
            refine ⟨hpasses.apart hapart, ?_⟩
            rintro r' ⟨key, hread⟩
            obtain ⟨r, hread', heq⟩ := hpasses.marked hapart hkeys hread
            exact ⟨r, ⟨key, hread'⟩, heq⟩

end RedisRegistryStore

/-! ## All stores -/

/-- In every run of upserts, heartbeats and sweeps a store tells the status of the connections, if
no heartbeat comes for one that is marked offline; in memory and over SQL if upserts bring
the time of the contact, and over Redis if a sweep finds the keys. -/
theorem status_kept (T : ℚ) (store : RedisRegistryStore) :
    InMemoryRegistryStore.backend.KeepsStatus T
        (fun store a ↦ InMemoryRegistryStore.backend.Unmarked store a ∧ Stamped T store.presence a)
        {} ∧
      SqlAlchemyRegistryStore.backend.KeepsStatus T
        (fun store a ↦ SqlAlchemyRegistryStore.backend.Unmarked store a ∧ Stamped T store.rows a)
        {} ∧
      store.backend.KeepsStatus T (fun s a ↦ store.backend.Unmarked s a ∧ store.Visible s a) ∅ :=
  ⟨InMemoryRegistryStore.keeps_status T, SqlAlchemyRegistryStore.keeps_status T,
    store.keeps_status T⟩

def sampleSweep : RegistryCall := .upkeep (.expireStale 10 1)

def sampleBeat : RegistryCall := .upkeep (.heartbeat "a" none)

theorem stamped_sweep (rows : Dict String PresenceRecord) (now : Time) :
    Stamped 10 rows (now, sampleSweep) := by
  intro hup
  exact absurd hup (by decide +kernel)

/-- A connection that was marked offline stays so after its heartbeat. -/
theorem status_lost :
    ¬ InMemoryRegistryStore.backend.KeepsStatus 10
        (fun store a ↦ Stamped 10 store.presence a) {} ∧
      ¬ SqlAlchemyRegistryStore.backend.KeepsStatus 10
        (fun store a ↦ Stamped 10 store.rows a) {} ∧
      ¬ (RedisRegistryStore.backend {}).KeepsStatus 10 (RedisRegistryStore.Visible {}) ∅ := by
  have hne : "offline" ≠ "online" := by decide
  refine ⟨fun h ↦ ?_, fun h ↦ ?_, fun h ↦ ?_⟩
  · have htells := h 0 (fun _ ↦ 0) [(0, .upsertPresence (presenceOn "a")),
      (Time.seconds 20, sampleSweep)] _ (Time.seconds 21, sampleBeat) _
      (.cons ⟨rfl, le_rfl, rfl, rfl⟩ (.cons ⟨stamped_sweep _ _, by decide, ⟨rfl, one_pos⟩, rfl⟩
        (.nil _))) ⟨trivial, by decide, trivial, rfl⟩
    exact hne (htells { presenceOn "a" with status := "offline", lastSeen := Time.seconds 21 }
      ⟨"a", by with_unfolding_all rfl⟩ rfl)
  · have htells := h 0 (fun _ ↦ 0) [(0, .upsertPresence (presenceOn "a")),
      (Time.seconds 20, sampleSweep)] _ (Time.seconds 21, sampleBeat) _
      (.cons ⟨rfl, le_rfl, rfl, rfl⟩ (.cons ⟨stamped_sweep _ _, by decide, ⟨rfl, one_pos⟩, rfl⟩
        (.nil _))) ⟨trivial, by decide, trivial, rfl⟩
    exact hne (htells { presenceOn "a" with status := "offline", lastSeen := Time.seconds 21 }
      ⟨"a", by with_unfolding_all rfl⟩ rfl)
  · have hfound : RedisRegistryStore.Found {} (RedisRegistryStore.presenceKey {} "a") :=
      ⟨by decide +kernel, by decide +kernel⟩
    have hvisited : ∀ key r, Expiring.read ((RedisRegistryStore.backend {}).exec { now := 0 }
        (.upsertPresence (presenceOn "a")) ∅) (Time.seconds 20) key = some (.record r) →
          key ∈ ["lip:presence:a"] := by
      intro key r hread
      have hread := Expiring.read_of_le hread (by decide : (0 : Time) ≤ Time.seconds 20)
      rcases ((RedisRegistryStore.Apart.empty 0).upserted hfound).record_cases hread with
        ⟨rfl, -⟩ | ⟨-, hread'⟩
      · exact List.mem_singleton_self _
      · cases hread'
    have htells := h 0 (fun _ ↦ 0) [({ now := 0 }, .upsertPresence (presenceOn "a")),
      ({ now := Time.seconds 20, visited := ["lip:presence:a"] }, sampleSweep)] _
      ({ now := Time.seconds 21 }, sampleBeat) _
      (.cons ⟨hfound, le_rfl, rfl, rfl⟩ (.cons ⟨hvisited, by decide, ⟨rfl, one_pos⟩, rfl⟩
        (.nil _))) ⟨trivial, by decide, trivial, rfl⟩
    exact hne (htells { presenceOn "a" with status := "offline", lastSeen := Time.seconds 21 }
      ⟨"lip:presence:a", by with_unfolding_all rfl⟩ rfl)

end SemanticBus
