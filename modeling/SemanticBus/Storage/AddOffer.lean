import SemanticBus.Data.Pool
import SemanticBus.Storage.Sessions

/-!
# Concurrent offers

Some calls of `add_offer` to one session over SQL.  Each is a transaction of a `SELECT`
and of an `UPDATE` that is there at the commit: it writes the offers of the row that was
read, and one more.  At `READ COMMITTED` another transaction may commit in between, and
its offer is lost.  The stored list has every offer once exactly when no transaction
commits over offers that it has not read (`stored_iff`).
-/

universe u

namespace SemanticBus

abbrev SqlProg := Prog Unit SqlAlchemySessionStore

namespace SqlAlchemySessionStore

def selectRow (sessionId : UUID) : SqlProg (Option SessionModel) :=
  .query fun _ store ↦ store.rows.get? sessionId

def commitOffers (sessionId : UUID) (offers : List JsonObj) : SqlProg Unit :=
  .modify fun _ store ↦
    { rows := store.rows.modify sessionId fun row ↦ { row with offers := offers } }

def withOffer (model : SessionModel) (offer : JsonObj) : SessionRecord :=
  sessionModelToRecord { model with offers := model.offers ++ [offer] }

/-- The rest of an `add_offer` that has read the row. -/
def appendOffer (sessionId : UUID) (offer : JsonObj) (model : SessionModel) :
    SqlProg (Option SessionRecord) := do
  commitOffers sessionId (model.offers ++ [offer])
  pure (some (withOffer model offer))

def addOfferTx (sessionId : UUID) (offer : JsonObj) : SqlProg (Option SessionRecord) := do
  match ← selectRow sessionId with
  | none => pure none
  | some model => appendOffer sessionId offer model

/-- Without others in between, the transaction is the operation of the store. -/
theorem run_addOfferTx (sessionId : UUID) (offer : JsonObj) (store : SqlAlchemySessionStore) :
    let ran := (addOfferTx sessionId offer).run () store
    (ran.2, SessionStoreReply.record ran.1) = store.addOffer sessionId offer := by
  intro ran
  show (((addOfferTx sessionId offer).run () store).2,
    SessionStoreReply.record ((addOfferTx sessionId offer).run () store).1) = _
  rw [addOfferTx, Prog.run_bind, selectRow, Prog.run_query, addOffer, change]
  dsimp only
  cases hrow : store.rows.get? sessionId with
  | none => rfl
  | some model =>
      dsimp only
      rw [appendOffer, Prog.run_bind, commitOffers, Prog.run_modify, Dict.modify, hrow]
      rfl

def offersOf (store : SqlAlchemySessionStore) (sessionId : UUID) : List JsonObj :=
  ((store.rows.get? sessionId).map SessionModel.offers).getD []

end SqlAlchemySessionStore

inductive OfferPoint where
  | select
  /-- The row is read. -/
  | commit (model : SessionModel)
  | returned (record : Option SessionRecord)

def OfferPoint.added : OfferPoint → Prop
  | .returned (some _) => True
  | _ => False

structure OfferCalls (κ : Type u) where
  sessionId : UUID
  offer : κ → JsonObj

namespace OfferCalls

open SqlAlchemySessionStore

variable {κ : Type u}

/-- The calls, by the points at which they stand. -/
def outline (calls : OfferCalls κ) :
    Outline κ OfferPoint Unit SqlAlchemySessionStore (Option SessionRecord) where
  prog i
    | .select => addOfferTx calls.sessionId (calls.offer i)
    | .commit model => appendOffer calls.sessionId (calls.offer i) model
    | .returned record => pure record
  next i
    | .select, _, store =>
        match store.rows.get? calls.sessionId with
        | none => some (.returned none, store)
        | some model => some (.commit model, store)
    | .commit model, _, store =>
        some (.returned (some (withOffer model (calls.offer i))),
          { rows := store.rows.modify calls.sessionId fun row ↦
              { row with offers := model.offers ++ [calls.offer i] } })
    | .returned _, _, _ => none
  issue_prog := by
    intro i point env store
    cases point with
    | select =>
        show some _ = _
        dsimp only
        cases hrow : store.rows.get? calls.sessionId with
        | none => rfl
        | some model => rfl
    | commit model => rfl
    | returned record => rfl

/-! ## What is stored -/

abbrev State (κ : Type u) := Points κ OfferPoint SqlAlchemySessionStore

/-- The calls that have returned a record, in some order. -/
structure Order (p : State κ) (order : List κ) : Prop where
  nodup : order.Nodup
  mem_iff : ∀ i, i ∈ order ↔ (p.points i).added

/-- The stored list is the one from before, followed by the offer of every call that has
returned a record, once each. -/
def Stored (calls : OfferCalls κ) (initial : List JsonObj) (p : State κ) : Prop :=
  ∃ order, Order p order ∧
    p.server.offersOf calls.sessionId = initial ++ order.map calls.offer

/-- A transaction that commits has read the offers that are there. -/
def Fresh (calls : OfferCalls κ) (p : State κ) (a : κ × Unit) : Prop :=
  ∀ model, p.points a.1 = .commit model → model.offers = p.server.offersOf calls.sessionId

/-- All is stored, and no transaction has read anything else. -/
structure Tidy (calls : OfferCalls κ) (initial : List JsonObj) (p : State κ) : Prop where
  stored : calls.Stored initial p
  read : ∀ i model, p.points i = .commit model →
    (∃ row, p.server.rows.get? calls.sessionId = some row) ∧
      model.offers <+: p.server.offersOf calls.sessionId

/-- More calls have returned than there are new offers, stored or to be stored. -/
def Deficient (calls : OfferCalls κ) (initial : List JsonObj) (p : State κ) : Prop :=
  ∃ order, Order p order ∧
    (p.server.offersOf calls.sessionId).length < initial.length + order.length ∧
    ∀ i model, p.points i = .commit model →
      model.offers.length < initial.length + order.length

variable {calls : OfferCalls κ} {initial : List JsonObj} {p q : State κ} {order order' : List κ}

theorem Order.length_eq (h : Order p order) (h' : Order p order') :
    order.length = order'.length := by
  apply List.Perm.length_eq
  rw [List.perm_ext_iff_of_nodup h.nodup h'.nodup]
  intro i
  rw [h.mem_iff, h'.mem_iff]

/-- An offer that is lost stays lost. -/
theorem Deficient.not_stored (h : calls.Deficient initial p) : ¬ calls.Stored initial p := by
  rintro ⟨order', horder', hoffers⟩
  obtain ⟨order, horder, hshort, -⟩ := h
  rw [hoffers, List.length_append, List.length_map, horder.length_eq horder'] at hshort
  exact lt_irrefl _ hshort

variable [DecidableEq κ] {i : κ} {point : OfferPoint} {store : SqlAlchemySessionStore}

/-- No call returns a record. -/
theorem Order.move (h : Order p order) (hpoint : ¬ (p.points i).added) (hnext : ¬ point.added) :
    Order (p.move i point store) order := by
  refine ⟨h.nodup, fun j ↦ (h.mem_iff j).trans (Iff.symm ?_)⟩
  apply Points.points_move_iff
  exact iff_of_false hnext hpoint

/-- A call returns a record. -/
theorem Order.snoc (h : Order p order) (hpoint : ¬ (p.points i).added) (hnext : point.added) :
    Order (p.move i point store) (order ++ [i]) := by
  have hi : i ∉ order := by
    rw [h.mem_iff]
    exact hpoint
  constructor
  · apply List.nodup_append_comm.mp
    exact List.nodup_cons.mpr ⟨hi, h.nodup⟩
  · intro j
    rw [List.mem_append, List.mem_singleton, h.mem_iff]
    by_cases hj : j = i
    · subst hj
      rw [Points.points_move_self]
      exact iff_of_true (.inr rfl) hnext
    · rw [Points.points_move_of_ne hj]
      exact or_iff_left hj

/-- What holds of the rows that were read, and of one that is read now. -/
theorem forall_commit_move {P : SessionModel → Prop}
    (h : ∀ j model, p.points j = .commit model → P model)
    (hnext : ∀ model, point = .commit model → P model) :
    ∀ j model, (p.move i point store).points j = .commit model → P model := by
  intro j model hj
  by_cases hji : j = i
  · rw [hji, Points.points_move_self] at hj
    exact hnext model hj
  · rw [Points.points_move_of_ne hji] at hj
    exact h j model hj

omit [DecidableEq κ] in
/-- A commit writes the offers that were read, and one more. -/
theorem offersOf_commit {row : SessionModel}
    (hrow : store.rows.get? calls.sessionId = some row) (offers : List JsonObj) :
    offersOf { rows := store.rows.modify calls.sessionId fun row ↦ { row with offers := offers } }
      calls.sessionId = offers := by
  rw [offersOf, Dict.get?_modify, if_pos rfl, hrow]
  rfl

inductive Move (calls : OfferCalls κ) (p : State κ) (i : κ) : State κ → Prop
  | missing : p.points i = .select → p.server.rows.get? calls.sessionId = none →
      Move calls p i (p.move i (.returned none) p.server)
  | read {model : SessionModel} : p.points i = .select →
      p.server.rows.get? calls.sessionId = some model →
      Move calls p i (p.move i (.commit model) p.server)
  | commit {model : SessionModel} {record : SessionRecord} : p.points i = .commit model →
      Move calls p i (p.move i (.returned (some record))
        { rows := p.server.rows.modify calls.sessionId fun row ↦
            { row with offers := model.offers ++ [calls.offer i] } })

theorem move_of_step {a : κ × Unit} (h : calls.outline.step p a = some q) :
    calls.Move p a.1 q := by
  obtain ⟨point, store, hnext, rfl⟩ := Outline.exists_move h
  cases hpoint : p.points a.1 with
  | select =>
      rw [hpoint] at hnext
      simp only [outline] at hnext
      split at hnext
      · rename_i hrow
        cases hnext
        exact .missing hpoint hrow
      · rename_i hrow
        cases hnext
        exact .read hpoint hrow
  | commit model =>
      rw [hpoint] at hnext
      cases hnext
      exact .commit hpoint
  | returned record =>
      rw [hpoint] at hnext
      cases hnext

theorem Tidy.step {a : κ × Unit} (h : calls.Tidy initial p) (hfresh : calls.Fresh p a)
    (hstep : calls.outline.step p a = some q) : calls.Tidy initial q := by
  obtain ⟨order, horder, hoffers⟩ := h.stored
  cases move_of_step hstep with
  | missing hpoint hrow =>
      constructor
      · refine ⟨order, horder.move ?_ id, hoffers⟩
        rw [hpoint]
        exact id
      · exact forall_commit_move h.read fun _ h ↦ by cases h
  | read hpoint hrow =>
      constructor
      · refine ⟨order, horder.move ?_ id, hoffers⟩
        rw [hpoint]
        exact id
      · apply forall_commit_move h.read
        rintro model ⟨⟩
        refine ⟨⟨_, hrow⟩, ?_⟩
        show _ <+: offersOf p.server calls.sessionId
        rw [offersOf, hrow]
        exact List.prefix_refl _
  | commit hpoint =>
      rename_i model record
      obtain ⟨⟨row, hrow⟩, -⟩ := h.read a.1 model hpoint
      have hcommit := @offersOf_commit _ calls p.server row hrow (model.offers ++ [calls.offer a.1])
      have hmodel := hfresh model hpoint
      constructor
      · refine ⟨order ++ [a.1], horder.snoc ?_ trivial, ?_⟩
        · rw [hpoint]
          exact id
        · refine hcommit.trans ?_
          rw [hmodel, hoffers, List.map_append, List.append_assoc]
          rfl
      · refine forall_commit_move (fun j model' hj ↦ ?_) fun _ h ↦ by cases h
        · constructor
          · show ∃ row, (Dict.modify _ _ _).get? _ = some row
            rw [Dict.get?_modify, if_pos rfl, hrow]
            exact ⟨_, rfl⟩
          · rw [Points.server_move, hcommit, hmodel]
            exact (h.read j model' hj).2.trans (List.prefix_append _ _)

/-- A commit over offers that were not read loses one. -/
theorem Tidy.deficient {a : κ × Unit} (h : calls.Tidy initial p) (hstale : ¬ calls.Fresh p a)
    (hstep : calls.outline.step p a = some q) : calls.Deficient initial q := by
  obtain ⟨order, horder, hoffers⟩ := h.stored
  have hlength := congrArg List.length hoffers
  rw [List.length_append, List.length_map] at hlength
  unfold Fresh at hstale
  push Not at hstale
  obtain ⟨model, hmodel, hne⟩ := hstale
  cases move_of_step hstep with
  | missing hpoint => cases hmodel.symm.trans hpoint
  | read hpoint => cases hmodel.symm.trans hpoint
  | commit hpoint =>
      cases hmodel.symm.trans hpoint
      obtain ⟨⟨row, hrow⟩, hread⟩ := h.read a.1 model hpoint
      have hcommit := @offersOf_commit _ calls p.server row hrow (model.offers ++ [calls.offer a.1])
      have hlt : model.offers.length < (p.server.offersOf calls.sessionId).length := by
        apply lt_of_le_of_ne hread.length_le
        intro heq
        exact hne (hread.eq_of_length heq)
      refine ⟨order ++ [a.1], horder.snoc ?_ trivial, ?_, ?_⟩
      · rw [hpoint]
        exact id
      · rw [Points.server_move, hcommit]
        simp only [List.length_append, List.length_singleton]
        omega
      · refine forall_commit_move (fun j model' hj ↦ ?_) fun _ h ↦ by cases h
        have hle := (h.read j model' hj).2.length_le
        simp only [List.length_append, List.length_singleton]
        omega

theorem Deficient.step {a : κ × Unit} (h : calls.Deficient initial p)
    (hstep : calls.outline.step p a = some q) : calls.Deficient initial q := by
  obtain ⟨order, horder, hshort, hread⟩ := h
  cases move_of_step hstep with
  | missing hpoint hrow =>
      refine ⟨order, horder.move ?_ id, hshort, ?_⟩
      · rw [hpoint]
        exact id
      · exact forall_commit_move hread fun _ h ↦ by cases h
  | read hpoint hrow =>
      refine ⟨order, horder.move ?_ id, hshort, ?_⟩
      · rw [hpoint]
        exact id
      · apply forall_commit_move hread
        rintro model ⟨⟩
        rw [offersOf, hrow] at hshort
        exact hshort
  | commit hpoint =>
      rename_i model record
      have hmodel := hread a.1 model hpoint
      refine ⟨order ++ [a.1], horder.snoc ?_ trivial, ?_, ?_⟩
      · rw [hpoint]
        exact id
      · rw [List.length_append, List.length_singleton]
        cases hrow : p.server.rows.get? calls.sessionId with
        | some row =>
            rw [Points.server_move, offersOf_commit hrow, List.length_append,
              List.length_singleton]
            omega
        | none =>
            have hnone : offersOf { rows := p.server.rows.modify calls.sessionId fun row ↦
                { row with offers := model.offers ++ [calls.offer a.1] } } calls.sessionId = [] := by
              rw [offersOf, Dict.get?_modify, if_pos rfl, hrow]
              rfl
            rw [Points.server_move, hnone, List.length_nil]
            omega
      · refine forall_commit_move (fun j model' hj ↦ ?_) fun _ h ↦ by cases h
        have hlt := hread j model' hj
        rw [List.length_append, List.length_singleton]
        omega

/-- The calls before their statements. -/
def begun (κ : Type u) (store : SqlAlchemySessionStore) : State κ where
  server := store
  points _ := .select

omit [DecidableEq κ] in
theorem Tidy.begun (calls : OfferCalls κ) (store : SqlAlchemySessionStore) :
    calls.Tidy (store.offersOf calls.sessionId) (begun κ store) where
  stored := ⟨[], ⟨List.nodup_nil, fun _ ↦ iff_of_false List.not_mem_nil id⟩,
    (List.append_nil _).symm⟩
  read _ _ h := nomatch h

/-- Some calls of `add_offer` to one session.  In every run of their transactions, the stored
list is the one from before followed by the offer of each call that has returned a record,
once each, exactly when no transaction committed over offers that it had not read. -/
theorem stored_iff (calls : OfferCalls κ) {store : SqlAlchemySessionStore} {as : List (κ × Unit)}
    {x : ProgPool κ Unit SqlAlchemySessionStore (Option SessionRecord)}
    (h : Run (Step.graph ProgPool.issue)
      { server := store, progs := fun i ↦ addOfferTx calls.sessionId (calls.offer i) } as x) :
    ∃ p, x = calls.outline.pool p ∧
      (calls.Stored (store.offersOf calls.sessionId) p ↔
        Run (Step.Only calls.Fresh (Step.graph calls.outline.step)) (begun κ store) as p) := by
  obtain ⟨p, hrun, rfl⟩ := calls.outline.run_pool.mp
    (show Run _ (calls.outline.pool (begun κ store)) as x from h)
  refine ⟨p, rfl, ?_, ?_⟩
  · intro hstored
    exact hrun.only_of_doomed (I := calls.Tidy _) (D := calls.Deficient _) (P := calls.Stored _)
      (fun _ _ _ h hfresh hstep ↦ h.step hfresh hstep)
      (fun _ _ _ h hstale hstep ↦ h.deficient hstale hstep) (fun _ _ _ h hstep ↦ h.step hstep)
      (fun _ h ↦ h.not_stored) (.begun calls store) hstored
  · intro hfresh
    have htidy := hfresh.invariant (P := calls.Tidy _)
      (fun _ _ _ h hstep ↦ h.step hstep.1 hstep.2) (.begun calls store)
    exact htidy.stored

/-- Two providers that offer at the same time. -/
def sample : OfferCalls Bool where
  sessionId := ⟨100⟩
  offer i := [("offer_id", .str (if i then "second" else "first"))]

/-- Both transactions read the session before either commits: both calls return a record, and
the session has one offer. -/
theorem offer_lost :
    let store : SqlAlchemySessionStore := (SqlAlchemySessionStore.create {} sampleSession).1
    ∃ x : ProgPool Bool Unit SqlAlchemySessionStore (Option SessionRecord),
      Run (Step.graph ProgPool.issue)
        { server := store, progs := fun i ↦ addOfferTx sample.sessionId (sample.offer i) }
        [(false, ()), (true, ()), (false, ()), (true, ())] x ∧
      x.progs false = .pure (some { sampleSession with offers := [sample.offer false] }) ∧
      x.progs true = .pure (some { sampleSession with offers := [sample.offer true] }) ∧
      x.server.offersOf sample.sessionId = [sample.offer true] :=
  ⟨_, Run.graph_iff.mpr rfl, rfl, rfl, rfl⟩

/-- One transaction after the other. -/
theorem stored_sample :
    let store : SqlAlchemySessionStore := (SqlAlchemySessionStore.create {} sampleSession).1
    ∃ x, ∃ p, x = sample.outline.pool p ∧
      (sample.Stored (store.offersOf sample.sessionId) p ↔
        Run (Step.Only sample.Fresh (Step.graph sample.outline.step)) (begun Bool store)
          [(false, ()), (false, ()), (true, ()), (true, ())] p) :=
  ⟨_, stored_iff sample (Run.graph_iff.mpr rfl)⟩

end OfferCalls

end SemanticBus
