import SemanticBus.Data.Redis

/-!
# Families of keys on one server

A server has one space of keys, and a client builds its keys from ids and texts and writes its
values in some form.  `Family key write d t` says that the keys `key k` of the server `t` hold
what `d` does, written by `write`; commands on a key of the family keep this so, and commands
on other keys do not touch it.
-/

universe u u' v v'

namespace SemanticBus.Expiring

variable {κ : Type u} {ν : Type v} {κ' : Type u'} {ν' : Type v'} [DecidableEq κ] [DecidableEq κ']

/-- The keys `key k` of a server hold what is written of `d`. -/
def Family (key : κ → κ') (write : ν → ν') (d : Expiring κ ν) (t : Expiring κ' ν') : Prop :=
  ∀ k, t.get? (key k) = (d.get? k).map (Prod.map write id)

/-- Nothing but a key differs. -/
def Elsewhere (k : κ) (d d' : Expiring κ ν) : Prop := ∀ j, j ≠ k → Dict.get? d' j = Dict.get? d j

section

variable {d : Expiring κ ν} {k : κ} {now : Time}

theorem elsewhere_write (v : ν) (expiry : Option Time) : Elsewhere k d (d.write k v expiry) :=
  fun _ hj ↦ Dict.get?_insert_of_ne d _ hj

theorem elsewhere_change (f : Option ν → ν) : Elsewhere k d (d.change now k f) := by
  intro j hj
  rw [change]
  split
  · exact elsewhere_write _ _ j hj
  · rw [Dict.get?_modify, if_neg hj]

theorem elsewhere_erase : Elsewhere k d (Dict.erase d k) := by
  intro j hj
  rw [Dict.get?_erase, if_neg hj]

theorem elsewhere_expire (seconds : Int) : Elsewhere k d (d.expire now k seconds) := by
  rw [expire]
  split
  · exact elsewhere_erase
  · split
    · exact fun _ _ ↦ rfl
    · exact elsewhere_write _ _

end

namespace Family

variable {key : κ → κ'} {write : ν → ν'} {d d' : Expiring κ ν} {t t' : Expiring κ' ν'} {k : κ}
  {now : Time}

theorem empty : Family key write ∅ ∅ := fun _ ↦ rfl

/-- What is read of a key. -/
theorem read_eq (h : Family key write d t) (now : Time) (k : κ) :
    t.read now (key k) = (d.read now k).map write := by
  rw [read, read, h]
  cases Dict.get? d k with
  | none => rfl
  | some e =>
      rw [Option.map_some, Option.bind_some, Option.bind_some, apply_ite (Option.map write)]
      rfl

/-- A command on a key of no member of the family. -/
theorem elsewhere (h : Family key write d t) {j : κ'} (hj : ∀ k, key k ≠ j)
    (ht : Elsewhere j t t') : Family key write d t' := fun k ↦ (ht _ (hj k)).trans (h k)

/-- A command on a key of the family. -/
theorem at_key (h : Family key write d t) (hinj : Function.Injective key)
    (hd : Elsewhere k d d') (ht : Elsewhere (key k) t t')
    (hk : t'.get? (key k) = (d'.get? k).map (Prod.map write id)) : Family key write d' t' := by
  intro j
  by_cases hj : j = k
  · rw [hj, hk]
  · rw [ht _ (hinj.ne hj), hd j hj, h]

theorem put (h : Family key write d t) (hinj : Function.Injective key) (v : ν)
    (expiry : Option Time) :
    Family key write (d.write k v expiry) (t.write (key k) (write v) expiry) := by
  refine h.at_key hinj (elsewhere_write v expiry) (elsewhere_write _ expiry) ?_
  rw [Expiring.write, Expiring.write, Dict.get?_insert_self, Dict.get?_insert_self]
  rfl

theorem change (h : Family key write d t) (hinj : Function.Injective key)
    {f : Option ν → ν} {f' : Option ν' → ν'} (hf : ∀ o, f' (Option.map write o) = write (f o)) :
    Family key write (d.change now k f) (t.change now (key k) f') := by
  refine h.at_key hinj (elsewhere_change f) (elsewhere_change f') ?_
  rw [Expiring.change, Expiring.change, h.read_eq]
  cases hread : d.read now k with
  | none =>
      have hnone : f' none = write (f none) := hf none
      rw [Option.map_none, Expiring.write, Expiring.write, Dict.get?_insert_self,
        Dict.get?_insert_self, hnone]
      rfl
  | some v =>
      rw [Option.map_some]
      dsimp only
      rw [Dict.get?_modify, if_pos rfl, Dict.get?_modify, if_pos rfl, h, Option.map_map,
        Option.map_map, ← Option.map_some, hf]
      rfl

theorem expire (h : Family key write d t) (hinj : Function.Injective key) (seconds : Int) :
    Family key write (d.expire now k seconds) (t.expire now (key k) seconds) := by
  refine h.at_key hinj (elsewhere_expire seconds) (elsewhere_expire seconds) ?_
  rw [Expiring.expire, Expiring.expire]
  split
  · rw [Dict.get?_erase, Dict.get?_erase, if_pos rfl, if_pos rfl]
    rfl
  · rw [h.read_eq]
    cases hread : d.read now k with
    | none => exact h k
    | some v =>
        rw [Option.map_some]
        dsimp only
        rw [Expiring.write, Expiring.write, Dict.get?_insert_self, Dict.get?_insert_self]
        rfl

end Family

end SemanticBus.Expiring
