import Mathlib.Data.Finset.Card
import Mathlib.Data.List.Nodup
import Mathlib.Data.List.Perm.Basic

/-!
# Insertion-ordered dictionaries

A `Dict κ ν` is a finite map that remembers the order in which its keys were
first inserted, the contract of a Python `dict`: overwriting a key keeps its
position, a new key goes to the end, and iteration runs in that order.  No key
occurs twice, and the structure carries the proof.

Lookups are the extensional content; everything below states what an operation
does to `get?`, and the order only shows in `entries`.
-/

universe u v w

namespace SemanticBus

/-- A finite map with insertion order. -/
structure Dict (κ : Type u) (ν : Type v) where
  /-- The items, oldest key first. -/
  entries : List (κ × ν)
  /-- No key occurs twice. -/
  nodup : (entries.map Prod.fst).Nodup

namespace Dict

variable {κ : Type u} {ν : Type v} {ν' : Type w}

/-- The empty dictionary. -/
def empty : Dict κ ν := ⟨[], List.nodup_nil⟩

instance : EmptyCollection (Dict κ ν) := ⟨empty⟩

instance : Inhabited (Dict κ ν) := ⟨empty⟩

/-- The keys, oldest first. -/
def keys (d : Dict κ ν) : List κ := d.entries.map Prod.fst

/-- The values, in key order. -/
def values (d : Dict κ ν) : List ν := d.entries.map Prod.snd

def size (d : Dict κ ν) : Nat := d.entries.length

/-- Rewrite every value in place. -/
def map (f : κ → ν → ν') (d : Dict κ ν) : Dict κ ν' where
  entries := d.entries.map fun e ↦ (e.1, f e.1 e.2)
  nodup := by simpa [Function.comp_def] using d.nodup

section Lookup

variable [DecidableEq κ]

/-- Whether a loop over the items that stops at the first value without `p` gets past `k`. -/
def reaches (p : ν → Prop) [DecidablePred p] (d : Dict κ ν) (k : κ) : Bool :=
  (d.entries.takeWhile fun e ↦ p e.2).any fun e ↦ e.1 = k

/-- The value stored under `k`. -/
def get? (d : Dict κ ν) (k : κ) : Option ν :=
  (d.entries.find? fun e ↦ e.1 = k).map Prod.snd

def contains (d : Dict κ ν) (k : κ) : Bool := (d.get? k).isSome

def erase (d : Dict κ ν) (k : κ) : Dict κ ν where
  entries := d.entries.filter fun e ↦ e.1 ≠ k
  nodup := d.nodup.sublist (List.filter_sublist.map _)

/-- Set `k` to `v`: in place when `k` is a key, at the end otherwise. -/
def insert (d : Dict κ ν) (k : κ) (v : ν) : Dict κ ν :=
  if h : k ∈ d.keys then
    { entries := d.entries.map fun e ↦ if e.1 = k then (k, v) else e
      nodup := by
        have hfst : (d.entries.map fun e ↦ if e.1 = k then (k, v) else e).map Prod.fst
            = d.entries.map Prod.fst := by
          rw [List.map_map]
          refine List.map_congr_left fun e _ ↦ ?_
          by_cases he : e.1 = k <;> simp [he]
        rw [hfst]
        exact d.nodup }
  else
    { entries := d.entries ++ [(k, v)]
      nodup := by
        rw [List.map_append, List.map_singleton, ← List.concat_eq_append]
        exact List.Nodup.concat h d.nodup }

/-- Apply `f` to the value under `k`, if there is one. -/
def modify (d : Dict κ ν) (k : κ) (f : ν → ν) : Dict κ ν :=
  match d.get? k with
  | none => d
  | some v => d.insert k (f v)

/-- The dictionary with the given items; the last item of a key counts. -/
def ofList (items : List (κ × ν)) : Dict κ ν := items.foldl (fun d e ↦ d.insert e.1 e.2) ∅

/-! ## Lookup and membership -/

@[simp] theorem get?_empty (k : κ) : (∅ : Dict κ ν).get? k = none := rfl

theorem mem_entries_of_get? {d : Dict κ ν} {k : κ} {v : ν} (h : d.get? k = some v) :
    (k, v) ∈ d.entries := by
  obtain ⟨e, he, rfl⟩ := Option.map_eq_some_iff.mp h
  have hk : e.1 = k := by simpa using List.find?_some he
  exact hk ▸ List.mem_of_find?_eq_some he

theorem get?_of_mem_entries {d : Dict κ ν} {k : κ} {v : ν} (h : (k, v) ∈ d.entries) :
    d.get? k = some v := by
  obtain ⟨e, he⟩ : ∃ e, d.entries.find? (fun e ↦ e.1 = k) = some e := by
    rw [← Option.isSome_iff_exists, List.find?_isSome]
    exact ⟨(k, v), h, by simp⟩
  have hk : e.1 = k := by simpa using List.find?_some he
  have : e = (k, v) :=
    List.inj_on_of_nodup_map d.nodup (List.mem_of_find?_eq_some he) h hk
  simp [get?, he, this]

/-- An item is stored exactly when looking its key up finds it. -/
theorem mem_entries_iff {d : Dict κ ν} {k : κ} {v : ν} :
    (k, v) ∈ d.entries ↔ d.get? k = some v :=
  ⟨get?_of_mem_entries, mem_entries_of_get?⟩

theorem mem_keys_iff {d : Dict κ ν} {k : κ} : k ∈ d.keys ↔ ∃ v, d.get? k = some v := by
  simp only [keys, List.mem_map, Prod.exists, exists_and_right, exists_eq_right, mem_entries_iff]

theorem mem_values_iff {d : Dict κ ν} {v : ν} : v ∈ d.values ↔ ∃ k, d.get? k = some v := by
  simp only [values, List.mem_map, Prod.exists, exists_eq_right, mem_entries_iff]

theorem notMem_keys_iff {d : Dict κ ν} {k : κ} : k ∉ d.keys ↔ d.get? k = none := by
  rw [mem_keys_iff, not_exists, Option.eq_none_iff_forall_ne_some]

theorem contains_iff {d : Dict κ ν} {k : κ} : d.contains k = true ↔ ∃ v, d.get? k = some v :=
  Option.isSome_iff_exists

/-! ## What the operations do to lookups -/

theorem get?_insert_self (d : Dict κ ν) (k : κ) (v : ν) : (d.insert k v).get? k = some v := by
  refine get?_of_mem_entries ?_
  unfold insert
  split
  · rename_i h
    obtain ⟨e, he, hk⟩ := List.mem_map.mp h
    exact List.mem_map.mpr ⟨e, he, by simp [hk]⟩
  · simp

theorem get?_insert_of_ne (d : Dict κ ν) {k j : κ} (v : ν) (h : j ≠ k) :
    (d.insert k v).get? j = d.get? j := by
  have key : ∀ u, (j, u) ∈ (d.insert k v).entries ↔ (j, u) ∈ d.entries := by
    intro u
    unfold insert
    split
    · simp only [List.mem_map]
      constructor
      · rintro ⟨e, he, heq⟩
        by_cases hk : e.1 = k
        · rw [if_pos hk] at heq
          exact absurd (congrArg Prod.fst heq).symm h
        · rw [if_neg hk] at heq
          exact heq ▸ he
      · intro hu
        exact ⟨(j, u), hu, if_neg h⟩
    · simp [h]
  exact Option.ext fun u ↦ by rw [← mem_entries_iff, ← mem_entries_iff, key u]

theorem get?_insert (d : Dict κ ν) (k j : κ) (v : ν) :
    (d.insert k v).get? j = if j = k then some v else d.get? j := by
  split
  · rename_i h
    rw [h, get?_insert_self]
  · rename_i h
    exact get?_insert_of_ne d v h

theorem get?_erase (d : Dict κ ν) (k j : κ) :
    (d.erase k).get? j = if j = k then none else d.get? j := by
  refine Option.ext fun u ↦ ?_
  rw [← mem_entries_iff]
  split
  · rename_i h
    simp [erase, h]
  · rename_i h
    rw [← mem_entries_iff]
    simp [erase, h]

@[simp] theorem get?_erase_self (d : Dict κ ν) (k : κ) : (d.erase k).get? k = none := by
  rw [get?_erase, if_pos rfl]

/-- Removing what is not there. -/
theorem erase_of_get?_none {d : Dict κ ν} {k : κ} (h : d.get? k = none) : d.erase k = d := by
  have hentries : d.entries.filter (fun e ↦ e.1 ≠ k) = d.entries := by
    refine List.filter_eq_self.mpr fun e he ↦ decide_eq_true ?_
    rintro rfl
    cases h.symm.trans (get?_of_mem_entries he)
  cases d
  simp only [erase, hentries]

/-- Removing several keys. -/
theorem get?_foldl_erase (ks : List κ) (d : Dict κ ν) (j : κ) :
    (ks.foldl erase d).get? j = if j ∈ ks then none else d.get? j := by
  induction ks generalizing d with
  | nil => rfl
  | cons k ks ih =>
      rw [List.foldl_cons, ih, get?_erase]
      by_cases hj : j ∈ ks
      · rw [if_pos hj, if_pos (List.mem_cons_of_mem k hj)]
      · rw [if_neg hj]
        by_cases hk : j = k
        · rw [if_pos hk, if_pos (hk ▸ List.mem_cons_self)]
        · rw [if_neg hk, if_neg (List.not_mem_cons_of_ne_of_not_mem hk hj)]

theorem get?_map (f : κ → ν → ν') (d : Dict κ ν) (k : κ) :
    (d.map f).get? k = (d.get? k).map (f k) := by
  refine Option.ext fun u ↦ ?_
  rw [← mem_entries_iff, Option.map_eq_some_iff]
  simp only [map, List.mem_map, Prod.mk.injEq, Prod.exists]
  constructor
  · rintro ⟨j, v, hm, rfl, rfl⟩
    exact ⟨v, mem_entries_iff.mp hm, rfl⟩
  · rintro ⟨v, hv, rfl⟩
    exact ⟨k, v, mem_entries_iff.mpr hv, rfl, rfl⟩

/-- The loop gets past `k` when the value of `k` and those before have `p`. -/
theorem reaches_iff {p : ν → Prop} [DecidablePred p] {d : Dict κ ν} {k : κ} {v : ν}
    (h : d.get? k = some v) :
    d.reaches p k = true ↔ (∀ e ∈ d.entries.takeWhile fun e ↦ e.1 ≠ k, p e.2) ∧ p v := by
  obtain ⟨items, hnodup⟩ := d
  simp only [reaches, get?] at h ⊢
  clear hnodup
  induction items with
  | nil => cases h
  | cons e items ih =>
      by_cases hk : e.1 = k
      · rw [List.find?_cons_of_pos (by simpa using hk), Option.map_some] at h
        obtain rfl := Option.some.inj h
        by_cases hp : p e.2
        · simp [hk, hp]
        · simp [hk, hp]
      · rw [List.find?_cons_of_neg (by simpa using hk)] at h
        have ih := ih h
        by_cases hp : p e.2
        · simpa [List.takeWhile_cons, hk, hp] using ih
        · simp [hk, hp]

/-- The loop gets past every key when all values have `p`. -/
theorem reaches_of_forall {p : ν → Prop} [DecidablePred p] {d : Dict κ ν} {k : κ} {v : ν}
    (hall : ∀ j u, d.get? j = some u → p u) (h : d.get? k = some v) : d.reaches p k = true := by
  refine (reaches_iff h).mpr ⟨fun e he ↦ ?_, hall k v h⟩
  exact hall e.1 e.2 (get?_of_mem_entries (List.takeWhile_subset _ he))

theorem get?_modify (d : Dict κ ν) (k j : κ) (f : ν → ν) :
    (d.modify k f).get? j = if j = k then (d.get? k).map f else d.get? j := by
  unfold modify
  cases hk : d.get? k with
  | none =>
      by_cases h : j = k
      · simp [h, hk]
      · simp [h]
  | some v => simp [get?_insert]

theorem get?_ofList_concat (items : List (κ × ν)) (e : κ × ν) (k : κ) :
    (ofList (items ++ [e])).get? k = if k = e.1 then some e.2 else (ofList items).get? k := by
  rw [ofList, List.foldl_append]
  exact get?_insert _ _ _ _

theorem mem_of_get?_ofList {items : List (κ × ν)} {k : κ} {v : ν}
    (h : (ofList items).get? k = some v) : (k, v) ∈ items := by
  induction items using List.reverseRecOn with
  | nil => cases h
  | append_singleton items e ih =>
      rw [get?_ofList_concat] at h
      split at h
      · rename_i hk
        cases h
        rw [hk]
        exact List.mem_append_right items (List.mem_singleton_self e)
      · exact List.mem_append_left _ (ih h)

theorem exists_get?_ofList {items : List (κ × ν)} {k : κ} {v : ν} (h : (k, v) ∈ items) :
    ∃ u, (ofList items).get? k = some u := by
  induction items using List.reverseRecOn with
  | nil => cases h
  | append_singleton items e ih =>
      rw [get?_ofList_concat]
      split
      · exact ⟨e.2, rfl⟩
      · rename_i hk
        rcases List.mem_append.mp h with hmem | hmem
        · exact ih hmem
        · exact absurd (congrArg Prod.fst (List.mem_singleton.mp hmem)) hk

/-- A dictionary built from items has keys exactly when there are items. -/
theorem keys_ofList_eq_nil {items : List (κ × ν)} : (ofList items).keys = [] ↔ items = [] := by
  constructor
  · intro h
    rcases List.eq_nil_or_concat items with rfl | ⟨init, e, rfl⟩
    · rfl
    · have hlast : (ofList (init ++ [e])).get? e.1 = some e.2 := by
        rw [ofList, List.foldl_append]
        exact get?_insert_self _ _ _
      have hmem : e.1 ∈ (ofList (init ++ [e])).keys := mem_keys_iff.mpr ⟨e.2, hlast⟩
      rw [← List.concat_eq_append, h] at hmem
      cases hmem
  · rintro rfl
    rfl

/-! ## The order of the items -/

/-- A new key goes to the end. -/
theorem entries_insert_of_get?_none {d : Dict κ ν} {k : κ} (v : ν) (h : d.get? k = none) :
    (d.insert k v).entries = d.entries ++ [(k, v)] := by
  rw [insert, dif_neg (notMem_keys_iff.mpr h)]

/-- A key that is there keeps its position. -/
theorem entries_insert_of_get?_some {d : Dict κ ν} {k : κ} {u : ν} (v : ν)
    (h : d.get? k = some u) :
    (d.insert k v).entries = d.entries.map fun e ↦ if e.1 = k then (k, v) else e := by
  rw [insert, dif_pos (mem_keys_iff.mpr ⟨u, h⟩)]

/-! ## Sizes -/

omit [DecidableEq κ] in
@[simp] theorem size_empty : (∅ : Dict κ ν).size = 0 := rfl

theorem size_insert_of_get?_none {d : Dict κ ν} {k : κ} (v : ν) (h : d.get? k = none) :
    (d.insert k v).size = d.size + 1 := by
  rw [size, entries_insert_of_get?_none v h]
  exact List.length_append

theorem size_erase_lt {d : Dict κ ν} {k : κ} {v : ν} (h : d.get? k = some v) :
    (d.erase k).size < d.size := by
  refine List.length_filter_lt_length_iff_exists.mpr ?_
  exact ⟨(k, v), mem_entries_of_get? h, fun hk ↦ of_decide_eq_true hk rfl⟩

/-- What is erased is one of the entries. -/
theorem perm_erase {d : Dict κ ν} {k : κ} {v : ν} (h : d.get? k = some v) :
    d.entries.Perm ((k, v) :: (d.erase k).entries) := by
  have hnodup : d.entries.Nodup := d.nodup.of_map _
  have hnot : (k, v) ∉ (d.erase k).entries := by
    intro hmem
    exact of_decide_eq_true (List.mem_filter.mp hmem).2 rfl
  refine (List.perm_ext_iff_of_nodup hnodup
    (List.nodup_cons.mpr ⟨hnot, hnodup.sublist List.filter_sublist⟩)).mpr fun e ↦ ?_
  rw [List.mem_cons, erase, List.mem_filter]
  constructor
  · intro he
    by_cases hk : e.1 = k
    · refine .inl (Prod.ext hk ?_)
      have hget := get?_of_mem_entries (show (k, e.2) ∈ d.entries from hk ▸ he)
      exact Option.some.inj (hget.symm.trans h)
    · exact .inr ⟨he, decide_eq_true hk⟩
  · rintro (rfl | ⟨he, -⟩)
    · exact mem_entries_of_get? h
    · exact he

/-- Counting the values is counting the keys. -/
theorem countP_values (d : Dict κ ν) (p : ν → Bool) :
    d.values.countP p = (d.keys.toFinset.filter fun k ↦ (d.get? k).any p).card := by
  have hnodup : (d.keys.filter fun k ↦ (d.get? k).any p).Nodup := List.Nodup.filter _ d.nodup
  rw [← List.toFinset_filter, List.toFinset_card_of_nodup hnodup, ← List.countP_eq_length_filter,
    values, keys, List.countP_map, List.countP_map]
  refine List.countP_congr fun e he ↦ ?_
  show p e.2 = true ↔ (d.get? e.1).any p = true
  rw [get?_of_mem_entries he, Option.any_some]

/-- Two dictionaries with the same keys have the same size. -/
theorem size_eq_of_keys {d : Dict κ ν} {d' : Dict κ ν'}
    (h : ∀ k, (∃ v, d.get? k = some v) ↔ ∃ v, d'.get? k = some v) : d.size = d'.size := by
  have hperm : d.keys.Perm d'.keys :=
    (List.perm_ext_iff_of_nodup d.nodup d'.nodup).mpr fun k ↦ by
      rw [← keys, ← keys, mem_keys_iff, mem_keys_iff]; exact h k
  simpa [keys, size] using hperm.length_eq

/-- A dictionary with more keys is at least as large. -/
theorem size_le_of_keys {d : Dict κ ν} {d' : Dict κ ν'}
    (h : ∀ k v, d.get? k = some v → ∃ v', d'.get? k = some v') : d.size ≤ d'.size := by
  have hsub : d.keys ⊆ d'.keys := by
    intro k hk
    obtain ⟨v, hv⟩ := mem_keys_iff.mp hk
    exact mem_keys_iff.mpr (h k v hv)
  have hle := (List.subperm_of_subset d.nodup hsub).length_le
  simpa [keys, size] using hle

end Lookup

end Dict

end SemanticBus
