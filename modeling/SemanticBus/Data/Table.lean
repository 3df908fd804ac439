import Mathlib.Data.List.Nodup

/-!
# Tables with a primary key

The rows of a table are in the order of insertion, and no two have the same key.  A row is
added with a proof that its key is new, and changed in ways that keep its key, so that every
table has its constraint built in.
-/

universe u v

namespace SemanticBus

structure Table (α : Type u) {κ : Type v} (key : α → κ) where
  rows : List α
  nodup : (rows.map key).Nodup

namespace Table

variable {α : Type u} {κ : Type v} {key : α → κ} {t : Table α key} {k : κ} {a b : α} {f : α → α}

instance : EmptyCollection (Table α key) where
  emptyCollection := { rows := [], nodup := List.nodup_nil }

def add (t : Table α key) (a : α) (h : key a ∉ t.rows.map key) : Table α key where
  rows := t.rows ++ [a]
  nodup := by
    rw [List.map_append]
    exact t.nodup.append (List.nodup_singleton _) (List.disjoint_singleton.mpr h)

@[simp] theorem mem_add {h : key a ∉ t.rows.map key} :
    b ∈ (t.add a h).rows ↔ b = a ∨ b ∈ t.rows := by
  rw [add, List.mem_append, List.mem_singleton, or_comm]

def filter (t : Table α key) (p : α → Bool) : Table α key where
  rows := t.rows.filter p
  nodup := t.nodup.sublist (List.filter_sublist.map _)

/-- Change the rows, but not their keys. -/
def map (t : Table α key) (f : α → α) (hf : ∀ a, key (f a) = key a) : Table α key where
  rows := t.rows.map f
  nodup := by
    have hkeys : (t.rows.map f).map key = t.rows.map key := by
      rw [List.map_map]
      exact List.map_congr_left fun a _ ↦ hf a
    rw [hkeys]
    exact t.nodup

theorem eq_of_key (ha : a ∈ t.rows) (hb : b ∈ t.rows) (h : key a = key b) : a = b :=
  List.inj_on_of_nodup_map t.nodup ha hb h

variable [DecidableEq κ]

def find (t : Table α key) (k : κ) : Option α := t.rows.find? (key · = k)

theorem find_eq_some_iff : t.find k = some a ↔ a ∈ t.rows ∧ key a = k := by
  have hfound : ∀ b, t.find k = some b → b ∈ t.rows ∧ key b = k := by
    intro b h
    have hkey := List.find?_some (p := (key · = k)) h
    exact ⟨List.mem_of_find?_eq_some h, of_decide_eq_true hkey⟩
  refine ⟨hfound a, fun ⟨ha, hkey⟩ ↦ ?_⟩
  cases h : t.find k with
  | none => exact absurd (decide_eq_true hkey) (List.find?_eq_none.mp h a ha)
  | some b =>
      obtain ⟨hb, hkeyb⟩ := hfound b h
      rw [eq_of_key hb ha (hkeyb.trans hkey.symm)]

theorem find_eq_none_iff : t.find k = none ↔ k ∉ t.rows.map key := by
  rw [find, List.find?_eq_none, List.mem_map]
  constructor
  · rintro h ⟨a, ha, hkey⟩
    exact h a ha (decide_eq_true hkey)
  · intro h a ha hkey
    exact h ⟨a, ha, of_decide_eq_true hkey⟩

def update (t : Table α key) (k : κ) (f : α → α) (hf : ∀ a, key (f a) = key a) :
    Table α key :=
  t.map (fun a ↦ if key a = k then f a else a) fun a ↦ by
    show key (if key a = k then f a else a) = key a
    split
    · exact hf a
    · rfl

theorem mem_update {hf : ∀ a, key (f a) = key a} : b ∈ (t.update k f hf).rows ↔
    b ∈ t.rows ∧ key b ≠ k ∨ ∃ a ∈ t.rows, key a = k ∧ b = f a := by
  rw [update, map, List.mem_map]
  constructor
  · rintro ⟨a, ha, rfl⟩
    split
    · rename_i hkey
      exact .inr ⟨a, ha, hkey, rfl⟩
    · rename_i hkey
      exact .inl ⟨ha, hkey⟩
  · rintro (⟨hb, hkey⟩ | ⟨a, ha, hkey, rfl⟩)
    · exact ⟨b, hb, if_neg hkey⟩
    · exact ⟨a, ha, if_pos hkey⟩

end Table

end SemanticBus
