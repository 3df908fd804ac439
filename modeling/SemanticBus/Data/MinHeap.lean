import Mathlib.Algebra.Order.Group.Multiset
import Mathlib.Data.List.Sort
import Mathlib.Data.Multiset.Basic

/-!
# Min-heaps, up to the choice among ties

`MinHeap η key` says that `η` is a correct min-heap whose elements are compared
by `key`: a push adds one element, a pop removes one whose key is least.  Which
of several elements with the least key a pop returns is left open, as it is for
a binary heap, so whatever is proved here holds for every such choice.

`popOrder` lists the elements in the order in which repeated pops return them.
A loop that only pops is a recursion over that list, and this is how the
scanning loops built on a heap are reasoned about.
-/

universe u v w

namespace SemanticBus

/-- `η` implements a min-heap of elements compared by `key`. -/
class MinHeap (η : Type u) {α : outParam (Type v)} {κ : outParam (Type w)} [LE κ]
    (key : outParam (α → κ)) where
  /-- The empty heap. -/
  nil : η
  /-- Add an element. -/
  push : η → α → η
  /-- Remove an element of least key. -/
  pop : η → Option (α × η)
  /-- The elements, with multiplicity. -/
  items : η → Multiset α
  items_nil : items nil = 0
  items_push : ∀ h a, items (push h a) = a ::ₘ items h
  items_of_pop_none : ∀ {h}, pop h = none → items h = 0
  items_of_pop : ∀ {h a h'}, pop h = some (a, h') → items h = a ::ₘ items h'
  key_le_of_pop : ∀ {h a h'}, pop h = some (a, h') → ∀ b ∈ items h', key a ≤ key b

attribute [simp] MinHeap.items_nil MinHeap.items_push

namespace MinHeap

variable {η : Type u} {α : Type v} {κ : Type w} [LE κ] {key : α → κ} [MinHeap η key]

def size (h : η) : Nat := Multiset.card (items h)

/-- Push a list of elements, first one first. -/
def pushAll (h : η) (as : List α) : η := as.foldl push h

@[simp] theorem items_pushAll (h : η) (as : List α) : items (pushAll h as) = as + items h := by
  induction as generalizing h with
  | nil => simp [pushAll]
  | cons a as ih =>
      have := ih (push h a)
      rw [pushAll] at this ⊢
      rw [List.foldl_cons, this, items_push, ← Multiset.cons_coe, Multiset.cons_add,
        Multiset.add_cons]

theorem size_of_pop {h h' : η} {a : α} (hp : pop h = some (a, h')) : size h = size h' + 1 := by
  rw [size, size, items_of_pop hp, Multiset.card_cons]

/-! ## The order of repeated pops -/

/-- The elements that `n` pops return, in order. -/
def popN : Nat → η → List α
  | 0, _ => []
  | n + 1, h =>
      match pop h with
      | none => []
      | some (a, h') => a :: popN n h'

/-- The elements of a heap in the order in which pops return them. -/
def popOrder (h : η) : List α := popN (size h) h

theorem popOrder_of_pop_none {h : η} (hp : pop h = none) : popOrder h = [] := by
  unfold popOrder
  cases size h with
  | zero => rfl
  | succ n => simp [popN, hp]

theorem popOrder_of_pop {h h' : η} {a : α} (hp : pop h = some (a, h')) :
    popOrder h = a :: popOrder h' := by
  rw [popOrder, size_of_pop hp, popN, hp]
  rfl

/-- Induction along the pops of a heap. -/
theorem pop_induction {P : η → Prop} (none : ∀ h, pop h = none → P h)
    (some : ∀ h a h', pop h = some (a, h') → P h' → P h) (h : η) : P h := by
  induction hn : size h generalizing h with
  | zero =>
      cases hp : pop h with
      | none => exact none h hp
      | some r => exact absurd (size_of_pop hp) (by omega)
  | succ n ih =>
      cases hp : pop h with
      | none => exact none h hp
      | some r => exact some h r.1 r.2 hp (ih r.2 (by have := size_of_pop hp; omega))

/-- Popping everything returns the elements of the heap. -/
theorem coe_popOrder (h : η) : (popOrder h : Multiset α) = items h := by
  induction h using pop_induction with
  | none h hp => rw [popOrder_of_pop_none hp, items_of_pop_none hp]; rfl
  | some h a h' hp ih => rw [popOrder_of_pop hp, ← Multiset.cons_coe, ih, items_of_pop hp]

@[simp] theorem mem_popOrder {h : η} {a : α} : a ∈ popOrder h ↔ a ∈ items h := by
  rw [← coe_popOrder, Multiset.mem_coe]

/-- Pops return keys in increasing order. -/
theorem pairwise_popOrder (h : η) : (popOrder h).Pairwise fun a b ↦ key a ≤ key b := by
  induction h using pop_induction with
  | none h hp => simp [popOrder_of_pop_none hp]
  | some h a h' hp ih =>
      rw [popOrder_of_pop hp, List.pairwise_cons]
      exact ⟨fun b hb ↦ key_le_of_pop hp b (mem_popOrder.mp hb), ih⟩

end MinHeap

/-! ## An implementation

A list kept in key order is a min-heap that breaks ties by age, the oldest
element first. -/

/-- A list in key order. -/
structure SortedList {α : Type v} {κ : Type w} [LE κ] (key : α → κ) where
  /-- The elements, least key first. -/
  list : List α
  /-- Keys increase along the list. -/
  sorted : list.Pairwise fun a b ↦ key a ≤ key b

namespace SortedList

variable {α : Type v} {κ : Type w} [LinearOrder κ] {key : α → κ}

/-- Insert after the elements whose key is at most that of `a`. -/
def insertAfter (key : α → κ) (a : α) : List α → List α
  | [] => [a]
  | b :: l => if key b ≤ key a then b :: insertAfter key a l else a :: b :: l

theorem coe_insertAfter (key : α → κ) (a : α) (l : List α) :
    (insertAfter key a l : Multiset α) = a ::ₘ (l : Multiset α) := by
  induction l with
  | nil => rfl
  | cons b l ih =>
      unfold insertAfter
      split
      · rw [← Multiset.cons_coe, ih, Multiset.cons_swap, Multiset.cons_coe]
      · rfl

theorem pairwise_insertAfter (a : α) {l : List α} (h : l.Pairwise fun a b ↦ key a ≤ key b) :
    (insertAfter key a l).Pairwise fun a b ↦ key a ≤ key b := by
  induction l with
  | nil => simp [insertAfter]
  | cons b l ih =>
      obtain ⟨hb, hl⟩ := List.pairwise_cons.mp h
      unfold insertAfter
      split
      · rename_i hle
        refine List.pairwise_cons.mpr ⟨fun c hc ↦ ?_, ih hl⟩
        have hmem : c ∈ a ::ₘ (l : Multiset α) := by
          rw [← coe_insertAfter key, Multiset.mem_coe]; exact hc
        rcases Multiset.mem_cons.mp hmem with rfl | hc
        · exact hle
        · exact hb c (Multiset.mem_coe.mp hc)
      · rename_i hlt
        have hab : key a ≤ key b := le_of_lt (not_le.mp hlt)
        refine List.pairwise_cons.mpr ⟨fun c hc ↦ ?_, h⟩
        rcases List.mem_cons.mp hc with rfl | hc
        · exact hab
        · exact le_trans hab (hb c hc)

instance : MinHeap (SortedList key) key where
  nil := ⟨[], List.Pairwise.nil⟩
  push h a := ⟨insertAfter key a h.list, pairwise_insertAfter a h.sorted⟩
  pop
    | ⟨[], _⟩ => none
    | ⟨a :: l, h⟩ => some (a, ⟨l, (List.pairwise_cons.mp h).2⟩)
  items h := h.list
  items_nil := rfl
  items_push h a := coe_insertAfter key a h.list
  items_of_pop_none := by
    rintro ⟨_ | _, _⟩ h
    · rfl
    · cases h
  items_of_pop := by
    rintro ⟨_ | ⟨b, l⟩, hs⟩ a h' h
    · cases h
    · cases h; rfl
  key_le_of_pop := by
    rintro ⟨_ | ⟨b, l⟩, hs⟩ a h' h
    · cases h
    · cases h; exact (List.pairwise_cons.mp hs).1

end SortedList

end SemanticBus
