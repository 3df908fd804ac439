import Mathlib.Data.Rat.Defs

/-!
# JSON values as the interpreter sees them

A decoded JSON document, with the dynamic tests that Python code applies to a
value whose type nobody checked: whether it is truthy, whether it may be a
dictionary key, whether it is a list of strings.  An object lists the items of
the decoded dictionary, whose keys are distinct; a float is its exact value.
-/

namespace SemanticBus

inductive Json where
  | null
  | bool (b : Bool)
  | int (n : Int)
  | float (q : ℚ)
  | str (s : String)
  | arr (elems : List Json)
  | obj (fields : List (String × Json))
deriving Inhabited

abbrev JsonObj := List (String × Json)

namespace Json

def truthy : Json → Bool
  | null => false
  | bool b => b
  | int n => n ≠ 0
  | float q => q ≠ 0
  | str s => s ≠ ""
  | arr elems => !elems.isEmpty
  | obj fields => !fields.isEmpty

/-- Whether the value may be used as a dictionary key: lists and dictionaries
raise a `TypeError`. -/
def hashable : Json → Bool
  | arr _ | obj _ => false
  | _ => true

def str? : Json → Option String
  | str s => some s
  | _ => none

def int? : Json → Option Int
  | int n => some n
  | _ => none

def strList? : Json → Option (List String)
  | arr elems => elems.mapM str?
  | _ => none

def obj? : Json → Option JsonObj
  | obj fields => some fields
  | _ => none

/-- `value or default`. -/
def orElse (j default : Json) : Json := if j.truthy then j else default

/-- A string, or `null` when there is none. -/
def ofStr? : Option String → Json
  | none => null
  | some s => str s

def ofStrs (ss : List String) : Json := arr (ss.map str)

def dicts? : Json → Option (List (String × JsonObj))
  | obj fields => fields.mapM fun e ↦ e.2.obj?.map (e.1, ·)
  | _ => none

/-- The value as a number, when it is one; a boolean counts as 0 or 1. -/
def num? : Json → Option ℚ
  | bool b => some (if b then 1 else 0)
  | int n => some n
  | float q => some q
  | _ => none

mutual

/-- `left == right`: numbers by value, dictionaries whatever their order. -/
def eq : Json → Json → Bool
  | str s, str t => s = t
  | arr xs, arr ys => eqElems xs ys
  | obj xs, obj ys => xs.length = ys.length && eqFields xs ys
  | null, null => true
  | left, right => left.num?.isSome && left.num? = right.num?

/-- Two lists of equal elements. -/
def eqElems : List Json → List Json → Bool
  | [], [] => true
  | x :: xs, y :: ys => eq x y && eqElems xs ys
  | _, _ => false

/-- The fields of the first object are fields of the second, with equal values. -/
def eqFields : List (String × Json) → List (String × Json) → Bool
  | [], _ => true
  | (k, x) :: xs, ys => (match ys.lookup k with
      | some y => eq x y
      | none => false) && eqFields xs ys

end

mutual

/-- Whether no dictionary in the value has a key twice. -/
def wellFormed : Json → Bool
  | arr elems => wellFormedElems elems
  | obj fields => decide (fields.map Prod.fst).Nodup && wellFormedFields fields
  | _ => true

/-- Whether all items of a list are well formed. -/
def wellFormedElems : List Json → Bool
  | [] => true
  | x :: xs => wellFormed x && wellFormedElems xs

/-- Whether all values of some fields are well formed. -/
def wellFormedFields : List (String × Json) → Bool
  | [] => true
  | (_, x) :: fields => wellFormed x && wellFormedFields fields

end

/-- `item in container`; `none` stands for the `TypeError`. -/
def contains (container item : Json) : Option Bool :=
  match container, item with
  | arr elems, _ => some (elems.any (·.eq item))
  | obj fields, str s => some (fields.lookup s).isSome
  | obj _, _ => if item.hashable then some false else none
  | str text, str s => some (text.toList.tails.any s.toList.isPrefixOf)
  | _, _ => none

/-- What `for item in value` iterates over; `none` stands for the `TypeError`. -/
def items? : Json → Option (List Json)
  | arr elems => some elems
  | obj fields => some (fields.map fun e ↦ str e.1)
  | str s => some (s.toList.map fun c ↦ str c.toString)
  | _ => none

end Json

/-- The exceptions that checked code raises, by class. -/
inductive PyError where
  | validationError
  | typeError
  | attributeError
  | valueError
  | queueFullError
  | runtimeError
  | overflowError
deriving DecidableEq, Repr

namespace JsonObj

def get? (o : JsonObj) (key : String) : Option Json := o.lookup key

/-- `payload.get(key, default)`. -/
def getD (o : JsonObj) (key : String) (default : Json) : Json := (o.lookup key).getD default

/-- `payload.get(key)`, a missing key reading as `None`. -/
def get (o : JsonObj) (key : String) : Json := o.getD key .null

def set (o : JsonObj) (key : String) (value : Json) : JsonObj :=
  if (o.lookup key).isSome then o.map fun e ↦ if e.1 = key then (key, value) else e
  else o ++ [(key, value)]

/-- The dictionary of some pairs; the last value of a key counts. -/
def ofPairs (pairs : List (String × Json)) : JsonObj := pairs.foldl (fun o e ↦ o.set e.1 e.2) []

theorem lookup_cons (k : String) (v : Json) (o : JsonObj) (j : String) :
    List.lookup j ((k, v) :: o) = if j = k then some v else o.lookup j := by
  rw [List.lookup_cons]
  by_cases hj : j = k
  · rw [if_pos hj, beq_iff_eq.mpr hj]
  · rw [if_neg hj, beq_eq_false_iff_ne.mpr hj]

/-- An overwritten key has its new value. -/
theorem lookup_map_if (o : JsonObj) (key : String) (value : Json) (j : String) :
    (o.map fun e ↦ if e.1 = key then (key, value) else e).lookup j =
      if j = key then (o.lookup key).map fun _ ↦ value else o.lookup j := by
  induction o with
  | nil => rw [List.map_nil, List.lookup_nil, List.lookup_nil, Option.map_none, ite_self]
  | cons e o ih =>
      obtain ⟨k, v⟩ := e
      rw [List.map_cons, lookup_cons, lookup_cons]
      by_cases hk : k = key
      · rw [if_pos hk, lookup_cons, ih, if_pos hk.symm, Option.map_some, hk]
        by_cases hj : j = key
        · rw [if_pos hj, if_pos hj]
        · rw [if_neg hj, if_neg hj, if_neg hj, if_neg hj]
      · rw [if_neg hk, lookup_cons, ih, if_neg (Ne.symm hk)]
        by_cases hj : j = key
        · rw [if_pos hj, if_pos hj, if_neg (hj ▸ Ne.symm hk)]
        · rw [if_neg hj, if_neg hj]

theorem lookup_set (o : JsonObj) (key : String) (value : Json) (j : String) :
    (o.set key value).lookup j = if j = key then some value else o.lookup j := by
  rw [set]
  split
  · rename_i hkey
    obtain ⟨old, hold⟩ := Option.isSome_iff_exists.mp hkey
    rw [lookup_map_if, hold, Option.map_some]
  · rename_i hkey
    rw [List.lookup_append, lookup_cons, List.lookup_nil]
    by_cases hj : j = key
    · rw [hj, Option.not_isSome_iff_eq_none.mp hkey, if_pos rfl, Option.none_or]
    · rw [if_neg hj, if_neg hj, Option.or_none]

theorem lookup_eq_none {o : JsonObj} {key : String} (h : key ∉ o.map Prod.fst) :
    o.lookup key = none := by
  rw [List.lookup_eq_none_iff]
  intro e he
  rw [bne_iff_ne]
  rintro rfl
  exact h (List.mem_map_of_mem he)

/-- Among distinct keys, an item is found under its key. -/
theorem lookup_of_mem {o : JsonObj} (hnodup : (o.map Prod.fst).Nodup) {e : String × Json}
    (h : e ∈ o) : o.lookup e.1 = some e.2 := by
  induction o with
  | nil => cases h
  | cons e' o ih =>
      obtain ⟨k, v⟩ := e'
      rw [List.map_cons, List.nodup_cons] at hnodup
      rw [lookup_cons]
      rcases List.mem_cons.mp h with rfl | hmem
      · exact if_pos rfl
      · have hne : e.1 ≠ k := by
          rintro rfl
          exact hnodup.1 (List.mem_map.mpr ⟨e, hmem, rfl⟩)
        rw [if_neg hne, ih hnodup.2 hmem]

/-- Pairs with new keys go to the end. -/
theorem foldl_set_of_nodup {o : JsonObj} {pairs : List (String × Json)}
    (h : ((o ++ pairs).map Prod.fst).Nodup) :
    pairs.foldl (fun o e ↦ o.set e.1 e.2) o = o ++ pairs := by
  induction pairs generalizing o with
  | nil => rw [List.foldl_nil, List.append_nil]
  | cons e pairs ih =>
      have hset : o.set e.1 e.2 = o ++ [e] := by
        have hnot : e.1 ∉ o.map Prod.fst := by
          rw [List.map_append, List.map_cons, List.nodup_append] at h
          intro hmem
          exact h.2.2 e.1 hmem e.1 List.mem_cons_self rfl
        rw [set, lookup_eq_none hnot, if_neg (by decide)]
      rw [List.append_cons] at h
      rw [List.foldl_cons, hset, ih h, List.append_assoc, List.singleton_append]

/-- Items with distinct keys are the items of their dictionary. -/
theorem ofPairs_of_nodup {pairs : List (String × Json)} (h : (pairs.map Prod.fst).Nodup) :
    ofPairs pairs = pairs := foldl_set_of_nodup h

end JsonObj

end SemanticBus
