import Mathlib.Data.List.Basic
import Mathlib.Data.Nat.ModEq

/-!
# UUIDs and their text form

A UUID is a 128-bit number.  `str` is the canonical text, 32 lower-case
hexadecimal digits in five groups, and `parse` reads a text back the way the
`uuid.UUID` constructor documents it: curly braces, hyphens and a URN prefix are
optional, and what is left must be 32 hexadecimal digits.

`parse_str` is the round trip.  `colon_notMem_str` is what makes a UUID a safe
component of a colon-separated key.
-/

namespace SemanticBus

structure UUID where
  /-- The identifier as a number. -/
  int : Fin (2 ^ 128)
deriving DecidableEq

namespace UUID

instance neZero_card : NeZero (2 ^ 128) := inferInstance

instance : Inhabited UUID := ⟨⟨0⟩⟩

/-! ## Hexadecimal digits -/

/-- The lower-case digit of a value below 16. -/
def hexChar (n : Nat) : Char := if n < 10 then Char.ofNat (48 + n) else Char.ofNat (87 + n)

/-- The value of a hexadecimal digit, in either case. -/
def hexVal (c : Char) : Option Nat :=
  if '0' ≤ c ∧ c ≤ '9' then some (c.toNat - 48)
  else if 'a' ≤ c ∧ c ≤ 'f' then some (c.toNat - 87)
  else if 'A' ≤ c ∧ c ≤ 'F' then some (c.toNat - 55)
  else none

/-- The last `k` hexadecimal digits of `n`. -/
def hexDigits (n : Nat) : Nat → List Char
  | 0 => []
  | k + 1 => hexDigits (n / 16) k ++ [hexChar (n % 16)]

/-- The number a list of hexadecimal digits denotes. -/
def ofHex (cs : List Char) : Option Nat :=
  cs.foldlM (fun acc c ↦ (hexVal c).map (16 * acc + ·)) 0

theorem hexVal_hexChar : ∀ n < 16, hexVal (hexChar n) = some n := by decide

theorem hexChar_notMem_marks : ∀ n < 16, hexChar n ∉ ['-', ':', 'u', '{', '}'] := by decide

theorem length_hexDigits (n k : Nat) : (hexDigits n k).length = k := by
  induction k generalizing n with
  | zero => rfl
  | succ k ih => simp [hexDigits, ih]

theorem notMem_hexDigits {c : Char} (hc : c ∈ ['-', ':', 'u', '{', '}']) (n k : Nat) :
    c ∉ hexDigits n k := by
  induction k generalizing n with
  | zero => simp [hexDigits]
  | succ k ih =>
      rw [hexDigits, List.mem_append, List.mem_singleton]
      rintro (h | rfl)
      · exact ih _ h
      · exact hexChar_notMem_marks (n % 16) (Nat.mod_lt _ (by decide)) hc

theorem ofHex_hexDigits (n k : Nat) : ofHex (hexDigits n k) = some (n % 16 ^ k) := by
  induction k generalizing n with
  | zero => simp [hexDigits, ofHex, Nat.mod_one]
  | succ k ih =>
      have hstep : 16 * (n / 16 % 16 ^ k) + n % 16 = n % 16 ^ (k + 1) := by
        rw [pow_succ', Nat.mod_mul, add_comm]
      rw [hexDigits, ofHex, List.foldlM_append, ← ofHex, ih]
      simp [hexVal_hexChar (n % 16) (Nat.mod_lt _ (by decide)), hstep]

/-! ## The canonical text -/

/-- Cut a text into groups of the given lengths, separated by hyphens. -/
def hyphenate : List Nat → List Char → List Char
  | [], cs => cs
  | n :: ns, cs => cs.take n ++ '-' :: hyphenate ns (cs.drop n)

theorem mem_hyphenate {ns : List Nat} {cs : List Char} {c : Char} (h : c ∈ hyphenate ns cs) :
    c = '-' ∨ c ∈ cs := by
  induction ns generalizing cs with
  | nil => exact .inr h
  | cons n ns ih =>
      rw [hyphenate, List.mem_append, List.mem_cons] at h
      rcases h with h | rfl | h
      · exact .inr (List.mem_of_mem_take h)
      · exact .inl rfl
      · exact (ih h).imp_right List.mem_of_mem_drop

theorem filter_hyphenate (ns : List Nat) (cs : List Char) :
    (hyphenate ns cs).filter (· ≠ '-') = cs.filter (· ≠ '-') := by
  induction ns generalizing cs with
  | nil => rfl
  | cons n ns ih =>
      rw [hyphenate, List.filter_append, List.filter_cons_of_neg (by simp), ih,
        ← List.filter_append, List.take_append_drop]

def hex (u : UUID) : String := String.ofList (hexDigits u.int 32)

def str (u : UUID) : String := String.ofList (hyphenate [8, 4, 4, 4] (hexDigits u.int 32))

theorem notMem_str (u : UUID) {c : Char} (hc : c ∈ [':', 'u', '{', '}']) :
    c ∉ u.str.toList := by
  rw [str, String.toList_ofList]
  intro h
  rcases mem_hyphenate h with rfl | h
  · exact absurd hc (by decide)
  · exact notMem_hexDigits (List.mem_cons_of_mem _ hc) _ _ h

/-- The text of a UUID contains no colon. -/
theorem colon_notMem_str (u : UUID) : ':' ∉ u.str.toList := u.notMem_str (by decide)

/-! ## Reading a text back -/

/-- Remove every occurrence of `pat`, from the left; the counter skips the rest
of an occurrence. -/
def removeAll (pat : List Char) : Nat → List Char → List Char
  | _, [] => []
  | k + 1, _ :: cs => removeAll pat k cs
  | 0, c :: cs =>
      if pat.isPrefixOf (c :: cs) then removeAll pat (pat.length - 1) cs
      else c :: removeAll pat 0 cs

/-- Remove curly braces from both ends. -/
def stripBraces (cs : List Char) : List Char :=
  ((cs.dropWhile fun c ↦ c = '{' ∨ c = '}').reverse.dropWhile
    fun c ↦ c = '{' ∨ c = '}').reverse

/-- `UUID(text)`: `none` stands for the `ValueError`. -/
def parse (text : String) : Option UUID :=
  let cs := removeAll ['u', 'u', 'i', 'd', ':'] 0 (removeAll ['u', 'r', 'n', ':'] 0 text.toList)
  let cs := (stripBraces cs).filter (· ≠ '-')
  if cs.length ≠ 32 then none
  else (ofHex cs).bind fun n ↦ if h : n < 2 ^ 128 then some ⟨⟨n, h⟩⟩ else none

theorem removeAll_of_notMem {c : Char} {pat cs : List Char} (h : c ∉ cs) :
    removeAll (c :: pat) 0 cs = cs := by
  induction cs with
  | nil => rfl
  | cons b cs ih =>
      rw [List.mem_cons, not_or] at h
      rw [removeAll, if_neg (by simp [List.isPrefixOf, h.1]), ih h.2]

theorem dropWhile_of_notMem {p : Char → Bool} {cs : List Char} (h : ∀ c ∈ cs, p c = false) :
    cs.dropWhile p = cs := by
  cases cs with
  | nil => rfl
  | cons c cs => simp [List.dropWhile, h c (by simp)]

theorem stripBraces_of_notMem {cs : List Char} (h₁ : '{' ∉ cs) (h₂ : '}' ∉ cs) :
    stripBraces cs = cs := by
  have hp : ∀ c ∈ cs, (decide (c = '{' ∨ c = '}')) = false := by
    rintro c hc
    simp only [decide_eq_false_iff_not, not_or]
    exact ⟨fun h ↦ h₁ (h ▸ hc), fun h ↦ h₂ (h ▸ hc)⟩
  rw [stripBraces, dropWhile_of_notMem hp,
    dropWhile_of_notMem fun c hc ↦ hp c (List.mem_reverse.mp hc), List.reverse_reverse]

/-- Reading the canonical text of a UUID gives it back. -/
@[simp] theorem parse_str (u : UUID) : parse u.str = some u := by
  have hu : 'u' ∉ u.str.toList := u.notMem_str (by decide)
  have hdigits : (u.str.toList.filter (· ≠ '-')) = hexDigits u.int 32 := by
    rw [str, String.toList_ofList, filter_hyphenate, List.filter_eq_self]
    intro c hc
    simpa using fun h ↦ notMem_hexDigits (c := '-') (by decide) _ _ (h ▸ hc)
  have hint : u.int.val % 16 ^ 32 = u.int.val := Nat.mod_eq_of_lt u.int.isLt
  rw [parse, removeAll_of_notMem hu, removeAll_of_notMem hu,
    stripBraces_of_notMem (u.notMem_str (by decide)) (u.notMem_str (by decide)), hdigits,
    ofHex_hexDigits, hint]
  simp [length_hexDigits]

theorem str_injective : Function.Injective str := fun u v h ↦
  Option.some.inj (by rw [← parse_str u, ← parse_str v, h])

end UUID

end SemanticBus
