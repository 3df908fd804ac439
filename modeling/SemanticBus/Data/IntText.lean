import Mathlib.Data.List.Basic

/-!
# Integers as decimal texts

`intText` is `str(n)`.  `readInt` reads a text the way `int` documents it, for texts in
ASCII: a sign, white space around the number and single underscores between its digits are
allowed.  `natOfDigits` reads the digits of a JSON number, which has no leading zeros.
Both read back what `intText` writes.
-/

namespace SemanticBus

def intText : Int → List Char
  | .ofNat n => Nat.toDigits 10 n
  | .negSucc n => '-' :: Nat.toDigits 10 (n + 1)

/-! ## Digits -/

theorem isDigit_of_mem_toDigits {n : Nat} {c : Char} (h : c ∈ Nat.toDigits 10 n) :
    c.isDigit = true := Nat.isDigit_of_mem_toDigits (by decide) (by decide) h

/-- A number that begins with a zero is zero. -/
theorem head_toDigits {n : Nat} {cs : List Char} (h : Nat.toDigits 10 n = '0' :: cs) : n = 0 := by
  induction n using Nat.strongRecOn generalizing cs with
  | ind n ih =>
      by_cases hn : n < 10
      · rw [Nat.toDigits_of_lt_base hn] at h
        exact Nat.digitChar_eq_zero.mp (List.cons.inj h).1
      · have hten : 10 ≤ n := Nat.le_of_not_lt hn
        rw [Nat.toDigits_of_base_le (by decide) hten] at h
        obtain ⟨c, ds, hds⟩ := List.exists_cons_of_ne_nil
          (Nat.toDigits_ne_nil (n := n / 10) (b := 10))
        rw [hds, List.cons_append] at h
        obtain ⟨rfl, -⟩ := List.cons.inj h
        have hzero := ih (n / 10) (by omega) hds
        omega

/-- The number that some digits denote, without leading zeros. -/
def natOfDigits (cs : List Char) : Option Nat :=
  if cs ≠ [] ∧ cs.all Char.isDigit = true ∧ (cs.head? = some '0' → cs = ['0']) then
    some (Nat.ofDigitChars 10 cs 0)
  else none

theorem natOfDigits_toDigits (n : Nat) : natOfDigits (Nat.toDigits 10 n) = some n := by
  rw [natOfDigits, if_pos, Nat.ofDigitChars_ten_toDigits]
  refine ⟨Nat.toDigits_ne_nil, List.all_eq_true.mpr fun c hc ↦ isDigit_of_mem_toDigits hc, ?_⟩
  intro hhead
  obtain ⟨cs, hcs⟩ := List.head?_eq_some_iff.mp hhead
  rw [head_toDigits hcs, Nat.toDigits_zero]

/-! ## Reading a text -/

def isSpace (c : Char) : Bool := c ∈ [' ', '\t', '\n', '\r', '\x0b', '\x0c']

def stripSpace (cs : List Char) : List Char :=
  ((cs.dropWhile isSpace).reverse.dropWhile isSpace).reverse

/-- Digits with single underscores between them, without these. -/
def plainDigits : List Char → Option (List Char)
  | [] => none
  | [c] => if c.isDigit then some [c] else none
  | c :: '_' :: cs => if c.isDigit then (plainDigits cs).map (c :: ·) else none
  | c :: cs => if c.isDigit then (plainDigits cs).map (c :: ·) else none

def readNat (cs : List Char) : Option Nat := (plainDigits cs).map fun ds ↦ Nat.ofDigitChars 10 ds 0

/-- `int(text)`: `none` stands for the `ValueError`. -/
def readInt (text : String) : Option Int :=
  match stripSpace text.toList with
  | '-' :: cs => (readNat cs).map fun (n : Nat) ↦ -(n : Int)
  | '+' :: cs => (readNat cs).map fun (n : Nat) ↦ (n : Int)
  | cs => (readNat cs).map fun (n : Nat) ↦ (n : Int)

theorem plainDigits_of_digits {cs : List Char} (hne : cs ≠ [])
    (h : ∀ c ∈ cs, c.isDigit = true) : plainDigits cs = some cs := by
  induction cs with
  | nil => exact absurd rfl hne
  | cons c cs ih =>
      obtain ⟨hc, hcs⟩ := List.forall_mem_cons.mp h
      cases cs with
      | nil => rw [plainDigits, if_pos hc]
      | cons d ds =>
          have hd : d ≠ '_' := by
            rintro rfl
            exact absurd (hcs '_' List.mem_cons_self) (by decide)
          rw [plainDigits, if_pos hc, ih (List.cons_ne_nil d ds) hcs, Option.map_some]
          · simp
          · rintro cs h
            exact hd (List.cons.inj h).1

theorem readNat_toDigits (n : Nat) : readNat (Nat.toDigits 10 n) = some n := by
  rw [readNat, plainDigits_of_digits Nat.toDigits_ne_nil fun c hc ↦ isDigit_of_mem_toDigits hc,
    Option.map_some, Nat.ofDigitChars_ten_toDigits]

theorem stripSpace_of_notMem {cs : List Char} (h : ∀ c ∈ cs, isSpace c = false) :
    stripSpace cs = cs := by
  have hdrop : ∀ {cs : List Char}, (∀ c ∈ cs, isSpace c = false) → cs.dropWhile isSpace = cs := by
    intro cs h
    cases cs with
    | nil => rfl
    | cons c cs => rw [List.dropWhile_cons, h c List.mem_cons_self, if_neg Bool.false_ne_true]
  rw [stripSpace, hdrop h, hdrop fun c hc ↦ h c (List.mem_reverse.mp hc), List.reverse_reverse]

theorem isSpace_of_isDigit {c : Char} (h : c.isDigit = true) : isSpace c = false := by
  cases hspace : isSpace c with
  | false => rfl
  | true =>
      have hmem : c ∈ [' ', '\t', '\n', '\r', '\x0b', '\x0c'] := of_decide_eq_true hspace
      have hnone : ∀ c ∈ [' ', '\t', '\n', '\r', '\x0b', '\x0c'], c.isDigit = false := by simp
      rw [hnone c hmem] at h
      cases h

/-- `int(str(n))` is `n`. -/
theorem readInt_intText (n : Int) : readInt (String.ofList (intText n)) = some n := by
  cases n with
  | ofNat n =>
      have hdigits : ∀ c ∈ Nat.toDigits 10 n, c.isDigit = true :=
        fun c hc ↦ isDigit_of_mem_toDigits hc
      rw [readInt, String.toList_ofList, intText,
        stripSpace_of_notMem fun c hc ↦ isSpace_of_isDigit (hdigits c hc)]
      split
      · rename_i cs hcs
        exact absurd (hdigits '-' (hcs ▸ List.mem_cons_self)) (by decide)
      · rename_i cs hcs
        exact absurd (hdigits '+' (hcs ▸ List.mem_cons_self)) (by decide)
      · rw [readNat_toDigits]
        rfl
  | negSucc n =>
      have hspace : ∀ c ∈ '-' :: Nat.toDigits 10 (n + 1), isSpace c = false := by
        refine List.forall_mem_cons.mpr ⟨by decide, fun c hc ↦ ?_⟩
        exact isSpace_of_isDigit (isDigit_of_mem_toDigits hc)
      rw [readInt, String.toList_ofList, intText, stripSpace_of_notMem hspace]
      show (readNat (Nat.toDigits 10 (n + 1))).map (fun (m : Nat) ↦ -(m : Int)) = _
      rw [readNat_toDigits]
      rfl

end SemanticBus
