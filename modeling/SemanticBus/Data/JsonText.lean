import Mathlib.Data.Rat.Lemmas
import SemanticBus.Data.IntText
import SemanticBus.Data.Json
import SemanticBus.Data.Uuid

/-!
# JSON documents as texts

`dumps` is `json.dumps` with its defaults: ASCII output, `", "` between items and `": "`
after a key.  `loads` is `json.loads`: it takes white space between tokens, the last value
of a key counts, and `none` stands for the `JSONDecodeError`.

How a platform writes its floats is the parameter `FloatText`.  Values that JSON itself
does not have, `NaN` and lone surrogates, are not read.

`loads_dumps` is the round trip.  The writer of a list or an object writes what comes after
the first item together with the closing bracket, so that reading back needs no look-ahead,
and a text of length `n` nests at most `n` deep.
-/

namespace SemanticBus

namespace JsonText

/-! ## Strings -/

def escapeUnit (n : Nat) : List Char := '\\' :: 'u' :: UUID.hexDigits n 4

def escape (c : Char) : List Char :=
  if c = '"' then ['\\', '"']
  else if c = '\\' then ['\\', '\\']
  else if c = '\n' then ['\\', 'n']
  else if c = '\r' then ['\\', 'r']
  else if c = '\t' then ['\\', 't']
  else if c = '\x0c' then ['\\', 'f']
  else if c = '\x08' then ['\\', 'b']
  else if ' ' ≤ c ∧ c ≤ '~' then [c]
  else if c.toNat < 0x10000 then escapeUnit c.toNat
  else
    -- a surrogate pair
    escapeUnit (0xd800 + (c.toNat - 0x10000) / 0x400)
      ++ escapeUnit (0xdc00 + (c.toNat - 0x10000) % 0x400)

def writeStr (s : String) : List Char := '"' :: (s.toList.flatMap escape ++ ['"'])

/-- The four hexadecimal digits of `\uXXXX`. -/
def unit (cs : List Char) : Option Nat := if 4 ≤ cs.length then UUID.ofHex (cs.take 4) else none

/-- The character of `\uXXXX`, or of two that form a surrogate pair, and the length of the
escape after the backslash. -/
def unicode (cs : List Char) : Option (Char × Nat) :=
  (unit cs).bind fun n ↦
    if 0xd800 ≤ n ∧ n < 0xdc00 then
      match cs.drop 4 with
      | '\\' :: 'u' :: cs =>
          (unit cs).bind fun m ↦
            if 0xdc00 ≤ m ∧ m < 0xe000 then
              some (Char.ofNat (0x10000 + ((n - 0xd800) * 0x400 + (m - 0xdc00))), 11)
            else none
      | _ => none
    else if 0xdc00 ≤ n ∧ n < 0xe000 then none
    else some (Char.ofNat n, 5)

/-- The character of an escape, and its length after the backslash. -/
def unescape : List Char → Option (Char × Nat)
  | '"' :: _ => some ('"', 1)
  | '\\' :: _ => some ('\\', 1)
  | '/' :: _ => some ('/', 1)
  | 'n' :: _ => some ('\n', 1)
  | 'r' :: _ => some ('\r', 1)
  | 't' :: _ => some ('\t', 1)
  | 'f' :: _ => some ('\x0c', 1)
  | 'b' :: _ => some ('\x08', 1)
  | 'u' :: cs => unicode cs
  | _ => none

/-- The characters of a string up to its closing quote, and what comes after it; the counter
skips the rest of an escape. -/
def chars : Nat → List Char → Option (List Char × List Char)
  | _, [] => none
  | k + 1, _ :: cs => chars k cs
  | 0, c :: cs =>
      if c = '"' then some ([], cs)
      else if c = '\\' then
        match unescape cs with
        | none => none
        | some (d, k) => (chars k cs).map fun r ↦ (d :: r.1, r.2)
      else if c < ' ' then none
      else (chars 0 cs).map fun r ↦ (c :: r.1, r.2)

theorem chars_skip (pre cs : List Char) : chars pre.length (pre ++ cs) = chars 0 cs := by
  induction pre with
  | nil => rfl
  | cons c pre ih => exact ih

theorem unit_hexDigits {n : Nat} (h : n < 0x10000) (cs : List Char) :
    unit (UUID.hexDigits n 4 ++ cs) = some n := by
  have hlen := UUID.length_hexDigits n 4
  rw [unit, if_pos (by rw [List.length_append, hlen]; omega), List.take_left' hlen,
    UUID.ofHex_hexDigits, Nat.mod_eq_of_lt (show n < 16 ^ 4 from h)]

/-- Code points that are no surrogates. -/
theorem toNat_cases (c : Char) : c.toNat < 0xd800 ∨ 0xe000 ≤ c.toNat ∧ c.toNat < 0x110000 := by
  have hvalid := c.valid
  simp only [UInt32.isValidChar, Nat.isValidChar] at hvalid
  show c.val.toNat < _ ∨ _ ≤ c.val.toNat ∧ c.val.toNat < _
  omega

theorem unicode_hexDigits {c : Char} (h : c.toNat < 0x10000) (cs : List Char) :
    unicode (UUID.hexDigits c.toNat 4 ++ cs) = some (c, 5) := by
  have hrange := toNat_cases c
  rw [unicode, unit_hexDigits h, Option.bind_some, if_neg (by omega), if_neg (by omega),
    Char.ofNat_toNat]

/-- A surrogate pair is read back. -/
theorem unicode_pair {c : Char} (h : 0x10000 ≤ c.toNat) (cs : List Char) :
    unicode (UUID.hexDigits (0xd800 + (c.toNat - 0x10000) / 0x400) 4
      ++ '\\' :: 'u' :: (UUID.hexDigits (0xdc00 + (c.toNat - 0x10000) % 0x400) 4 ++ cs))
      = some (c, 11) := by
  have hrange := toNat_cases c
  have hmod : (c.toNat - 0x10000) % 0x400 < 0x400 := Nat.mod_lt _ (by decide)
  have hcode : 0x10000 + ((0xd800 + (c.toNat - 0x10000) / 0x400 - 0xd800) * 0x400
      + (0xdc00 + (c.toNat - 0x10000) % 0x400 - 0xdc00)) = c.toNat := by omega
  rw [unicode, unit_hexDigits (by omega), Option.bind_some, if_pos (by omega),
    List.drop_left' (UUID.length_hexDigits _ 4)]
  show (unit _).bind _ = _
  rw [unit_hexDigits (by omega), Option.bind_some, if_pos (by omega), hcode, Char.ofNat_toNat]

/-- Reading an escape: what comes after it is read on. -/
theorem chars_escaped {c : Char} (pre : List Char) {cs : List Char}
    (h : unescape (pre ++ cs) = some (c, pre.length)) :
    chars 0 ('\\' :: (pre ++ cs)) = (chars 0 cs).map fun r ↦ (c :: r.1, r.2) := by
  rw [chars, if_neg (by decide), if_pos rfl, h]
  show (chars pre.length (pre ++ cs)).map _ = _
  rw [chars_skip]

theorem chars_escape (c : Char) (cs : List Char) :
    chars 0 (escape c ++ cs) = (chars 0 cs).map fun r ↦ (c :: r.1, r.2) := by
  rw [escape]
  split_ifs with hquote hback hn hr ht hf hb hplain hunit
  · exact hquote ▸ chars_escaped ['"'] rfl
  · exact hback ▸ chars_escaped ['\\'] rfl
  · exact hn ▸ chars_escaped ['n'] rfl
  · exact hr ▸ chars_escaped ['r'] rfl
  · exact ht ▸ chars_escaped ['t'] rfl
  · exact hf ▸ chars_escaped ['f'] rfl
  · exact hb ▸ chars_escaped ['b'] rfl
  · show chars 0 (c :: cs) = _
    rw [chars, if_neg hquote, if_neg hback, if_neg (Char.not_lt.mpr hplain.1)]
  · refine chars_escaped ('u' :: UUID.hexDigits c.toNat 4) ?_
    rw [List.length_cons, UUID.length_hexDigits]
    exact unicode_hexDigits hunit cs
  · have hlow := UUID.length_hexDigits (0xdc00 + (c.toNat - 0x10000) % 0x400) 4
    have hhigh := UUID.length_hexDigits (0xd800 + (c.toNat - 0x10000) / 0x400) 4
    refine chars_escaped ('u' :: (UUID.hexDigits (0xd800 + (c.toNat - 0x10000) / 0x400) 4
      ++ escapeUnit (0xdc00 + (c.toNat - 0x10000) % 0x400))) ?_
    rw [List.length_cons, List.length_append, escapeUnit, List.length_cons, List.length_cons, hlow,
      hhigh, List.cons_append, List.append_assoc]
    exact unicode_pair (Nat.le_of_not_lt hunit) cs

/-- A string is read back. -/
theorem chars_flatMap_escape (s rest : List Char) :
    chars 0 (s.flatMap escape ++ ['"'] ++ rest) = some (s, rest) := by
  rw [List.append_assoc, List.singleton_append]
  induction s with
  | nil => rfl
  | cons c s ih => rw [List.flatMap_cons, List.append_assoc, chars_escape, ih, Option.map_some]

/-! ## Numbers -/

def isNumberChar (c : Char) : Bool := c.isDigit || c ∈ ['-', '+', '.', 'e', 'E']

def isFloatMark (c : Char) : Bool := c ∈ ['.', 'e', 'E']

end JsonText

structure FloatText where
  /-- `repr(x)`. -/
  repr : ℚ → List Char
  /-- `float(text)`. -/
  read : List Char → Option ℚ
  numberChars : ∀ q, ∀ c ∈ repr q, JsonText.isNumberChar c = true
  marked : ∀ q, ∃ c ∈ repr q, JsonText.isFloatMark c = true
  read_repr : ∀ q, read (repr q) = some q

namespace JsonText

variable (F : FloatText)

def integer : List Char → Option Int
  | '-' :: cs => (natOfDigits cs).map fun (n : Nat) ↦ -(n : Int)
  | cs => (natOfDigits cs).map fun (n : Nat) ↦ (n : Int)

/-- A number, and what comes after it. -/
def number (cs : List Char) : Option (Json × List Char) :=
  let token := cs.takeWhile isNumberChar
  let value :=
    if token.any isFloatMark then (F.read token).map Json.float
    else (integer token).map Json.int
  value.map (·, cs.dropWhile isNumberChar)

/-- A text that does not go on with a number. -/
def Stops (cs : List Char) : Prop := ∀ c ∈ cs.head?, isNumberChar c = false

theorem Stops.nil : Stops [] := nofun

theorem Stops.cons {c : Char} (h : isNumberChar c = false) (cs : List Char) : Stops (c :: cs) := by
  intro d hd
  cases hd
  exact h

theorem integer_intText (n : Int) : integer (intText n) = some n := by
  cases n with
  | ofNat n =>
      rw [integer, intText, natOfDigits_toDigits]
      · rfl
      · intro cs hcs
        have hmem : '-' ∈ Nat.toDigits 10 n := by
          rw [show Nat.toDigits 10 n = '-' :: cs from hcs]
          exact List.mem_cons_self
        cases isDigit_of_mem_toDigits hmem
  | negSucc n =>
      rw [intText, integer, natOfDigits_toDigits]
      rfl

theorem isNumberChar_intText {n : Int} {c : Char} (h : c ∈ intText n) :
    isNumberChar c = true ∧ isFloatMark c = false := by
  have hdigit : ∀ {c : Char}, c.isDigit = true → isNumberChar c = true ∧ isFloatMark c = false := by
    intro c hc
    refine ⟨by rw [isNumberChar, hc, Bool.true_or], ?_⟩
    have hmarks : ∀ d ∈ ['.', 'e', 'E'], d.isDigit = false := by simp
    cases hmark : isFloatMark c with
    | false => rfl
    | true => cases hc.symm.trans (hmarks c (of_decide_eq_true hmark))
  cases n with
  | ofNat n => exact hdigit (isDigit_of_mem_toDigits h)
  | negSucc n =>
      rcases List.mem_cons.mp h with rfl | h
      · decide
      · exact hdigit (isDigit_of_mem_toDigits h)

/-- The characters of a number are taken, no fewer and no more. -/
theorem number_append {token rest : List Char} (h : ∀ c ∈ token, isNumberChar c = true)
    (hrest : Stops rest) :
    number F (token ++ rest)
      = (if token.any isFloatMark then (F.read token).map Json.float
          else (integer token).map Json.int).map (·, rest) := by
  have htake : rest.takeWhile isNumberChar = [] := by
    cases rest with
    | nil => rfl
    | cons c cs => rw [List.takeWhile_cons, hrest c rfl, if_neg Bool.false_ne_true]
  have hdrop : rest.dropWhile isNumberChar = rest := by
    cases rest with
    | nil => rfl
    | cons c cs => rw [List.dropWhile_cons, hrest c rfl, if_neg Bool.false_ne_true]
  rw [number, List.takeWhile_append_of_pos h, List.dropWhile_append_of_pos h, htake, hdrop,
    List.append_nil]

theorem number_intText (n : Int) {rest : List Char} (hrest : Stops rest) :
    number F (intText n ++ rest) = some (.int n, rest) := by
  have hmark : (intText n).any isFloatMark = false := by
    rw [List.any_eq_false]
    intro c hc
    rw [(isNumberChar_intText hc).2]
    exact Bool.false_ne_true
  rw [number_append F (fun c hc ↦ (isNumberChar_intText hc).1) hrest, hmark,
    if_neg Bool.false_ne_true, integer_intText]
  rfl

theorem number_repr (q : ℚ) {rest : List Char} (hrest : Stops rest) :
    number F (F.repr q ++ rest) = some (.float q, rest) := by
  have hmark : (F.repr q).any isFloatMark = true := List.any_eq_true.mpr (F.marked q)
  rw [number_append F (F.numberChars q) hrest, hmark, if_pos rfl, F.read_repr]
  rfl

/-! ## Writing -/

mutual

def write : Json → List Char
  | .null => ['n', 'u', 'l', 'l']
  | .bool true => ['t', 'r', 'u', 'e']
  | .bool false => ['f', 'a', 'l', 's', 'e']
  | .int n => intText n
  | .float q => F.repr q
  | .str s => writeStr s
  | .arr [] => ['[', ']']
  | .arr (x :: xs) => '[' :: (write x ++ writeElems xs)
  | .obj [] => ['{', '}']
  | .obj ((k, x) :: fields) =>
      '{' :: (writeStr k ++ ':' :: ' ' :: (write x ++ writeFields fields))

/-- What comes after an item of a list. -/
def writeElems : List Json → List Char
  | [] => [']']
  | x :: xs => ',' :: ' ' :: (write x ++ writeElems xs)

/-- What comes after a field of an object. -/
def writeFields : List (String × Json) → List Char
  | [] => ['}']
  | (k, x) :: fields =>
      ',' :: ' ' :: (writeStr k ++ ':' :: ' ' :: (write x ++ writeFields fields))

end

def dumps (j : Json) : String := String.ofList (write F j)

/-! ## Reading -/

def skip (cs : List Char) : List Char := cs.dropWhile fun c ↦ c ∈ [' ', '\t', '\n', '\r']

/-- A literal whose first character is read. -/
def literal (rest : List Char) (j : Json) (cs : List Char) : Option (Json × List Char) :=
  if rest.isPrefixOf cs then some (j, cs.drop rest.length) else none

def key : List Char → Option (String × List Char)
  | '"' :: cs =>
      (chars 0 cs).bind fun r ↦
        match skip r.2 with
        | ':' :: cs => some (String.ofList r.1, skip cs)
        | _ => none
  | _ => none

mutual

/-- A value that nests at most so deep, and what comes after it. -/
def value : Nat → List Char → Option (Json × List Char)
  | 0, _ | _ + 1, [] => none
  | n + 1, c :: cs =>
      if c = '"' then (chars 0 cs).map fun r ↦ (.str (String.ofList r.1), r.2)
      else if c = '[' then
        match skip cs with
        | ']' :: cs => some (.arr [], cs)
        | cs =>
            (value n cs).bind fun x ↦
              (elems n (skip x.2)).map fun r ↦ (.arr (x.1 :: r.1), r.2)
      else if c = '{' then
        match skip cs with
        | '}' :: cs => some (.obj [], cs)
        | cs =>
            (key cs).bind fun k ↦ (value n k.2).bind fun x ↦
              (fields n (skip x.2)).map fun r ↦
                (.obj (JsonObj.ofPairs ((k.1, x.1) :: r.1)), r.2)
      else if c = 'n' then literal ['u', 'l', 'l'] .null cs
      else if c = 't' then literal ['r', 'u', 'e'] (.bool true) cs
      else if c = 'f' then literal ['a', 'l', 's', 'e'] (.bool false) cs
      else number F (c :: cs)

/-- The items after one of a list. -/
def elems : Nat → List Char → Option (List Json × List Char)
  | 0, _ | _ + 1, [] => none
  | n + 1, c :: cs =>
      if c = ']' then some ([], cs)
      else if c = ',' then
        (value n (skip cs)).bind fun x ↦
          (elems n (skip x.2)).map fun r ↦ (x.1 :: r.1, r.2)
      else none

/-- The fields after one of an object. -/
def fields : Nat → List Char → Option (List (String × Json) × List Char)
  | 0, _ | _ + 1, [] => none
  | n + 1, c :: cs =>
      if c = '}' then some ([], cs)
      else if c = ',' then
        (key (skip cs)).bind fun k ↦ (value n k.2).bind fun x ↦
          (fields n (skip x.2)).map fun r ↦ ((k.1, x.1) :: r.1, r.2)
      else none

end

def loads (text : String) : Option Json :=
  (value F text.length (skip text.toList)).bind fun r ↦ if skip r.2 = [] then some r.1 else none

/-! ## Reading what was written -/

def Begins (cs : List Char) : Prop :=
  ∃ c ds, cs = c :: ds ∧ c ∉ [' ', '\t', '\n', '\r', ']', '}']

theorem Begins.append {cs : List Char} (h : Begins cs) (rest : List Char) :
    Begins (cs ++ rest) := by
  obtain ⟨c, ds, rfl, hc⟩ := h
  exact ⟨c, ds ++ rest, rfl, hc⟩

theorem Begins.number {token : List Char} (hne : token ≠ [])
    (h : ∀ c ∈ token, isNumberChar c = true) : Begins token := by
  obtain ⟨c, cs, rfl⟩ := List.exists_cons_of_ne_nil hne
  refine ⟨c, cs, rfl, fun hmem ↦ ?_⟩
  have hnone : ∀ d ∈ [' ', '\t', '\n', '\r', ']', '}'], isNumberChar d = false := by
    simp [isNumberChar]
  cases (h c List.mem_cons_self).symm.trans (hnone c hmem)

theorem intText_ne_nil (n : Int) : intText n ≠ [] := by
  cases n with
  | ofNat n => exact Nat.toDigits_ne_nil
  | negSucc n => exact List.cons_ne_nil _ _

theorem repr_ne_nil (q : ℚ) : F.repr q ≠ [] := by
  obtain ⟨c, hc, -⟩ := F.marked q
  exact List.ne_nil_of_mem hc

theorem begins_write (j : Json) : Begins (write F j) := by
  cases j with
  | null => exact ⟨_, _, rfl, by decide⟩
  | bool b => cases b <;> exact ⟨_, _, rfl, by decide⟩
  | int n => exact Begins.number (intText_ne_nil n) fun c hc ↦ (isNumberChar_intText hc).1
  | float q => exact Begins.number (repr_ne_nil F q) (F.numberChars q)
  | str s => exact ⟨_, _, rfl, by decide⟩
  | arr xs => cases xs <;> exact ⟨_, _, rfl, by decide⟩
  | obj xs => cases xs <;> exact ⟨_, _, rfl, by decide⟩

theorem begins_writeStr (k : String) : Begins (writeStr k) := ⟨_, _, rfl, by decide⟩

/-- No white space is skipped before anything else. -/
theorem skip_cons {c : Char} (h : c ∉ [' ', '\t', '\n', '\r']) (cs : List Char) :
    skip (c :: cs) = c :: cs := by
  rw [skip, List.dropWhile_cons, decide_eq_false h, if_neg Bool.false_ne_true]

theorem skip_of_begins {cs : List Char} (h : Begins cs) : skip cs = cs := by
  obtain ⟨c, ds, rfl, hc⟩ := h
  refine skip_cons (fun hmem ↦ hc ?_) ds
  exact List.mem_append_left [']', '}'] hmem

theorem skip_space (cs : List Char) : skip (' ' :: cs) = skip cs := rfl

theorem key_writeStr (k : String) {rest : List Char} (h : Begins rest) :
    key (writeStr k ++ ':' :: ' ' :: rest) = some (k, rest) := by
  rw [writeStr, List.cons_append, key, chars_flatMap_escape, Option.bind_some,
    skip_cons (by decide)]
  show some (String.ofList k.toList, skip (' ' :: rest)) = _
  rw [skip_space, skip_of_begins h, String.ofList_toList]

theorem stops_writeElems (xs : List Json) (rest : List Char) :
    Stops (writeElems F xs ++ rest) ∧ skip (writeElems F xs ++ rest) = writeElems F xs ++ rest := by
  cases xs with
  | nil => exact ⟨Stops.cons (by decide) _, skip_cons (by decide) _⟩
  | cons x xs => exact ⟨Stops.cons (by decide) _, skip_cons (by decide) _⟩

theorem stops_writeFields (xs : List (String × Json)) (rest : List Char) :
    Stops (writeFields F xs ++ rest)
      ∧ skip (writeFields F xs ++ rest) = writeFields F xs ++ rest := by
  cases xs with
  | nil => exact ⟨Stops.cons (by decide) _, skip_cons (by decide) _⟩
  | cons x xs => exact ⟨Stops.cons (by decide) _, skip_cons (by decide) _⟩

/-- A number is read as one. -/
theorem value_number {token rest : List Char} (n : Nat) (hne : token ≠ [])
    (h : ∀ c ∈ token, isNumberChar c = true) :
    value F (n + 1) (token ++ rest) = number F (token ++ rest) := by
  obtain ⟨c, cs, rfl⟩ := List.exists_cons_of_ne_nil hne
  have hc := h c List.mem_cons_self
  have hother : ∀ d ∈ ['"', '[', '{', 'n', 't', 'f'], c ≠ d := by
    rintro d hd rfl
    have hnone : ∀ d ∈ ['"', '[', '{', 'n', 't', 'f'], isNumberChar d = false := by
      simp [isNumberChar]
    cases hc.symm.trans (hnone c hd)
  rw [List.cons_append, value, if_neg (hother _ (by decide)), if_neg (hother _ (by decide)),
    if_neg (hother _ (by decide)), if_neg (hother _ (by decide)), if_neg (hother _ (by decide)),
    if_neg (hother _ (by decide))]

theorem value_str (s : String) (n : Nat) (rest : List Char) :
    value F (n + 1) (writeStr s ++ rest) = some (.str s, rest) := by
  rw [writeStr, List.cons_append, value, if_pos rfl, chars_flatMap_escape, Option.map_some,
    String.ofList_toList]

/-- The first item of a list, and the others. -/
theorem value_arr {x : Json} {xs : List Json} {n : Nat} {cs ds rest : List Char} (hcs : Begins cs)
    (hx : value F n cs = some (x, ds)) (hxs : elems F n (skip ds) = some (xs, rest)) :
    value F (n + 1) ('[' :: cs) = some (.arr (x :: xs), rest) := by
  rw [value, if_neg (by decide), if_pos rfl, skip_of_begins hcs]
  obtain ⟨c, cs, rfl, hc⟩ := hcs
  split
  · rename_i heq
    cases heq
    exact absurd hc (by decide)
  · rw [hx, Option.bind_some, hxs, Option.map_some]

/-- The first field of an object, and the others. -/
theorem value_obj {k : String} {x : Json} {xs : List (String × Json)} {n : Nat}
    {cs ds es rest : List Char} (hcs : Begins cs) (hk : key cs = some (k, ds))
    (hx : value F n ds = some (x, es)) (hxs : fields F n (skip es) = some (xs, rest)) :
    value F (n + 1) ('{' :: cs) = some (.obj (JsonObj.ofPairs ((k, x) :: xs)), rest) := by
  rw [value, if_neg (by decide), if_neg (by decide), if_pos rfl, skip_of_begins hcs]
  obtain ⟨c, cs, rfl, hc⟩ := hcs
  split
  · rename_i heq
    cases heq
    exact absurd hc (by decide)
  · rw [hk, Option.bind_some, hx, Option.bind_some, hxs, Option.map_some]

mutual

/-- A value that is written is read back, whatever comes after it. -/
theorem value_write : ∀ (j : Json) (n : Nat) (rest : List Char), j.wellFormed = true →
    (write F j).length ≤ n → Stops rest → value F n (write F j ++ rest) = some (j, rest)
  | j, 0, _, _, hlen, _ => by
      obtain ⟨c, cs, hcs, -⟩ := begins_write F j
      rw [hcs] at hlen
      cases hlen
  | .null, n + 1, rest, _, _, _ => rfl
  | .bool true, n + 1, rest, _, _, _ => rfl
  | .bool false, n + 1, rest, _, _, _ => rfl
  | .int i, n + 1, rest, _, _, hrest => by
      rw [write, value_number F n (intText_ne_nil i) fun c hc ↦ (isNumberChar_intText hc).1]
      exact number_intText F i hrest
  | .float q, n + 1, rest, _, _, hrest => by
      rw [write, value_number F n (repr_ne_nil F q) (F.numberChars q)]
      exact number_repr F q hrest
  | .str s, n + 1, rest, _, _, _ => value_str F s n rest
  | .arr [], n + 1, rest, _, _, _ => rfl
  | .arr (x :: xs), n + 1, rest, hwf, hlen, _ => by
      obtain ⟨hx, hxs⟩ := Bool.and_eq_true_iff.mp hwf
      obtain ⟨hstops, hskip⟩ := stops_writeElems F xs rest
      rw [write, List.length_cons, List.length_append] at hlen
      rw [write, List.cons_append, List.append_assoc]
      refine value_arr F ((begins_write F x).append _)
        (value_write x n _ hx (by omega) hstops) ?_
      rw [hskip]
      exact elems_writeElems xs n rest hxs (by omega)
  | .obj [], n + 1, rest, _, _, _ => rfl
  | .obj ((k, x) :: xs), n + 1, rest, hwf, hlen, _ => by
      obtain ⟨hnodup, hwf⟩ := Bool.and_eq_true_iff.mp hwf
      obtain ⟨hx, hxs⟩ := Bool.and_eq_true_iff.mp hwf
      obtain ⟨hstops, hskip⟩ := stops_writeFields F xs rest
      rw [write, List.length_cons, List.length_append, List.length_cons, List.length_cons,
        List.length_append] at hlen
      have hpairs := JsonObj.ofPairs_of_nodup (of_decide_eq_true hnodup)
      rw [write, List.cons_append, List.append_assoc, List.cons_append, List.cons_append,
        List.append_assoc, ← hpairs]
      refine value_obj F ((begins_writeStr k).append _)
        (key_writeStr k ((begins_write F x).append _))
        (value_write x n _ hx (by omega) hstops) ?_
      rw [hskip]
      exact fields_writeFields xs n rest hxs (by omega)

theorem elems_writeElems : ∀ (xs : List Json) (n : Nat) (rest : List Char),
    Json.wellFormedElems xs = true → (writeElems F xs).length ≤ n →
    elems F n (writeElems F xs ++ rest) = some (xs, rest)
  | [], 0, _, _, hlen => by cases hlen
  | _ :: _, 0, _, _, hlen => by cases hlen
  | [], n + 1, rest, _, _ => rfl
  | x :: xs, n + 1, rest, hwf, hlen => by
      obtain ⟨hx, hxs⟩ := Bool.and_eq_true_iff.mp hwf
      obtain ⟨hstops, hskip⟩ := stops_writeElems F xs rest
      rw [writeElems, List.length_cons, List.length_cons, List.length_append] at hlen
      rw [writeElems, List.cons_append, List.cons_append, List.append_assoc, elems,
        if_neg (by decide), if_pos rfl, skip_space,
        skip_of_begins ((begins_write F x).append _),
        value_write x n _ hx (by omega) hstops, Option.bind_some, hskip,
        elems_writeElems xs n rest hxs (by omega), Option.map_some]

theorem fields_writeFields : ∀ (xs : List (String × Json)) (n : Nat) (rest : List Char),
    Json.wellFormedFields xs = true → (writeFields F xs).length ≤ n →
    fields F n (writeFields F xs ++ rest) = some (xs, rest)
  | [], 0, _, _, hlen => by cases hlen
  | _ :: _, 0, _, _, hlen => by cases hlen
  | [], n + 1, rest, _, _ => rfl
  | (k, x) :: xs, n + 1, rest, hwf, hlen => by
      obtain ⟨hx, hxs⟩ := Bool.and_eq_true_iff.mp hwf
      obtain ⟨hstops, hskip⟩ := stops_writeFields F xs rest
      rw [writeFields, List.length_cons, List.length_cons, List.length_append, List.length_cons,
        List.length_cons, List.length_append] at hlen
      rw [writeFields, List.cons_append, List.cons_append, List.append_assoc, List.cons_append,
        List.cons_append, List.append_assoc, fields, if_neg (by decide), if_pos rfl, skip_space,
        skip_of_begins ((begins_writeStr k).append _),
        key_writeStr k ((begins_write F x).append _), Option.bind_some,
        value_write x n _ hx (by omega) hstops, Option.bind_some, hskip,
        fields_writeFields xs n rest hxs (by omega), Option.map_some]

end

/-- `json.loads(json.dumps(value))` is the value. -/
theorem loads_dumps {j : Json} (h : j.wellFormed = true) : loads F (dumps F j) = some j := by
  have hvalue := value_write F j (write F j).length [] h le_rfl Stops.nil
  rw [List.append_nil] at hvalue
  rw [loads, dumps, String.toList_ofList, String.length_ofList, skip_of_begins (begins_write F j),
    hvalue, Option.bind_some]
  rfl

example : loads F "[\x7b\"a\": 1, \"b\": null, \"a\": \"\\u00e9\\ud83d\\ude00\"\x7d ]" =
    some (.arr [.obj [("a", .str "é😀"), ("b", .null)]]) := rfl

example : dumps F (.arr [.int (-2), .str "é\"\x07", .bool true, .obj []]) =
    "[-2, \"\\u00e9\\\"\\u0007\", true, \x7b\x7d]" := rfl

/-- No value is written as the empty text. -/
theorem dumps_ne_empty (j : Json) : dumps F j ≠ "" := by
  obtain ⟨c, cs, hcs, -⟩ := begins_write F j
  rw [dumps, hcs]
  intro h
  cases (String.toList_ofList (l := c :: cs)).symm.trans (congrArg String.toList h)

/-! ## Messages of bytes -/

def encode (j : Json) : ByteArray := (dumps F j).toUTF8

def decode (body : ByteArray) : Option Json := (String.fromUTF8? body).bind (loads F)

theorem decode_encode {j : Json} (h : j.wellFormed = true) : decode F (encode F j) = some j := by
  have hvalid : String.fromUTF8? (dumps F j).toUTF8 = some (dumps F j) :=
    dif_pos (dumps F j).isValidUTF8
  rw [decode, encode, hvalid, Option.bind_some, loads_dumps F h]

/-! ## Whole floats -/

/-- Floats by numerator and denominator: at whole numbers, the texts that every platform
uses. -/
def wholeFloats : FloatText where
  repr q := intText q.num ++ '.' :: Nat.toDigits 10 (q.den - 1)
  read cs :=
    (integer (cs.takeWhile (· ≠ '.'))).bind fun n ↦
      (natOfDigits (cs.dropWhile (· ≠ '.')).tail).map fun (d : Nat) ↦ (n : ℚ) / (d + 1 : Nat)
  numberChars q c hc := by
    rcases List.mem_append.mp hc with hc | hc
    · exact (isNumberChar_intText hc).1
    · rcases List.mem_cons.mp hc with rfl | hc
      · rfl
      · rw [isNumberChar, isDigit_of_mem_toDigits hc, Bool.true_or]
  marked q := ⟨'.', List.mem_append_right _ List.mem_cons_self, by decide⟩
  read_repr q := by
    have hdot : ∀ c ∈ intText q.num, decide (c ≠ '.') = true := by
      intro c hc
      rw [decide_eq_true_iff]
      rintro rfl
      cases (isNumberChar_intText hc).2
    have hden : q.den - 1 + 1 = q.den := Nat.succ_pred q.den_ne_zero
    rw [List.takeWhile_append_of_pos hdot, List.dropWhile_append_of_pos hdot,
      List.takeWhile_cons_of_neg (by decide), List.dropWhile_cons_of_neg (by decide),
      List.append_nil, integer_intText, Option.bind_some, List.tail_cons, natOfDigits_toDigits,
      Option.map_some, hden, Rat.num_div_den]

end JsonText

end SemanticBus
