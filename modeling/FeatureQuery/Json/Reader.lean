import FeatureQuery.Json.Basic
import FeatureQuery.Number.Integer

/-!
# Reading JSON

A text holds one value, with blanks, tabs and line ends around every part of it. Each reader of a part
returns the rest of the text with the fact that it is shorter, which is why the readers of nested values
end.

## Main results

* `length_lt_of_readString?`: a string literal takes at least its closing quote.
* `read?_of_gap`: a text of blanks only holds no value.
-/

namespace FeatureQuery.Json

open FeatureQuery.Number (digitsValue)

/-- A text shorter than another. -/
abbrev Shorter (cs : List Char) := { rest : List Char // rest.length < cs.length }

/-- What is shorter than a shorter text. -/
def Shorter.within {cs rest : List Char} (after : Shorter rest) (h : rest.length < cs.length) :
    Shorter cs :=
  ⟨after.1, Nat.lt_trans after.2 h⟩

/-- The text without the blanks that JSON allows between its parts. -/
def skipGap (cs : List Char) : List Char :=
  cs.dropWhile fun c => c == ' ' || c == '\n' || c == '\t' || c == '\r'

/-- Passing over a gap makes no text longer. -/
theorem length_skipGap_le (cs : List Char) : (skipGap cs).length ≤ cs.length :=
  (List.dropWhile_suffix _).length_le

/-- What remains of a text after a gap and one more character is shorter. -/
theorem length_lt_of_skipGap {cs rest : List Char} {c : Char} (h : skipGap cs = c :: rest) :
    rest.length < cs.length := by
  have := length_skipGap_le cs
  rw [h] at this
  exact this

/-! ### Strings -/

/-- A piece of a string literal: a character, or half a surrogate pair. -/
inductive Piece where
  | char (c : Char)
  | half (n : Nat)

/-- The value of a hexadecimal digit. -/
def hexDigit? (c : Char) : Option Nat :=
  if c.isDigit then some (c.toNat - '0'.toNat)
  else if 'a' ≤ c ∧ c ≤ 'f' then some (c.toNat - 'a'.toNat + 10)
  else if 'A' ≤ c ∧ c ≤ 'F' then some (c.toNat - 'A'.toNat + 10)
  else none

/-- The piece of four hexadecimal digits. -/
def hexPiece? (a b c d : Char) : Option Piece := do
  let n := (((← hexDigit? a) * 16 + (← hexDigit? b)) * 16 + (← hexDigit? c)) * 16 + (← hexDigit? d)
  return if 0xD800 ≤ n ∧ n < 0xE000 then .half n else .char (Char.ofNat n)

/-- The character of an escape by a letter. -/
def escape? (c : Char) : Option Char :=
  match c with
  | '"' => some '"'
  | '\\' => some '\\'
  | '/' => some '/'
  | 'b' => some (Char.ofNat 8)
  | 'f' => some (Char.ofNat 12)
  | 'n' => some '\n'
  | 'r' => some '\r'
  | 't' => some '\t'
  | _ => none

/-- The pieces of a string literal after its opening quote, and the text after it. -/
def readString? : List Char → Option (List Piece × List Char)
  | '"' :: rest => some ([], rest)
  | '\\' :: 'u' :: a :: b :: c :: d :: rest => do
    let piece ← hexPiece? a b c d
    let (pieces, rest) ← readString? rest
    return (piece :: pieces, rest)
  | '\\' :: c :: rest => do
    let c ← escape? c
    let (pieces, rest) ← readString? rest
    return (.char c :: pieces, rest)
  | c :: rest =>
    if c.toNat < 0x20 then none
    else do
      let (pieces, rest) ← readString? rest
      return (.char c :: pieces, rest)
  | [] => none

/-- A string literal takes at least its closing quote. -/
theorem length_lt_of_readString? {cs rest : List Char} {pieces : List Piece}
    (h : readString? cs = some (pieces, rest)) : rest.length < cs.length := by
  fun_induction readString? cs generalizing pieces rest with
  | case1 => simp_all
  | case2 a b c d cs ih =>
    simp only [Option.bind_eq_bind, Option.bind_eq_some_iff, Option.pure_def, Option.some.injEq,
      Prod.mk.injEq, Prod.exists] at h
    obtain ⟨_, _, _, _, hr, _, rfl⟩ := h
    have := ih hr
    simp only [List.length_cons]
    omega
  | case3 c cs _ ih =>
    simp only [Option.bind_eq_bind, Option.bind_eq_some_iff, Option.pure_def, Option.some.injEq,
      Prod.mk.injEq, Prod.exists] at h
    obtain ⟨_, _, _, _, hr, _, rfl⟩ := h
    have := ih hr
    simp only [List.length_cons]
    omega
  | case4 => simp at h
  | case5 c cs _ _ _ _ ih =>
    simp only [Option.bind_eq_bind, Option.bind_eq_some_iff, Option.pure_def, Option.some.injEq,
      Prod.mk.injEq, Prod.exists] at h
    obtain ⟨_, _, hr, _, rfl⟩ := h
    have := ih hr
    simp only [List.length_cons]
    omega
  | case6 => simp at h

/-- The text of the pieces of a literal: halves of a surrogate pair denote something together only. -/
def textOf? : List Piece → Option (List Char)
  | [] => some []
  | .char c :: pieces => (textOf? pieces).map (c :: ·)
  | .half high :: .half low :: pieces =>
    if high < 0xDC00 ∧ 0xDC00 ≤ low then
      (textOf? pieces).map (Char.ofNat (0x10000 + (high - 0xD800) * 0x400 + (low - 0xDC00)) :: ·)
    else none
  | .half _ :: _ => none

/-- A string literal after its opening quote. -/
def string? (cs : List Char) : Option (Option String × Shorter cs) :=
  match h : readString? cs with
  | none => none
  | some (pieces, rest) =>
    some ((textOf? pieces).map String.ofList, ⟨rest, length_lt_of_readString? h⟩)

/-! ### Numbers -/

/-- Appends digits to a significand as long as it stays within 64 bits; also the count of digits that
were left out. -/
def extend (significand : Nat) : List Char → Nat × Nat
  | [] => (significand, 0)
  | c :: cs =>
    let next := 10 * significand + (c.toNat - '0'.toNat)
    if next < UInt64.size then extend next cs else (significand, cs.length + 1)

/-- The number of the given sign, digits before and after the point, and exponent. Zero with a sign and
integers beyond 64 bits are not kept as integers. -/
def Number.ofParts (negative : Bool) (whole : List Char) (fraction : Option (List Char))
    (exponent : Option Int) : Number :=
  let (significand, dropped) := extend 0 whole
  match fraction, exponent with
  | none, none =>
    if dropped = 0 ∧ negative = false then .integer significand
    else if dropped = 0 ∧ 0 < significand ∧ Int64.minValue.toInt ≤ -(significand : Int) then
      .integer (-significand)
    else .real negative significand dropped
  | _, _ =>
    let digits := fraction.getD []
    let (significand, droppedAfter) := extend significand digits
    .real negative significand (dropped - (digits.length - droppedAfter : Nat) + exponent.getD 0)

/-- The exponent of a number, if it has one. -/
def readExponent? : List Char → Option (Option Int × List Char)
  | c :: rest =>
    if c = 'e' ∨ c = 'E' then
      let (negative, digits) := match rest with
        | '-' :: rest => (true, rest)
        | '+' :: rest => (false, rest)
        | rest => (false, rest)
      let count := digits.takeWhile Char.isDigit
      if count.isEmpty then none
      else
        let n : Int := digitsValue count
        some (some (if negative then -n else n), digits.dropWhile Char.isDigit)
    else some (none, c :: rest)
  | [] => some (none, [])

/-- The fraction of a number, if it has one. -/
def readFraction? : List Char → Option (Option (List Char) × List Char)
  | '.' :: rest =>
    let digits := rest.takeWhile Char.isDigit
    if digits.isEmpty then none else some (some digits, rest.dropWhile Char.isDigit)
  | cs => some (none, cs)

/-- A number after its sign: digits without a leading zero, a fraction and an exponent. -/
def readUnsigned? (negative : Bool) (cs : List Char) : Option (Number × List Char) := do
  let whole := cs.takeWhile Char.isDigit
  if whole.isEmpty || (whole.head? == some '0' && whole.length != 1) then
    none
  else
    let (fraction, rest) ← readFraction? (cs.dropWhile Char.isDigit)
    let (exponent, rest) ← readExponent? rest
    return (Number.ofParts negative whole fraction exponent, rest)

/-- A number. -/
def readNumber? : List Char → Option (Number × List Char)
  | '-' :: cs => readUnsigned? true cs
  | cs => readUnsigned? false cs

/-! ### Values -/

/-- A literal that starts with a given character, after that character. -/
def word? (word : List Char) (value : Json) (cs : List Char) : Option (Json × List Char) :=
  if word.isPrefixOf cs then some (value, cs.drop word.length) else none

/-- A value that is neither a string, an array nor an object. -/
def scalar? (cs : List Char) : Option (Json × List Char) :=
  match cs with
  | 'n' :: rest => word? ['u', 'l', 'l'] .null rest
  | 't' :: rest => word? ['r', 'u', 'e'] (.bool true) rest
  | 'f' :: rest => word? ['a', 'l', 's', 'e'] (.bool false) rest
  | cs => (readNumber? cs).map fun (n, rest) => (.number n, rest)

mutual

/-- A value at the start of a text, and the rest of the text. -/
def value? (cs : List Char) : Option (Json × Shorter cs) :=
  match h : skipGap cs with
  | [] => none
  | '"' :: rest =>
    have inner := length_lt_of_skipGap h
    (string? rest).map fun (s, after) => (.string s, after.within inner)
  | '[' :: rest =>
    have inner := length_lt_of_skipGap h
    match hr : skipGap rest with
    | ']' :: after => some (.array [], Shorter.within ⟨after, length_lt_of_skipGap hr⟩ inner)
    | _ => (items? rest).map fun (items, after) => (.array items, after.within inner)
  | '\x7b' :: rest =>
    have inner := length_lt_of_skipGap h
    match hr : skipGap rest with
    | '\x7d' :: after => some (.object [], Shorter.within ⟨after, length_lt_of_skipGap hr⟩ inner)
    | _ => (fields? rest).map fun (fields, after) => (.object fields, after.within inner)
  | start =>
    match scalar? start with
    | none => none
    | some (value, after) =>
      if shorter : after.length < cs.length then some (value, ⟨after, shorter⟩) else none
termination_by (cs.length, 0)
decreasing_by all_goals exact Prod.Lex.left _ _ inner

/-- The items of an array from the first one on, and the text after the closing bracket. -/
def items? (cs : List Char) : Option (List Json × Shorter cs) :=
  match value? cs with
  | none => none
  | some (item, rest) =>
    match h : skipGap rest.1 with
    | ']' :: after => some ([item], Shorter.within ⟨after, length_lt_of_skipGap h⟩ rest.2)
    | ',' :: next =>
      have inner := Nat.lt_trans (length_lt_of_skipGap h) rest.2
      (items? next).map fun (items, after) => (item :: items, after.within inner)
    | _ => none
termination_by (cs.length, 1)
decreasing_by
  · exact Prod.Lex.right _ (by decide)
  · exact Prod.Lex.left _ _ inner

/-- The fields of an object from the first one on, and the text after the closing brace. -/
def fields? (cs : List Char) : Option (List (Option String × Json) × Shorter cs) :=
  match h : skipGap cs with
  | '"' :: start =>
    match string? start with
    | none => none
    | some (name, afterName) =>
      match hc : skipGap afterName.1 with
      | ':' :: beforeValue =>
        have inValue := Nat.lt_trans (length_lt_of_skipGap hc)
          (Nat.lt_trans afterName.2 (length_lt_of_skipGap h))
        match value? beforeValue with
        | none => none
        | some (value, afterValue) =>
          match he : skipGap afterValue.1 with
          | '\x7d' :: after =>
            some ([(name, value)],
              Shorter.within ⟨after, length_lt_of_skipGap he⟩ (Nat.lt_trans afterValue.2 inValue))
          | ',' :: next =>
            have inner := Nat.lt_trans (length_lt_of_skipGap he) (Nat.lt_trans afterValue.2 inValue)
            (fields? next).map fun (fields, after) => ((name, value) :: fields, after.within inner)
          | _ => none
      | _ => none
  | _ => none
termination_by (cs.length, 1)
decreasing_by
  · exact Prod.Lex.left _ _ inValue
  · exact Prod.Lex.left _ _ inner

end

/-- Reads a text that holds one value. -/
def read? (s : String) : Option Json :=
  match value? s.toList with
  | some (value, rest) => if (skipGap rest.1).isEmpty then some value else none
  | none => none

/-- A text of blanks only holds no value. -/
theorem read?_of_gap {s : String} (h : skipGap s.toList = []) : read? s = none := by
  have hvalue : value? s.toList = none := by
    rw [value?]
    split
    · rfl
    · next heq => exact absurd (h.symm.trans heq) nofun
    · next heq => exact absurd (h.symm.trans heq) nofun
    · next heq => exact absurd (h.symm.trans heq) nofun
    · next hne _ _ _ => exact absurd h hne
  rw [read?, hvalue]

end FeatureQuery.Json
