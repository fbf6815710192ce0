import FeatureQuery.Number.Integer
import FeatureQuery.Text.Blank
import FeatureQuery.Time.Instant

/-!
# Instants as text

The date and time format of RFC 3339. It is written in universal time with as many groups of three
fraction digits as the instant needs; years outside 0 to 9999 carry a sign.

It is read leniently: number fields may be short and may follow blanks, a sign allows a year of any
length, a `T` or a blank separates the time, any number of fraction digits is read and nine of them count,
and the zone is `Z`, `UTC` or an offset of hours and minutes. Second 60 is the leap second after second 59.

## Main results

* `length_lt_of_readDigits?`: a number field takes a digit at least.
-/

namespace FeatureQuery.Time

open FeatureQuery.Number (digitsValue tenPow)
open FeatureQuery.Text (isBlank trimStart)

/-! ### Writing -/

/-- A number in decimal, filled up with zeros to a width. -/
def padded (width n : Nat) : List Char :=
  let digits := Nat.toDigits 10 n
  List.replicate (width - digits.length) '0' ++ digits

/-- A year: four digits, or a sign and at least four digits. -/
def yearText (year : Int) : List Char :=
  if 0 ≤ year ∧ year ≤ 9999 then padded 4 year.toNat
  else (if year < 0 then '-' else '+') :: padded 4 year.natAbs

/-- The fraction of a second: nothing, or three, six or nine digits. -/
def fraction (nano : Nat) : List Char :=
  if nano = 0 then []
  else if nano % 1000000 = 0 then '.' :: padded 3 (nano / 1000000)
  else if nano % 1000 = 0 then '.' :: padded 6 (nano / 1000)
  else '.' :: padded 9 nano

/-- The date and time of an instant, without a zone. A leap second is second 60 of its minute. -/
def Instant.localText (t : Instant) : List Char :=
  let date := Date.ofDayNumber t.day
  let leap := t.nano / nanosPerSecond
  yearText date.year ++ ['-'] ++ padded 2 date.month ++ ['-'] ++ padded 2 date.day ++ ['T']
    ++ padded 2 (t.second / 3600) ++ [':'] ++ padded 2 (t.second / 60 % 60) ++ [':']
    ++ padded 2 (t.second % 60 + leap) ++ fraction (t.nano % nanosPerSecond)

/-- The text of an instant with the zone written as an offset. -/
def Instant.text (t : Instant) : String :=
  String.ofList (t.localText ++ ['+', '0', '0', ':', '0', '0'])

/-- The text of an instant with the zone written as a letter. -/
def Instant.zuluText (t : Instant) : String :=
  String.ofList (t.localText ++ ['Z'])

/-! ### Reading -/

/-- A number of at least one digit and, where a width is given, at most so many. -/
def readDigits? (width : Option Nat) (cs : List Char) : Option (Nat × List Char) :=
  let digits := match width with
    | some w => (cs.take w).takeWhile Char.isDigit
    | none => cs.takeWhile Char.isDigit
  if digits.isEmpty then none else some (digitsValue digits, cs.drop digits.length)

/-- A number field takes a digit at least. -/
theorem length_lt_of_readDigits? {width : Option Nat} {cs rest : List Char} {n : Nat}
    (h : readDigits? width cs = some (n, rest)) : rest.length < cs.length := by
  have htaken : ∀ digits : List Char, digits.length ≤ cs.length →
      (if digits.isEmpty then none else some (digitsValue digits, cs.drop digits.length)) = some (n, rest) →
      rest.length < cs.length := by
    intro digits hle h
    split at h
    · cases h
    · next hne =>
      obtain ⟨-, rfl⟩ := Prod.mk.inj (Option.some.inj h)
      have hpos : 0 < digits.length := List.length_pos_iff.2 fun hnil => hne (by rw [hnil]; rfl)
      rw [List.length_drop]
      omega
  cases width with
  | none => exact htaken _ (List.takeWhile_prefix _).length_le h
  | some w =>
    exact htaken _ (Nat.le_trans (List.takeWhile_prefix _).length_le (List.take_prefix w cs).length_le) h

/-- A number field of at most two digits, after any blanks. -/
def readField? (cs : List Char) : Option (Nat × List Char) :=
  readDigits? (some 2) (trimStart cs)

/-- A year: with a sign it has any number of digits, without one at most four. -/
def readYear? (cs : List Char) : Option (Int × List Char) :=
  match trimStart cs with
  | '-' :: cs => (readDigits? none cs).map fun (n, rest) => (-(n : Int), rest)
  | '+' :: cs => (readDigits? none cs).map fun (n, rest) => ((n : Int), rest)
  | cs => (readDigits? (some 4) cs).map fun (n, rest) => ((n : Int), rest)

/-- The rest of a text that continues with a mark, after any blanks. -/
def readMark? (mark : Char) (cs : List Char) : Option (List Char) :=
  match trimStart cs with
  | [] => none
  | c :: rest => if c = mark then some rest else none

/-- A fraction of a second, in nanoseconds; digits after the ninth do not count. -/
def readFraction? : List Char → Option (Nat × List Char)
  | '.' :: cs =>
    let digits := cs.takeWhile Char.isDigit
    if digits.isEmpty then none
    else
      let counted := digits.take 9
      some (digitsValue counted * tenPow (9 - counted.length), cs.drop digits.length)
  | cs => some (0, cs)

/-- The mark that separates the date from the time. -/
def readSeparator? : List Char → Option (List Char)
  | c :: rest => if c = 'T' ∨ c = 't' ∨ c = ' ' then some rest else none
  | [] => none

/-- Two digits that stand at the start of a text. -/
def readPair? : List Char → Option (Nat × List Char)
  | a :: b :: rest => if a.isDigit && b.isDigit then some (digitsValue [a, b], rest) else none
  | _ => none

/-- An offset after its sign: two digits of hours and two of minutes, with colons or blanks between. -/
def readOffset? (cs : List Char) : Option (Nat × List Char) := do
  let (hours, rest) ← readPair? cs
  let (minutes, rest) ← readPair? (rest.dropWhile fun c => c == ':' || isBlank c)
  if hours < 24 ∧ minutes < 60 then return (60 * hours + minutes, rest) else none

/-- A zone, in minutes east of Greenwich. The minus sign may be the mathematical one. -/
def readZone? (cs : List Char) : Option (Int × List Char) :=
  if (cs.take 3).map Char.toLower = ['u', 't', 'c'] then
    some (0, cs.drop 3)
  else
    match cs with
    | [] => none
    | c :: rest =>
      if c = 'Z' ∨ c = 'z' then some (0, rest)
      else if c = '+' then (readOffset? rest).map fun (n, rest) => ((n : Int), rest)
      else if c = '-' ∨ c = Char.ofNat 0x2212 then
        (readOffset? rest).map fun (n, rest) => (-(n : Int), rest)
      else none

/-- The second of a minute and its fraction; second 60 continues second 59. -/
def leapSecond? (second nano : Nat) : Option (Nat × Nat) :=
  if second < 60 then some (second, nano)
  else if second = 60 then some (59, nanosPerSecond + nano)
  else none

/-- Reads an instant. The date, as written, and the instant must both be within range. -/
def Instant.read? (cs : List Char) : Option Instant := do
  let (year, cs) ← readYear? cs
  let (month, cs) ← readField? (← readMark? '-' cs)
  let (day, cs) ← readField? (← readMark? '-' cs)
  let (hour, cs) ← readField? (← readSeparator? cs)
  let (minute, cs) ← readField? (← readMark? ':' cs)
  let (second, cs) ← readField? (← readMark? ':' cs)
  let (nano, cs) ← readFraction? cs
  let (zone, cs) ← readZone? (trimStart cs)
  let date ← Instant.midnight? ⟨year, month, day⟩
  let (second, nano) ← leapSecond? second nano
  if (trimStart cs).isEmpty ∧ hour < 24 ∧ minute < 60 then
    Instant.ofZone? date.day (3600 * hour + 60 * minute + second) nano zone
  else
    none

end FeatureQuery.Time
