import FeatureQuery.Caller
import FeatureQuery.Literal
import FeatureQuery.Number.Integer
import FeatureQuery.Text.Digit
import FeatureQuery.Text.Split

/-!
# Reading literals

The text after an operator denotes a range if it holds two dots exactly once, otherwise a list of items
between the commas outside quotes. An item is, in this order, a relative date (`now`, `now-7d`,
`now+2w`), a relative milestone (`current_stable`, `current_stable+1`), a date (`2024-1-31`), or the text
itself. A relative literal beyond the range of instants or integers is a text.

## Main results

* `unquote_quoted`: quotes around a text are taken off.
* `ofRaw_ne_nil`: there is always at least one literal.
* `not_isRange_scalar`: no item is a range.
-/

namespace FeatureQuery.Literal

open FeatureQuery.Number (int64? readNat?)
open FeatureQuery.Text (isDecimalDigit splitDots splitWhere trim)
open FeatureQuery.Time (Instant)

/-! ### Quotes and commas -/

/-- The text between quotes, if it starts and ends with one. -/
def unquote : List Char → List Char
  | '"' :: inner => if inner.getLast? = some '"' then inner.dropLast else '"' :: inner
  | cs => cs

/-- Quotes around a text are taken off. -/
theorem unquote_quoted (cs : List Char) : unquote ('"' :: cs ++ ['"']) = cs := by
  simp [unquote]

/-- The pieces between the commas outside quotes, empty pieces included. -/
def splitCommas (quoted : Bool) : List Char → List (List Char)
  | [] => [[]]
  | c :: cs =>
    if c = ',' ∧ quoted = false then
      [] :: splitCommas false cs
    else
      match splitCommas (if c = '"' then !quoted else quoted) cs with
      | [] => [[c]]
      | piece :: pieces => (c :: piece) :: pieces

/-- The items of a list: blanks and quotes around them are taken off, and empty ones are left out. -/
def splitList (raw : List Char) : List (List Char) :=
  ((splitCommas false raw).map fun item => unquote (trim item)).filter fun item => !item.isEmpty

/-! ### Relative literals -/

/-- A literal that depends on the context. -/
inductive Relative where
  /-- The present, shifted by an amount of days, or of weeks. -/
  | now (later : Bool) (amount : List Char) (weeks : Bool)
  /-- The current stable milestone, shifted by an amount. -/
  | stable (higher : Bool) (amount : List Char)

/-- Reads a sign. -/
def readSign? : Char → Option Bool
  | '+' => some true
  | '-' => some false
  | _ => none

/-- Reads a sign, at least one digit of any script, and a unit. -/
def readShift? : List Char → Option (Bool × List Char × List Char)
  | [] => none
  | sign :: cs => do
    let later ← readSign? sign
    let amount := cs.takeWhile isDecimalDigit
    if amount.isEmpty then none else return (later, amount, cs.dropWhile isDecimalDigit)

/-- The rest of a text after a word that it starts with. -/
def after? (word cs : List Char) : Option (List Char) :=
  if word.isPrefixOf cs then some (cs.drop word.length) else none

/-- Reads a relative date. -/
def readRelativeDate? (cs : List Char) : Option Relative := do
  let rest ← after? ['n', 'o', 'w'] cs
  if rest.isEmpty then return .now true ['0'] false
  match ← readShift? rest with
  | (later, amount, ['d']) => return .now later amount false
  | (later, amount, ['w']) => return .now later amount true
  | _ => none

/-- Reads a relative milestone. -/
def readRelativeMilestone? (cs : List Char) : Option Relative := do
  let rest ← after? "current_stable".toList cs
  if rest.isEmpty then return .stable true ['0']
  match ← readShift? rest with
  | (higher, amount, []) => return .stable higher amount
  | _ => none

/-- Reads a relative literal. -/
def readRelative? (cs : List Char) : Option Relative :=
  readRelativeDate? cs <|> readRelativeMilestone? cs

/-- An amount with its sign. -/
def signed (positive : Bool) (n : Nat) : Int :=
  if positive then n else -n

/-- The days of an amount of days or of weeks. Neither the amount nor the days exceed 64 bits. -/
def daysOf? (amount : List Char) (weeks : Bool) : Option Int64 := do
  let n ← readNat? amount
  let number ← int64? n
  if weeks then int64? (7 * number.toInt) else return number

/-- What a relative literal denotes. -/
def Relative.toLiteral? (context : Context) : Relative → Option Literal
  | .now later amount weeks => do
    let days ← daysOf? amount weeks
    let t ← context.now.shift? later days
    return .instant t
  | .stable higher amount => do
    let n ← readNat? amount
    let _ ← int64? n
    let milestone ← int64? (context.stableMilestone.toInt + signed higher n)
    return .int milestone

/-- The meaning of an item depends on the context. -/
def isRelative (raw : List Char) : Bool :=
  (readRelative? (unquote (trim raw))).isSome

/-! ### Scalars, ranges and lists -/

/-- Reads a date: four digits, and one or two digits for the month and for the day. -/
def readDate? (cs : List Char) : Option Instant :=
  match splitWhere (· == '-') cs with
  | [year, month, day] => do
    if year.length = 4 ∧ month.length ≤ 2 ∧ day.length ≤ 2 then
      Instant.midnight? ⟨← readNat? year, ← readNat? month, ← readNat? day⟩
    else
      none
  | _ => none

/-- The literal of an item. -/
def scalar (context : Context) (raw : List Char) : Literal :=
  let item := unquote (trim raw)
  let text := Literal.text (String.ofList item)
  match readRelative? item with
  | some relative => (relative.toLiteral? context).getD text
  | none => (readDate? item).elim text .instant

/-- The literal of a text with two bounds. Where one is missing it is no range but a text. -/
def ofBounds (context : Context) (raw low high : List Char) : Literal :=
  let low := unquote (trim low)
  let high := unquote (trim high)
  if low.isEmpty || high.isEmpty then .text (String.ofList (unquote raw))
  else .range (scalar context low) (scalar context high)

/-- The literals of the text after an operator: one for a range or a single item, and one for each item
of a list. -/
def ofRaw (context : Context) (raw : List Char) : List Literal :=
  match splitDots raw with
  | [low, high] => [ofBounds context raw low high]
  | _ =>
    match splitList raw with
    | [] => [.text ""]
    | items => items.map (scalar context)

/-- There is always at least one literal. -/
theorem ofRaw_ne_nil (context : Context) (raw : List Char) : ofRaw context raw ≠ [] := by
  unfold ofRaw
  split
  · simp
  · split
    · simp
    · simpa using by assumption

/-- A relative literal is no range. -/
theorem not_isRange_toLiteral? {context : Context} {relative : Relative} {l : Literal}
    (h : relative.toLiteral? context = some l) : l.isRange = false := by
  cases relative with
  | now later amount weeks =>
    simp only [Relative.toLiteral?, Option.bind_eq_bind, Option.bind_eq_some_iff, pure,
      Option.some.injEq] at h
    obtain ⟨_, -, _, -, rfl⟩ := h
    rfl
  | stable higher amount =>
    simp only [Relative.toLiteral?, Option.bind_eq_bind, Option.bind_eq_some_iff, pure,
      Option.some.injEq] at h
    obtain ⟨_, -, _, -, _, -, rfl⟩ := h
    rfl

/-- No item is a range. -/
theorem not_isRange_scalar (context : Context) (raw : List Char) :
    (scalar context raw).isRange = false := by
  simp only [scalar]
  split
  · rename_i relative _
    cases h : relative.toLiteral? context with
    | none => rfl
    | some l => exact not_isRange_toLiteral? h
  · cases readDate? (unquote (trim raw)) <;> rfl

end FeatureQuery.Literal
