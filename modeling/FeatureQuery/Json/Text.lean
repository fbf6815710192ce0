import FeatureQuery.Json.Basic

/-!
# Writing JSON

Two layouts: on one line without blanks, and with one field or item a line, indented by two blanks for
each level, where empty arrays and objects stay on one line.

Inside strings a quote and a backslash are escaped, the control characters below the blank by a
letter or by their code point, and nothing else.

## Main results

* `escapedChar_of_le`: a character from the blank on, other than a quote or a backslash, is written as
  itself.
-/

namespace FeatureQuery.Json

/-- How a character is written inside a string. -/
def escapedChar (c : Char) : List Char :=
  if c = '"' then ['\\', '"']
  else if c = '\\' then ['\\', '\\']
  else if 0x20 ≤ c.toNat then [c]
  else
    match c.toNat with
    | 0x8 => ['\\', 'b']
    | 0x9 => ['\\', 't']
    | 0xA => ['\\', 'n']
    | 0xC => ['\\', 'f']
    | 0xD => ['\\', 'r']
    | n => ['\\', 'u', '0', '0'] ++ List.replicate (if n < 16 then 1 else 0) '0' ++ Nat.toDigits 16 n

/-- A character is written as it is, unless it is a control character, a quote or a backslash. -/
theorem escapedChar_of_le {c : Char} (h : 0x20 ≤ c.toNat) (quote : c ≠ '"') (slash : c ≠ '\\') :
    escapedChar c = [c] := by
  simp [escapedChar, h, quote, slash]

/-- A string literal. -/
def stringLiteral (cs : List Char) : List Char :=
  '"' :: cs.flatMap escapedChar ++ ['"']

/-- The literal of a string; one that denotes no text is written as half a surrogate pair. -/
def literal : Option String → List Char
  | some s => stringLiteral s.toList
  | none => ['"', '\\', 'u', 'd', '8', '0', '0', '"']

/-- The text of a number. -/
def Number.text : Number → List Char
  | .integer n => (toString n).toList
  | .real negative significand exponent =>
    (if negative then ['-'] else []) ++ (toString significand).toList ++ 'e' :: (toString exponent).toList

/-- The texts with a comma between each two of them. -/
def commaSeparated (texts : List (List Char)) : List Char :=
  (texts.intersperse [',']).flatten

mutual

/-- The text of a value on one line. -/
def compactChars : Json → List Char
  | .null => ['n', 'u', 'l', 'l']
  | .bool b => (toString b).toList
  | .number n => n.text
  | .string s => literal s
  | .array items => '[' :: commaSeparated (compactItems items) ++ [']']
  | .object fields => '\x7b' :: commaSeparated (compactFields fields) ++ ['\x7d']

/-- The texts of the items of an array. -/
def compactItems : List Json → List (List Char)
  | [] => []
  | item :: items => item.compactChars :: compactItems items

/-- The texts of the fields of an object. -/
def compactFields : List (Option String × Json) → List (List Char)
  | [] => []
  | (name, value) :: fields => (literal name ++ ':' :: value.compactChars) :: compactFields fields

end

/-- The text of a value on one line. -/
def compact (json : Json) : String :=
  String.ofList json.compactChars

/-- A new line at a level. -/
def newLine (level : Nat) : List Char :=
  '\n' :: List.replicate (2 * level) ' '

/-- Texts in brackets, each on a line of its own. -/
def indented (level : Nat) (opening closing : Char) (texts : List (List Char)) : List Char :=
  if texts.isEmpty then [opening, closing]
  else opening :: commaSeparated (texts.map fun text => newLine (level + 1) ++ text)
    ++ newLine level ++ [closing]

mutual

/-- The text of a value that stands at a level, over several lines. -/
def prettyChars (level : Nat) : Json → List Char
  | .array items => indented level '[' ']' (prettyItems (level + 1) items)
  | .object fields => indented level '\x7b' '\x7d' (prettyFields (level + 1) fields)
  | .null => ['n', 'u', 'l', 'l']
  | .bool b => (toString b).toList
  | .number n => n.text
  | .string s => literal s

/-- The texts of the items of an array at a level. -/
def prettyItems (level : Nat) : List Json → List (List Char)
  | [] => []
  | item :: items => item.prettyChars level :: prettyItems level items

/-- The texts of the fields of an object at a level. -/
def prettyFields (level : Nat) : List (Option String × Json) → List (List Char)
  | [] => []
  | (name, value) :: fields =>
    (literal name ++ ':' :: ' ' :: value.prettyChars level) :: prettyFields level fields

end

/-- The text of a value over several lines. -/
def pretty (json : Json) : String :=
  String.ofList (json.prettyChars 0)

end FeatureQuery.Json
