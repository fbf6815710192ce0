import FeatureQuery.Text.Printable

/-!
# Quoted text

The quoted form of a text, as values are displayed: double quotes around it, a backslash before a
quote or a backslash, short escapes for four control characters, and the code point in braces for
every other character without a shape of its own.

## Main results

* `quotedChar_cases`: a character is shown as it is, unless it is a quote or a backslash, or by an escape.
* `two_le_length_quoted`: the outer quotes are always there.
-/

namespace FeatureQuery.Text

/-- The escape of a character by its code point in lowercase hexadecimal. -/
def codePointEscape (c : Char) : List Char :=
  ['\\', 'u', '\x7b'] ++ Nat.toDigits 16 c.toNat ++ ['\x7d']

/-- How a character is shown inside quotes. -/
def quotedChar (c : Char) : List Char :=
  if c = '"' then ['\\', '"']
  else if c = '\\' then ['\\', '\\']
  else if c = '\n' then ['\\', 'n']
  else if c = '\r' then ['\\', 'r']
  else if c = '\t' then ['\\', 't']
  else if c = Char.ofNat 0 then ['\\', '0']
  else if isPrintable c && !extendsGrapheme c then [c]
  else codePointEscape c

/-- The quoted form of a text. -/
def quoted (cs : List Char) : List Char :=
  '"' :: cs.flatMap quotedChar ++ ['"']

/-- The quoted form of a string. -/
def quote (s : String) : String :=
  String.ofList (quoted s.toList)

/-- A character is shown as it is, unless it is a quote or a backslash, or by an escape. -/
theorem quotedChar_cases (c : Char) :
    (quotedChar c = [c] ∧ c ≠ '"' ∧ c ≠ '\\') ∨ ∃ rest, quotedChar c = '\\' :: rest := by
  fun_cases quotedChar c
  case case7 hquote hslash _ _ _ _ _ => exact Or.inl ⟨rfl, hquote, hslash⟩
  all_goals exact Or.inr ⟨_, rfl⟩

/-- The quoted form is never empty: it has at least its two quotes. -/
theorem two_le_length_quoted (cs : List Char) : 2 ≤ (quoted cs).length := by
  simp [quoted]

end FeatureQuery.Text
