import FeatureQuery.Number.Double
import FeatureQuery.Number.Integer

/-!
# Reading double precision numbers

The accepted texts are an optional sign followed by one of the words `inf`, `infinity` and `nan` in any
case, or by a decimal: digits with at most one point among or beside them, and an optional exponent. The
result is the number nearest to the decimal.

## Main results

* `exists_isDigit_of_readDecimal?`: a decimal has a digit.
-/

namespace FeatureQuery.Number.Double

open FeatureQuery.Number

/-- The exponent part of a decimal: empty, or a mark followed by a signed number. -/
def readExponent? : List Char → Option Int
  | [] => some 0
  | c :: cs => if c = 'e' ∨ c = 'E' then readInt? cs else none

/-- A decimal without a sign: the digits before and after the point, then the exponent. The point may
stand at either end, but not alone. -/
def readDecimal? (negative : Bool) (cs : List Char) : Option Double := do
  let whole := cs.takeWhile Char.isDigit
  let afterWhole := cs.dropWhile Char.isDigit
  let (fraction, rest) :=
    match afterWhole with
    | '.' :: cs => (cs.takeWhile Char.isDigit, cs.dropWhile Char.isDigit)
    | cs => ([], cs)
  if whole.isEmpty && fraction.isEmpty then
    none
  else
    let exponent ← readExponent? rest
    return ofDecimal negative (digitsValue (whole ++ fraction)) (exponent - fraction.length)

/-- A number after its sign. -/
def readUnsigned? (negative : Bool) (cs : List Char) : Option Double :=
  let lowered := String.ofList (cs.map Char.toLower)
  if lowered = "inf" ∨ lowered = "infinity" then some (.infinity negative)
  else if lowered = "nan" then some .nan
  else readDecimal? negative cs

/-- Reads a number with an optional sign. -/
def read? : List Char → Option Double
  | '-' :: cs => readUnsigned? true cs
  | '+' :: cs => readUnsigned? false cs
  | cs => readUnsigned? false cs

/-- A decimal has a digit, before the point or after it. -/
theorem exists_isDigit_of_readDecimal? {negative : Bool} {cs : List Char} {x : Double}
    (h : readDecimal? negative cs = some x) : ∃ c ∈ cs, c.isDigit = true := by
  refine Classical.byContradiction fun hnone => ?_
  have hempty : ∀ ds : List Char, (∀ c ∈ ds, c ∈ cs) → ds.takeWhile Char.isDigit = [] := by
    intro ds hds
    cases ds with
    | nil => rfl
    | cons c ds => exact List.takeWhile_cons_of_neg fun hc => hnone ⟨c, hds c List.mem_cons_self, hc⟩
  have hdrop : ∀ c ∈ cs.dropWhile Char.isDigit, c ∈ cs :=
    fun _ hc => (List.dropWhile_suffix _).subset hc
  rw [readDecimal?, hempty cs fun _ hc => hc] at h
  split at h
  next fraction rest hsplit =>
    have hfraction : fraction = [] := by
      split at hsplit
      · next ds hds =>
        rw [hempty ds fun c hc => hdrop c (hds ▸ List.mem_cons_of_mem _ hc)] at hsplit
        exact (Prod.mk.inj hsplit).1.symm
      · exact (Prod.mk.inj hsplit).1.symm
    rw [hfraction] at h
    exact absurd h nofun

end FeatureQuery.Number.Double
