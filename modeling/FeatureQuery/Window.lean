import FeatureQuery.Error
import FeatureQuery.Number.Integer
import FeatureQuery.Text.Blank

/-!
# Windows

The window of a result list that a request asks for: how many results to pass over, and how many to return
at most. Sizes are 64-bit numbers, so the end of a window is a sum that stops at the largest one.

## Main results

* `beginIn_le_endIn`, `endIn_le`: a window begins and ends within the list, in this order.
* `slice_all`: the open window returns everything.
* `length_slice_le`: a window with a limit returns no more than that.
-/

namespace FeatureQuery

/-- A window of a list. -/
structure Window where
  /-- How many items to pass over. -/
  start : Nat
  /-- How many items to return at most; without it, all. -/
  num : Option Nat
  deriving DecidableEq

namespace Window

/-- The window that leaves nothing out. -/
def all : Window := ⟨0, none⟩

/-- The sum of two sizes, or the largest size if the sum is out of range. -/
def addSizes (m n : Nat) : Nat :=
  min (m + n) (UInt64.size - 1)

/-- The place at which a window of so many items begins. -/
def beginIn (window : Window) (length : Nat) : Nat :=
  min window.start length

/-- The place at which a window of so many items ends. -/
def endIn (window : Window) (length : Nat) : Nat :=
  match window.num with
  | none => length
  | some num => min (addSizes (window.beginIn length) num) length

/-- The items of a list that a window shows. -/
def slice {α : Type} (window : Window) (items : List α) : List α :=
  items.extract (window.beginIn items.length) (window.endIn items.length)

/-- A window ends within the list. -/
theorem endIn_le (window : Window) (length : Nat) : window.endIn length ≤ length := by
  unfold endIn
  split
  · exact Nat.le_refl length
  · exact Nat.min_le_right _ _

/-- A window does not end before it begins, if the length of the list is a size. -/
theorem beginIn_le_endIn (window : Window) {length : Nat} (h : length < UInt64.size) :
    window.beginIn length ≤ window.endIn length := by
  unfold beginIn endIn addSizes
  split
  · exact Nat.min_le_right _ _
  · rw [beginIn]
    omega

/-- The window without bounds cuts nothing off. -/
theorem slice_all {α : Type} (items : List α) : all.slice items = items := by
  simp [slice, beginIn, endIn, all, List.extract_eq_take_drop]

/-- A window never shows more than its number of items. -/
theorem length_slice_le {α : Type} {window : Window} {num : Nat} (items : List α)
    (h : window.num = some num) : (window.slice items).length ≤ num := by
  rw [slice, List.extract_eq_take_drop, List.length_take, endIn, h]
  dsimp only [addSizes]
  omega

/-- Reads a bound of a window, a natural number within 64-bit integers. -/
def readBound (parameter value : String) : Except SearchError Nat :=
  match Number.readInt64? (Text.trim value.toList) with
  | none => .error (.pagination parameter value "must be an integer")
  | some n =>
    if n < 0 then .error (.pagination parameter value "must not be negative")
    else .ok n.toInt.toNat

/-- Reads a window. Bounds that are left out mean from the start, and no limit. -/
def read (start num : Option String) : Except SearchError Window := do
  let start ← start.mapM (readBound "start")
  let num ← num.mapM (readBound "num")
  return ⟨start.getD 0, num⟩

end Window

end FeatureQuery
