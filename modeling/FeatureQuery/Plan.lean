import FeatureQuery.Field
import FeatureQuery.Filter
import FeatureQuery.Literal
import FeatureQuery.Number.Double.Text

/-!
# Plans

How a test of a field is put to the store. The literals are first narrowed to the kind of the field's
property; then they become store queries, whose answers together are the answer to the test.

A negated test can be planned as its own complement if that selects exactly the features that the test
does not: every feature has exactly one value for the property, and that value compares with the single
operand.

## Main results

* `Binding.narrow_isRange`: narrowing keeps ranges and makes none.
* `Binding.plan_complemented`: a plan is complemented exactly for a negated test that allows it.
* `Binding.plan_not_negated`: a plan that is not complemented is that of the test without negation.
-/

namespace FeatureQuery

open FeatureQuery.Number (Double readInt64?)

/-- The queries that a test of a field expands to. -/
structure Plan where
  /-- The answers of these are united. -/
  queries : List StoreQuery
  /-- The queries select what the test does not. -/
  complemented : Bool
  deriving DecidableEq

namespace Binding

/-! ### Narrowing -/

/-- A text as a number for a property of integers: one beyond 64 bits, or one with a point or an
exponent, becomes a float. -/
def narrowToInt (content : String) : Literal :=
  match readInt64? content.toList with
  | some n => .int n
  | none => (Double.read? content.toList).elim (.text content) .float

/-- A text as a value of the property. One that does not fit stays a text, which matches nothing. -/
def narrowText (binding : Binding) (content : String) : Literal :=
  match binding.enumeration, binding.property.kind with
  | some enumeration, _ => (enumeration.lookup? content).elim (.text content) .code
  | none, .int => narrowToInt content
  | none, .float => (Double.read? content.toList).elim (.text content) .float
  | none, _ => .text content

/-- A literal as a value of the property. -/
def narrow (binding : Binding) : Literal → Literal
  | .text content => binding.narrowText content
  | .range low high => .range (binding.narrow low) (binding.narrow high)
  | l => l

/-- Binding a literal to a property leaves ranges ranges, and makes none. -/
theorem narrow_isRange (binding : Binding) (l : Literal) :
    (binding.narrow l).isRange = l.isRange := by
  cases l with
  | text content =>
    simp only [narrow, narrowText, narrowToInt]
    split
    · cases Enumeration.lookup? _ content <;> rfl
    · split
      · rfl
      · cases Double.read? content.toList <;> rfl
    · cases Double.read? content.toList <;> rfl
    · rfl
  | _ => rfl

/-! ### Planning -/

/-- A negated test with this operand is answered by the complementary operator. -/
def complementsWith (binding : Binding) (operand : Value) : Bool :=
  binding.target == .primary && binding.indexed && binding.property.cardinality == .required
    && operand.kind == binding.property.kind

/-- A negated test with these literals is answered by the complementary operator. -/
def canComplement (binding : Binding) : List Literal → Bool
  | [l] => l.toValue?.any binding.complementsWith
  | _ => false

/-- The query for all records that the field's values are found on. -/
def base (binding : Binding) : StoreQuery :=
  match binding.target with
  | .primary => .all .feature
  | .joined stageTypes =>
    (StoreQuery.all .stage).filter (.oneOf .stageType (stageTypes.map .int))

/-- The base query with one comparison. -/
def comparison (binding : Binding) (op : Operator) (operand : Value) : StoreQuery :=
  binding.base.filter (.compare binding.property op operand)

/-- The query for the values from one bound to another. -/
def between (binding : Binding) (low high : Value) : StoreQuery :=
  (binding.comparison .ge low).filter (.compare binding.property .le high)

/-- The queries for a test. A range asks for the values between its bounds whatever the operator is. A
list asks for any of its items: with equality in one query, otherwise in one for each item. -/
def queriesFor (binding : Binding) (op : Operator) : List Literal → List StoreQuery
  | [.range low high] =>
    match low.toValue?, high.toValue? with
    | some low, some high => [binding.between low high]
    | _, _ => []
  | [l] => (l.toValue?.map (binding.comparison op)).toList
  | literals =>
    let operands := literals.filterMap Literal.toValue?
    if op = .eq then [binding.base.filter (.oneOf binding.property operands)]
    else operands.map (binding.comparison op)

/-- The plan of a test. -/
def plan (binding : Binding) (op : Operator) (literals : List Literal) (negated : Bool) : Plan :=
  let complemented := negated && binding.canComplement literals
  ⟨binding.queriesFor (if complemented then op.complement else op) literals, complemented⟩

/-- An answer is complemented if the test is negated and there is a complement to take. -/
theorem plan_complemented (binding : Binding) (op : Operator) (literals : List Literal)
    (negated : Bool) :
    (binding.plan op literals negated).complemented = (negated && binding.canComplement literals) :=
  rfl

/-- Without complement, a negated test asks the queries of the plain one. -/
theorem plan_not_negated {binding : Binding} {op : Operator} {literals : List Literal}
    {negated : Bool} (h : (binding.plan op literals negated).complemented = false) :
    (binding.plan op literals negated).queries = (binding.plan op literals false).queries := by
  rw [plan_complemented] at h
  simp [plan, h]

end Binding

end FeatureQuery
