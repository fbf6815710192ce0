/-!
# Comparison operators

The operators of query terms and store filters.

## Main results

* `complement_complement`: complementing twice gives the operator back.
* `accepts_complement`: the complement accepts exactly the orderings that the operator rejects.
* `ofSymbol?_symbol`: an operator is read back from its symbol.
-/

namespace FeatureQuery

/-- A comparison. -/
inductive Operator where
  | eq | ne | lt | le | gt | ge
  deriving DecidableEq

/-- A text that spells no operator. -/
structure UnknownOperator where
  symbol : String
  deriving DecidableEq

/-- The wording of the error. -/
def UnknownOperator.message (e : UnknownOperator) : String :=
  "unknown operator: " ++ e.symbol

namespace Operator

/-- The operator that selects exactly the values this one rejects. -/
def complement : Operator → Operator
  | eq => ne
  | ne => eq
  | lt => ge
  | ge => lt
  | le => gt
  | gt => le

/-- A value that compares to the operand in this way satisfies the operator. -/
def accepts : Operator → Ordering → Bool
  | eq, o => o == .eq
  | ne, o => o != .eq
  | lt, o => o == .lt
  | le, o => o != .gt
  | gt, o => o == .gt
  | ge, o => o != .lt

/-- The spelling in queries. -/
def symbol : Operator → String
  | eq => "="
  | ne => "!="
  | lt => "<"
  | le => "<="
  | gt => ">"
  | ge => ">="

/-- The operator of a spelling; a colon stands for equality. -/
def ofSymbol? : String → Option Operator
  | "=" | ":" => some eq
  | "!=" => some ne
  | "<" => some lt
  | "<=" => some le
  | ">" => some gt
  | ">=" => some ge
  | _ => none

/-- Reads an operator. -/
def read (symbol : String) : Except UnknownOperator Operator :=
  match ofSymbol? symbol with
  | some op => .ok op
  | none => .error ⟨symbol⟩

/-- Complements come in pairs. -/
theorem complement_complement (op : Operator) : op.complement.complement = op := by
  cases op <;> rfl

/-- The complement accepts the results of a comparison that the operator does not. -/
theorem accepts_complement (op : Operator) (o : Ordering) : op.complement.accepts o = !op.accepts o := by
  cases op <;> cases o <;> rfl

/-- An operator is found by its symbol. -/
theorem ofSymbol?_symbol (op : Operator) : ofSymbol? op.symbol = some op := by
  cases op <;> rfl

end Operator

end FeatureQuery
