import DatatypeLowering.DataType
import DatatypeLowering.Ir.BinaryOp
/-!
# Errors of the IR

Checked constructors refuse operands whose types do not fit together (`TypeError`), and
rebuilding a node over a wrong number of new children is a misuse (`ArityError`). Each error
has one message text, written by `message`.
-/

namespace DatatypeLowering

/-- The operand of a load whose lanes are checked. -/
inductive LoadOperand where
  | index
  | predicate
deriving DecidableEq, Repr

def LoadOperand.description : LoadOperand → String
  | .index => "load index"
  | .predicate => "load predicate"

/-- Operands whose types do not fit the node built from them. -/
inductive TypeError where
  | dtypeMismatch (op : BinaryOp) (lhs rhs : DataType)
  | selectConditionNotBool (actual : DataType)
  | selectBranchMismatch (onTrue onFalse : DataType)
  | laneMismatch (operand : LoadOperand) (expected actual : UInt16)
  | broadcastRequiresScalar (dtype : DataType)
deriving DecidableEq, Repr

def TypeError.message : TypeError → String
  | .dtypeMismatch op lhs rhs =>
    "dtype mismatch in " ++ op.name ++ ": cannot combine " ++ lhs.display ++ " and " ++ rhs.display
  | .selectConditionNotBool actual => "SELECT condition must be bool, got " ++ actual.display
  | .selectBranchMismatch onTrue onFalse =>
    "SELECT branches have mismatched dtypes: " ++ onTrue.display ++ " vs " ++ onFalse.display
  | .laneMismatch operand expected actual =>
    "lane mismatch: " ++ operand.description ++ " has " ++ toString actual.toNat ++
      " lanes, expected " ++ toString expected.toNat
  | .broadcastRequiresScalar dtype => "BROADCAST requires scalar source, got " ++ dtype.display

/-- A node rebuilt over a number of children it does not have. -/
inductive ArityError where
  | sources
  | expressions
  | statements
deriving DecidableEq, Repr

def ArityError.message : ArityError → String
  | .sources => "source count mismatch"
  | .expressions => "expression count mismatch"
  | .statements => "statement count mismatch"

end DatatypeLowering
