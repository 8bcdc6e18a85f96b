/-!
# Binary operators

Thirteen operators combine two operands: seven arithmetic ones, whose result has the operands'
type, and six comparisons, whose result is a boolean with the operands' lane count.
-/

namespace DatatypeLowering

/-- The binary operators, arithmetic first, then comparisons. -/
inductive BinaryOp where
  | add
  | sub
  | mul
  | div
  | mod
  | min
  | max
  | eq
  | ne
  | lt
  | le
  | gt
  | ge
deriving DecidableEq, Repr

namespace BinaryOp

def all : List BinaryOp := [add, sub, mul, div, mod, min, max, eq, ne, lt, le, gt, ge]

/-- The operator's name: its constructor capitalised (`Add`, `Ge`). -/
def name : BinaryOp → String
  | add => "Add"
  | sub => "Sub"
  | mul => "Mul"
  | div => "Div"
  | mod => "Mod"
  | min => "Min"
  | max => "Max"
  | eq => "Eq"
  | ne => "Ne"
  | lt => "Lt"
  | le => "Le"
  | gt => "Gt"
  | ge => "Ge"

/-- The operator with the given name, matched exactly. -/
def ofName? (s : String) : Option BinaryOp := all.find? (·.name == s)

def isComparison : BinaryOp → Bool
  | eq | ne | lt | le | gt | ge => true
  | _ => false

def isArithmetic (op : BinaryOp) : Bool := !op.isComparison

/-- The operator's label in trees: its name in capitals. -/
def label (op : BinaryOp) : String := op.name.toUpper

end BinaryOp

end DatatypeLowering
