import DatatypeLowering.Ieee.Text
import DatatypeLowering.Ir.Stmt
/-!
# Labels

A label names one node without its children: it is a function of the node's head (and, for an
expression, of its type). An expression's label is its operation, then ` : ` and the display of
its type: `VAR('x') : int32`, `FLOAT(1.5) : float32`, `ADD : int32`, `CALL('f') : uint16`. A
statement's label is its kind with the names it binds or writes: `LET('x')`,
`ALLOCATE('b', free='f') : float32`, `SEQ(len=2)`. Names are inserted as they are, and doubles
are written with their shortest round-trip text.
-/

namespace DatatypeLowering

/-- A name in single quotes, inserted as it is. -/
def quoted (name : String) : String := "'" ++ name ++ "'"

namespace Expr

def Head.label : Head → String
  | .var name => "VAR(" ++ quoted name ++ ")"
  | .intImm v => "INT(" ++ toString v.toInt ++ ")"
  | .uintImm v => "UINT(" ++ toString v.toNat ++ ")"
  | .floatImm v => "FLOAT(" ++ v.toText ++ ")"
  | .cast => "CAST"
  | .binary op => op.label
  | .select => "SELECT"
  | .load buffer => "LOAD(" ++ quoted buffer.name ++ ")"
  | .broadcast => "BROADCAST"
  | .call name => "CALL(" ++ quoted name ++ ")"

/-- An expression's label: the operation and the display of its type. -/
def label (e : Expr) : String := e.head.label ++ " : " ++ e.dtype.display

end Expr

namespace Stmt

def Head.label : Head → String
  | .letIn var => "LET(" ++ quoted var.name ++ ")"
  | .allocate buffer dtype _ _ none =>
    "ALLOCATE(" ++ quoted buffer.name ++ ") : " ++ dtype.display
  | .allocate buffer dtype _ _ (some free) =>
    "ALLOCATE(" ++ quoted buffer.name ++ ", free=" ++ quoted free ++ ") : " ++ dtype.display
  | .store buffer => "STORE(" ++ quoted buffer.name ++ ")"
  | .forLoop var => "FOR(" ++ quoted var.name ++ ")"
  | .ifThenElse _ => "IF"
  | .seq length => "SEQ(len=" ++ toString length ++ ")"
  | .evaluate => "EVALUATE"

/-- A statement's label: that of its head, so two statements with one head have one label. -/
def label (s : Stmt) : String := s.head.label

end Stmt

end DatatypeLowering
