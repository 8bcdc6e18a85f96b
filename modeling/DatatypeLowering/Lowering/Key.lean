import DatatypeLowering.DataType
import DatatypeLowering.Ir.BinaryOp
/-!
# Lowering keys

A lowering function is registered for a target under a key that says which nodes it lowers:
casts by their destination and source codes, float immediates by their code, and binary
operations by the operator and the code of their result.
-/

namespace DatatypeLowering

/-- What a lowering function lowers: casts to `dst` from `src`, float immediates of a code, or
binary operations by an operator whose result has the code. -/
inductive LoweringKey where
  | cast (dst src : TypeCode)
  | floatImm (code : TypeCode)
  | binary (op : BinaryOp) (code : TypeCode)
deriving DecidableEq, Repr

namespace LoweringKey

/-- The kind of node, as diagnostics name it: `Cast`, `FloatImm` or the operator's name. -/
def kind : LoweringKey → String
  | cast .. => "Cast"
  | floatImm _ => "FloatImm"
  | binary op _ => op.name

def describeTypes : LoweringKey → String
  | cast dst src => "destination type " ++ dst.display ++ " source type " ++ src.display
  | floatImm code => "type " ++ code.display
  | binary _ code => "type " ++ code.display

end LoweringKey

end DatatypeLowering
