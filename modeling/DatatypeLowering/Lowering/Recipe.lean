import DatatypeLowering.Ieee.Binary64
import DatatypeLowering.Ir.Expr
/-!
# Lowering recipes

A recipe is a lowering function given as data. It receives the node to lower, already rebuilt
over lowered operands and still of its custom type, and returns the replacement:

* a call of a named function over the node's operands, of the node's storage type (unsigned, of
  the same width and lanes), of the node's own type, or of a given type;
* the bits of a float immediate read as an unsigned immediate of the storage type, after
  rounding to single precision or as they are; on any other node, a call named `f32_bits` or
  `f64_bits` over its operands, of the storage type;
* the node with another type;
* a fixed expression;
* the node itself.
-/

namespace DatatypeLowering

open Ieee

/-- The type of the call a recipe makes. -/
inductive CallType where
  | storage
  | same
  | fixed (t : DataType)
deriving DecidableEq, Repr

def CallType.resolve : CallType → DataType → DataType
  | .storage, t => t.storage
  | .same, t => t
  | .fixed u, _ => u

/-- Lowering functions given as data. -/
inductive Recipe where
  | call (name : String) (dtype : CallType)
  | singleBits
  | doubleBits
  | retype (t : DataType)
  | constant (e : Expr)
  | identity
deriving Repr

/-- The replacement a recipe gives for a node. -/
def Recipe.apply : Recipe → Expr → Expr
  | .call name ct, e => .call (ct.resolve e.dtype) name e.sources
  | .singleBits, .floatImm t v => .uintImm t.storage v.toBinary32.bits.toUInt64
  | .singleBits, e => .call e.dtype.storage "f32_bits" e.sources
  | .doubleBits, .floatImm t v => .uintImm t.storage v.bits
  | .doubleBits, e => .call e.dtype.storage "f64_bits" e.sources
  | .retype t, e => e.withDtype t
  | .constant c, _ => c
  | .identity, e => e

end DatatypeLowering
