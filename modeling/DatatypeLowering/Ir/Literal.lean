import DatatypeLowering.Ieee.Binary64
import DatatypeLowering.Ir.Expr
/-!
# Literals of scalar types

The fixed-width scalars of a host program (booleans, signed and unsigned integers of 8 to 64
bits, single and double floats) each have one element type. A literal of such a scalar becomes
an immediate of that type: a boolean the unsigned immediate 0 or 1 of `bool`, a signed integer an
integer immediate, an unsigned one an unsigned immediate, and a float a floating-point
immediate. A single-precision literal is the double rounded to single precision and widened
back, so `0.1` becomes `0.10000000149011612`.
-/

namespace DatatypeLowering

open Ieee

/-- The scalar types of a host program. -/
inductive Scalar where
  | bool
  | i8
  | i16
  | i32
  | i64
  | u8
  | u16
  | u32
  | u64
  | f32
  | f64
deriving DecidableEq, Repr

namespace Scalar

def all : List Scalar := [bool, i8, i16, i32, i64, u8, u16, u32, u64, f32, f64]

/-- The scalar's usual short name: `bool`, `i32`, `u8`, `f64`. -/
def name : Scalar → String
  | bool => "bool"
  | i8 => "i8"
  | i16 => "i16"
  | i32 => "i32"
  | i64 => "i64"
  | u8 => "u8"
  | u16 => "u16"
  | u32 => "u32"
  | u64 => "u64"
  | f32 => "f32"
  | f64 => "f64"

def ofName? (s : String) : Option Scalar := all.find? (·.name == s)

def dataType : Scalar → DataType
  | bool => .bool
  | i8 => .int 8
  | i16 => .int 16
  | i32 => .int 32
  | i64 => .int 64
  | u8 => .uint 8
  | u16 => .uint 16
  | u32 => .uint 32
  | u64 => .uint 64
  | f32 => .float 32
  | f64 => .float 64

def isSigned : Scalar → Bool
  | i8 | i16 | i32 | i64 => true
  | _ => false

def intRange? : Scalar → Option (Int × Int)
  | i8 => some (-128, 127)
  | i16 => some (-32768, 32767)
  | i32 => some (-2147483648, 2147483647)
  | i64 => some (-9223372036854775808, 9223372036854775807)
  | u8 => some (0, 255)
  | u16 => some (0, 65535)
  | u32 => some (0, 4294967295)
  | u64 => some (0, 18446744073709551615)
  | _ => none

/-- The immediate of an integer literal, if the scalar is an integer type that holds it. -/
def intLiteral? (s : Scalar) (v : Int) : Option Expr :=
  match s.intRange? with
  | some (lo, hi) =>
    if lo ≤ v ∧ v ≤ hi then
      some (if s.isSigned then .intImm s.dataType (Int64.ofInt v)
        else .uintImm s.dataType (UInt64.ofNat v.toNat))
    else none
  | none => none

/-- The immediate of a float literal, if the scalar is a float type; single precision rounds
the value first. -/
def floatLiteral? (s : Scalar) (v : Binary64) : Option Expr :=
  match s with
  | f32 => some (.floatImm s.dataType v.toBinary32.toBinary64)
  | f64 => some (.floatImm s.dataType v)
  | _ => none

end Scalar

def Expr.ofBool (b : Bool) : Expr := .uintImm DataType.bool (if b then 1 else 0)

end DatatypeLowering
