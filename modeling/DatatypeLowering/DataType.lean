/-!
# Element types

Every value of the IR has an element type: a *type code* of one byte, a bit width and a lane
count. The codes 0 to 3 are the native kinds (signed and unsigned integers, floats and opaque
handles); any other code names a custom type, which means something only once a lowering table
registers it. A type with more than one lane is a vector of that many elements.

The display text names a type in labels, trees and error messages: `int32`, `uint8x4`, `bool`,
`handle`, `custom[200]16`. Booleans are the one-bit unsigned integers.
-/

namespace DatatypeLowering

/-- The four native kinds of element, in the order of their codes. -/
inductive NativeKind where
  | int
  | uint
  | float
  | handle
deriving DecidableEq, Repr

namespace NativeKind

/-- The kind's name, which also starts the display text of its types. -/
def name : NativeKind → String
  | int => "int"
  | uint => "uint"
  | float => "float"
  | handle => "handle"

def ofName? : String → Option NativeKind
  | "int" => some int
  | "uint" => some uint
  | "float" => some float
  | "handle" => some handle
  | _ => none

end NativeKind

/-- A type code: one byte. The codes up to 3 are the native kinds. -/
structure TypeCode where
  val : UInt8
deriving DecidableEq, Repr

namespace TypeCode

/-- The code of a native kind: its position in `NativeKind`. -/
def ofNativeKind : NativeKind → TypeCode
  | .int => ⟨0⟩
  | .uint => ⟨1⟩
  | .float => ⟨2⟩
  | .handle => ⟨3⟩

def toNat (c : TypeCode) : Nat := c.val.toNat

def nativeKind? (c : TypeCode) : Option NativeKind :=
  match c.toNat with
  | 0 => some .int
  | 1 => some .uint
  | 2 => some .float
  | 3 => some .handle
  | _ => none

/-- Native codes are the four smallest. -/
def isNative (c : TypeCode) : Bool := c.toNat ≤ 3

/-- The range from 129 up is the one handed out to custom types. -/
def isCustomRange (c : TypeCode) : Bool := 129 ≤ c.toNat

def display (c : TypeCode) : String := toString c.toNat

end TypeCode

/-- An element type: a code, a bit width and a lane count. -/
structure DataType where
  code : TypeCode
  bits : UInt16
  lanes : UInt16
deriving DecidableEq, Repr

namespace DataType

def native (k : NativeKind) (bits : UInt16) : DataType := ⟨.ofNativeKind k, bits, 1⟩

def int (bits : UInt16) : DataType := native .int bits

def uint (bits : UInt16) : DataType := native .uint bits

def float (bits : UInt16) : DataType := native .float bits

/-- Booleans: one-bit unsigned integers. -/
def bool : DataType := uint 1

/-- Opaque handles, such as buffer addresses: 64 bits wide. -/
def handle : DataType := native .handle 64

def custom (code : TypeCode) (bits : UInt16) : DataType := ⟨code, bits, 1⟩

def withLanes (t : DataType) (lanes : UInt16) : DataType := { t with lanes := lanes }

def withBits (t : DataType) (bits : UInt16) : DataType := { t with bits := bits }

def withCode (t : DataType) (code : TypeCode) : DataType := { t with code := code }

def elementOf (t : DataType) : DataType := t.withLanes 1

/-- Unsigned storage of the same width and lanes, which holds a value's bits. -/
def storage (t : DataType) : DataType := (uint t.bits).withLanes t.lanes

/-- Storage size in bytes: the bits of all lanes, rounded up to whole bytes. -/
def bytes (t : DataType) : Nat := (t.bits.toNat * t.lanes.toNat + 7) / 8

def isScalar (t : DataType) : Bool := t.lanes == 1

def isVector (t : DataType) : Bool := 1 < t.lanes.toNat

def isInt (t : DataType) : Bool := t.code.toNat == 0

def isUInt (t : DataType) : Bool := t.code.toNat == 1

def isFloat (t : DataType) : Bool := t.code.toNat == 2

def isHandle (t : DataType) : Bool := t.code.toNat == 3

/-- Booleans are the one-bit unsigned integers, of any lane count. -/
def isBool (t : DataType) : Bool := t.isUInt && t.bits == 1

def isNative (t : DataType) : Bool := t.code.isNative

/-- The name of the element: `bool`, `handle`, a native kind with its width, or the custom
code in brackets with its width. -/
def elementName (t : DataType) : String :=
  if t.isBool then "bool"
  else
    match t.code.nativeKind? with
    | some .handle => "handle"
    | some k => k.name ++ toString t.bits.toNat
    | none => "custom[" ++ t.code.display ++ "]" ++ toString t.bits.toNat

/-- The display text: the element's name, then `x` and the lane count when there is more than
one lane. -/
def display (t : DataType) : String :=
  if t.isVector then t.elementName ++ "x" ++ toString t.lanes.toNat else t.elementName

end DataType

end DatatypeLowering
