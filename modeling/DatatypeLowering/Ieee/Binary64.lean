import DatatypeLowering.Ieee.Format
/-!
# Double and single precision values

`Binary64` and `Binary32` keep a value as its bit pattern, so two values are equal exactly when
their patterns are: `-0.0` differs from `0.0`, and a NaN equals a NaN with the same bits.

Narrowing a double to single precision rounds to nearest, a tie to even, and overflows to an
infinity; a NaN keeps its sign, becomes quiet and keeps the high bits of its payload. Widening a
single back to a double is exact.
-/

namespace DatatypeLowering.Ieee

/-- A double-precision value, kept as its 64-bit pattern. -/
structure Binary64 where
  bits : UInt64
deriving DecidableEq, Repr

/-- A single-precision value, kept as its 32-bit pattern. -/
structure Binary32 where
  bits : UInt32
deriving DecidableEq, Repr

namespace Binary64

def value (x : Binary64) : Value := Format.binary64.decode x.bits.toNat

def ofNat (n : Nat) : Binary64 := ⟨n.toUInt64⟩

def zero : Binary64 := ⟨0⟩

/-- The default quiet NaN: positive, only the quiet bit set. -/
def nan : Binary64 := ⟨0x7FF8000000000000⟩

def infinity : Binary64 := ofNat (Format.binary64.encodeInfinite false)

def negate (x : Binary64) : Binary64 := ⟨x.bits ^^^ 0x8000000000000000⟩

/-- The double nearest to `±num / den`. -/
def ofRational (negative : Bool) (num den : Nat) : Binary64 :=
  ofNat (Format.binary64.encodeRational negative num den)

/-- Narrows to single precision: rounds a finite value to nearest (a tie to even), keeps
infinities, and makes a NaN quiet with its sign and the high 22 bits of its payload. -/
def toBinary32 (x : Binary64) : Binary32 :=
  let f := Format.binary32
  let n :=
    match x.value with
    | .nan negative payload => f.encodeNan negative (payload / Nat.pow 2 29 ||| Nat.pow 2 22)
    | .infinite negative => f.encodeInfinite negative
    | .finite negative m q =>
      let (num, den) := Format.fractionOf m q
      f.encodeRational negative num den
  ⟨n.toUInt32⟩

end Binary64

namespace Binary32

def value (x : Binary32) : Value := Format.binary32.decode x.bits.toNat

/-- Widens to double precision, exactly; a NaN keeps its sign and payload, made quiet. -/
def toBinary64 (x : Binary32) : Binary64 :=
  let f := Format.binary64
  match x.value with
  | .nan negative payload =>
    Binary64.ofNat (f.encodeNan negative (payload * Nat.pow 2 29 ||| Nat.pow 2 51))
  | .infinite negative => Binary64.ofNat (f.encodeInfinite negative)
  | .finite negative m q =>
    let (num, den) := Format.fractionOf m q
    Binary64.ofRational negative num den

end Binary32

end DatatypeLowering.Ieee
