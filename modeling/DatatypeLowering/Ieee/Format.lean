/-!
# Binary interchange formats

A binary floating-point format has a sign bit, an exponent field and a fraction field. A bit
pattern holds a NaN (exponent field all ones, fraction nonzero), an infinity (all ones, fraction
zero) or a finite value `m * 2^q`: a subnormal or zero when the exponent field is zero, with
`q` the least exponent, and otherwise a normal value whose significand has the hidden bit set.

Rounding takes a positive rational `num / den` to the nearest value of the format, and on a tie
to the one with an even significand; past the largest finite value it overflows. Everything is
exact arithmetic on `Nat`, so the same code serves binary64 and binary32.
-/

namespace DatatypeLowering.Ieee

/-- A binary interchange format, given by the widths of its two fields. -/
structure Format where
  exponentBits : Nat
  fractionBits : Nat

/-- What a bit pattern of a format holds: a NaN with its sign and fraction bits, an infinity, or
the value `±m * 2^q`, where `m = 0` is a zero. -/
inductive Value where
  | nan (negative : Bool) (payload : Nat)
  | infinite (negative : Bool)
  | finite (negative : Bool) (m : Nat) (q : Int)
deriving DecidableEq, Repr

namespace Format

def binary64 : Format := ⟨11, 52⟩

def binary32 : Format := ⟨8, 23⟩

def width (f : Format) : Nat := 1 + f.exponentBits + f.fractionBits

def topField (f : Format) : Nat := Nat.pow 2 f.exponentBits - 1

def bias (f : Format) : Nat := Nat.pow 2 (f.exponentBits - 1) - 1

/-- The hidden bit of normal values, as a weight of the significand. -/
def hidden (f : Format) : Nat := Nat.pow 2 f.fractionBits

/-- The least exponent `q`: that of the subnormals and of the smallest binade of normals. -/
def minQ (f : Format) : Int := 1 - (f.bias : Int) - f.fractionBits

def maxQ (f : Format) : Int := (f.topField : Int) - 1 - f.bias - f.fractionBits

def signWeight (f : Format) (negative : Bool) : Nat :=
  if negative then Nat.pow 2 (f.width - 1) else 0

def decode (f : Format) (bits : Nat) : Value :=
  let fraction := bits % f.hidden
  let field := bits / f.hidden % Nat.pow 2 f.exponentBits
  let negative := bits / Nat.pow 2 (f.width - 1) % 2 == 1
  if field == f.topField then
    if fraction == 0 then .infinite negative else .nan negative fraction
  else if field == 0 then .finite negative fraction f.minQ
  else .finite negative (fraction + f.hidden) (field + f.minQ - 1)

def encodeInfinite (f : Format) (negative : Bool) : Nat :=
  f.signWeight negative + f.topField * f.hidden

def encodeNan (f : Format) (negative : Bool) (payload : Nat) : Nat :=
  f.signWeight negative + f.topField * f.hidden + payload % f.hidden

/-- The pattern of `±m * 2^q` for a significand `m` below twice the hidden bit, with `q` the
least exponent whenever `m` is below the hidden bit. -/
def encodeFinite (f : Format) (negative : Bool) (m : Nat) (q : Int) : Nat :=
  if m < f.hidden then f.signWeight negative + m
  else f.signWeight negative + (q - f.minQ + 1).toNat * f.hidden + (m - f.hidden)

end Format

/-- `a / b` rounded to the nearest integer, a tie to the even one. -/
def divRoundEven (a b : Nat) : Nat :=
  let q := a / b
  let r := a % b
  if b < 2 * r then q + 1
  else if 2 * r < b then q
  else if q % 2 == 0 then q else q + 1

/-- Whether `num / den` is at least `2^k`. -/
def atLeastPow2 (num den : Nat) (k : Int) : Bool :=
  if 0 ≤ k then den * Nat.pow 2 k.toNat ≤ num else den ≤ num * Nat.pow 2 (-k).toNat

/-- The exponent of the leading bit of `num / den`, for positive `num` and `den`: the greatest
`k` with `2^k ≤ num / den`. -/
def floorLog2 (num den : Nat) : Int :=
  let k : Int := (num.log2 : Int) - den.log2
  if atLeastPow2 num den k then k else k - 1

namespace Format

/-- Rounds the positive rational `num / den` to the format: the significand and exponent of the
nearest value, a tie to the even significand, or `none` past the largest finite value. -/
def roundPositive (f : Format) (num den : Nat) : Option (Nat × Int) :=
  let q := max (floorLog2 num den - f.fractionBits) f.minQ
  let m :=
    if 0 ≤ q then divRoundEven num (den * Nat.pow 2 q.toNat)
    else divRoundEven (num * Nat.pow 2 (-q).toNat) den
  -- rounding up may carry into the next binade
  let (m, q) := if m == 2 * f.hidden then (f.hidden, q + 1) else (m, q)
  if f.maxQ < q then none else some (m, q)

/-- The pattern nearest to `±num / den`: a signed zero for `num = 0`, an infinity on
overflow. -/
def encodeRational (f : Format) (negative : Bool) (num den : Nat) : Nat :=
  if num = 0 then f.signWeight negative
  else
    match f.roundPositive num den with
    | some (m, q) => f.encodeFinite negative m q
    | none => f.encodeInfinite negative

/-- The exact value `m * 2^q` as a fraction `num / den`. -/
def fractionOf (m : Nat) (q : Int) : Nat × Nat :=
  if 0 ≤ q then (m * Nat.pow 2 q.toNat, 1) else (m, Nat.pow 2 (-q).toNat)

end Format

end DatatypeLowering.Ieee
