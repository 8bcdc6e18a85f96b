import DatatypeLowering.Ieee.Binary64
/-!
# Shortest decimal digits

The decimal written for a finite nonzero double is the one with the fewest significant digits
that still reads back as that double, and of two such decimals the nearer one (on an exact tie,
the greater). A decimal reads back as `v = m * 2^q` when it lies in the interval of reals that
round to `v`: from the midpoint with the next smaller double to the midpoint with the next
greater, both ends included when `m` is even. At the bottom of a binade the smaller neighbour is
half as far away.

The search tries decimal grids `10^s` from the coarsest that can hold a point of the interval
downward. If a grid has a point in the interval, one of the two grid points next to `v` is in
it, so only those two are tested; the first grid with a hit gives the fewest digits. Seventeen
significant digits always suffice.
-/

namespace DatatypeLowering.Ieee

/-- A decimal `digits * 10^exponent`. -/
structure Decimal where
  digits : Nat
  exponent : Int
deriving DecidableEq, Repr

/-- The reals that round to a finite nonzero double `m * 2^q`, on the scale `2^(q - 2)`:
the double is `4m`, and the ends are `4m - 2` (or `4m - 1` at the bottom of a binade) and
`4m + 2`. -/
structure RoundingInterval where
  center : Nat
  low : Nat
  high : Nat
  scale : Int
  closed : Bool

namespace RoundingInterval

/-- The interval of the double `m * 2^q` of binary64, for `m > 0`. -/
def ofBinary64 (m : Nat) (q : Int) : RoundingInterval :=
  let f := Format.binary64
  let narrowBelow := m == f.hidden && f.minQ < q
  { center := 4 * m
    low := if narrowBelow then 4 * m - 1 else 4 * m - 2
    high := 4 * m + 2
    scale := q - 2
    closed := m % 2 == 0 }

/-- `a * 2^scale`, multiplied by `10^max(-s, 0) * 2^max(-scale, 0)` so that it is a whole
number; `unit` is the grid step `10^s` multiplied by the same factor, so the two compare as the
reals do. -/
def scaled (iv : RoundingInterval) (s : Int) (a : Nat) : Nat :=
  a * Nat.pow 10 (-s).toNat * Nat.pow 2 iv.scale.toNat

def unit (iv : RoundingInterval) (s : Int) : Nat :=
  Nat.pow 10 s.toNat * Nat.pow 2 (-iv.scale).toNat

def contains (iv : RoundingInterval) (s : Int) (c : Nat) : Bool :=
  let x := c * iv.unit s
  let lo := iv.scaled s iv.low
  let hi := iv.scaled s iv.high
  if iv.closed then lo ≤ x && x ≤ hi else lo < x && x < hi

/-- The greatest `k` with `10^k` at most the double. -/
def decimalExponent (iv : RoundingInterval) : Int :=
  if 0 ≤ iv.scale then
    ((Nat.toDigits 10 (iv.center * Nat.pow 2 iv.scale.toNat)).length : Int) - 1
  else
    -- the double times `10^(-scale)` is the whole number `center * 5^(-scale)`
    ((Nat.toDigits 10 (iv.center * Nat.pow 5 (-iv.scale).toNat)).length : Int) - 1 + iv.scale

/-- The decimal on the grid `10^s` that lies in the interval, if one does: of the two grid
points next to the double, the one inside, or the nearer when both are, the greater on a tie. -/
def onGrid (iv : RoundingInterval) (s : Int) : Option Decimal :=
  let v := iv.scaled s iv.center
  let u := iv.unit s
  let below := v / u
  match iv.contains s below, iv.contains s (below + 1) with
  | true, true => some ⟨if v - below * u < (below + 1) * u - v then below else below + 1, s⟩
  | true, false => some ⟨below, s⟩
  | false, true => some ⟨below + 1, s⟩
  | false, false => none

/-- The nearest decimal with seventeen significant digits, a tie to the greater. -/
def nearestOfSeventeen (iv : RoundingInterval) : Decimal :=
  let s := iv.decimalExponent - 16
  let v := iv.scaled s iv.center
  let u := iv.unit s
  ⟨(2 * v + u) / (2 * u), s⟩

/-- The shortest decimal in the interval, the nearer of two. -/
def shortest (iv : RoundingInterval) : Decimal :=
  let top := iv.decimalExponent + 1
  match (List.range 18).findSome? (fun i : Nat => iv.onGrid (top - (i : Int))) with
  | some d => d
  | none => iv.nearestOfSeventeen

end RoundingInterval

namespace Decimal

/-- Drops trailing zero digits into the exponent; `fuel` bounds the number dropped. -/
def normalize : Nat → Decimal → Decimal
  | 0, d => d
  | fuel + 1, d =>
    if d.digits ≠ 0 && d.digits % 10 == 0 then normalize fuel ⟨d.digits / 10, d.exponent + 1⟩
    else d

def digitText (d : Decimal) : String := String.ofList (Nat.toDigits 10 d.digits)

def leadingExponent (d : Decimal) : Int := d.exponent + (d.digitText.length : Int) - 1

end Decimal

/-- The shortest decimal that reads back as the finite nonzero double `m * 2^q`, without
trailing zeros. -/
def shortestDecimal (m : Nat) (q : Int) : Decimal :=
  let d := (RoundingInterval.ofBinary64 m q).shortest
  Decimal.normalize 20 d

end DatatypeLowering.Ieee
