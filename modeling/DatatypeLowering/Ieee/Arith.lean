import DatatypeLowering.Ieee.Binary64
/-!
# Products and quotients of doubles

Multiplication and division of doubles, each rounded once: the exact product or quotient of
the two values is rounded to the nearest double, a tie to even, and overflows to an infinity.
The sign of a result, zero and infinite ones included, is the exclusive or of the operands'
signs. A NaN operand, zero times infinity, zero over zero and infinity over infinity give the
default NaN.
-/

namespace DatatypeLowering.Ieee

namespace Binary64

/-- The signed infinity or zero of a result whose sign is `negative`. -/
def signedInfinity (negative : Bool) : Binary64 := if negative then infinity.negate else infinity

def signedZero (negative : Bool) : Binary64 := if negative then zero.negate else zero

def ofNatValue (n : Nat) : Binary64 := ofRational false n 1

/-- The product of two doubles, rounded once. -/
def mul (x y : Binary64) : Binary64 :=
  match x.value, y.value with
  | .finite s m q, .finite s' m' q' =>
    let (num, den) := Format.fractionOf (m * m') (q + q')
    ofRational (s != s') num den
  | .infinite s, .finite s' m' _ => if m' = 0 then nan else signedInfinity (s != s')
  | .finite s m _, .infinite s' => if m = 0 then nan else signedInfinity (s != s')
  | .infinite s, .infinite s' => signedInfinity (s != s')
  | _, _ => nan

/-- The quotient of two doubles, rounded once. -/
def div (x y : Binary64) : Binary64 :=
  match x.value, y.value with
  | .finite s m q, .finite s' m' q' =>
    if m' = 0 then (if m = 0 then nan else signedInfinity (s != s'))
    else
      -- m * 2^q / (m' * 2^q') with the powers of two moved to one side
      let (num, den) :=
        if q' ≤ q then (m * Nat.pow 2 (q - q').toNat, m')
        else (m, m' * Nat.pow 2 (q' - q).toNat)
      ofRational (s != s') num den
  | .infinite s, .finite s' _ _ => signedInfinity (s != s')
  | .finite s _ _, .infinite s' => signedZero (s != s')
  | _, _ => nan

def isInfinite (x : Binary64) : Bool :=
  match x.value with
  | .infinite _ => true
  | _ => false

def isZero (x : Binary64) : Bool :=
  match x.value with
  | .finite _ m _ => m == 0
  | _ => false

end Binary64

end DatatypeLowering.Ieee
