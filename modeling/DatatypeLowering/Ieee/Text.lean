import DatatypeLowering.Ieee.Shortest
/-!
# Text of a double

A double is written with its shortest round-trip digits (`Ieee.Shortest`). The layout is fixed
by a `TextStyle`: which leading exponents are written positionally, the exponent mark, and the
words for NaN and infinity. In the style used for labels and answers, `TextStyle.roundTrip`,
positional text always has a fractional part (`1.0`, `0.0001`, `1000000000000000.0`), and the
other values have a bare exponent (`1e16`, `1.5e-7`, `5e-324`). Zero keeps its sign; NaN has
none.
-/

namespace DatatypeLowering.Ieee

/-- How a double is laid out as text. -/
structure TextStyle where
  positionalMin : Int
  positionalMax : Int
  exponentMark : String
  nanText : String
  infinityText : String

namespace TextStyle

/-- Positional from `1e-4` up to below `1e16`, `e` before a bare exponent, `NaN` and `inf`. -/
def roundTrip : TextStyle :=
  { positionalMin := -4
    positionalMax := 15
    exponentMark := "e"
    nanText := "NaN"
    infinityText := "inf" }

end TextStyle

def zeros (n : Nat) : List Char := List.replicate n '0'

namespace Decimal

/-- Positional text: all digits before the point up to the units, at least one digit after
it. -/
def positional (d : Decimal) : String :=
  let t := Nat.toDigits 10 d.digits
  let k := d.leadingExponent
  if 0 ≤ k then
    let whole := k.toNat + 1
    if t.length ≤ whole then String.ofList (t ++ zeros (whole - t.length) ++ ['.', '0'])
    else String.ofList (t.take whole ++ '.' :: t.drop whole)
  else String.ofList (['0', '.'] ++ zeros ((-k).toNat - 1) ++ t)

/-- Text with an exponent: the first digit, the others after a point if there are any, the
mark and the leading exponent. -/
def scientific (mark : String) (d : Decimal) : String :=
  let t := Nat.toDigits 10 d.digits
  let significand := if t.length ≤ 1 then t else t.take 1 ++ '.' :: t.drop 1
  String.ofList significand ++ mark ++ toString d.leadingExponent

end Decimal

namespace Binary64

def textWith (style : TextStyle) (x : Binary64) : String :=
  let sign (negative : Bool) := if negative then "-" else ""
  match x.value with
  | .nan _ _ => style.nanText
  | .infinite negative => sign negative ++ style.infinityText
  | .finite negative m q =>
    if m = 0 then sign negative ++ "0.0"
    else
      let d := shortestDecimal m q
      let k := d.leadingExponent
      if style.positionalMin ≤ k && k ≤ style.positionalMax then sign negative ++ d.positional
      else sign negative ++ d.scientific style.exponentMark

/-- The text of a double in labels and answers. -/
def toText (x : Binary64) : String := x.textWith TextStyle.roundTrip

end Binary64

end DatatypeLowering.Ieee
