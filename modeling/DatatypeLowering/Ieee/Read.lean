import DatatypeLowering.Ieee.Binary64
/-!
# Reading a double

The numerals read are an optional sign, then either one of the words `inf`, `infinity` and
`nan` in any case of letters, or digits with an optional fractional part after a point and an
optional exponent after `e` or `E`. There is at least one digit before or after the point, the
exponent has at least one digit after its optional sign, and nothing else may follow: no blanks
and no separators.

A numeral reads as the double nearest to its exact value, a tie to even; a value too large
becomes an infinity and one too small a zero, both of the numeral's sign. `nan` reads as the
default quiet NaN, with the sign bit set when a minus sign precedes it.
-/

namespace DatatypeLowering.Ieee

/-- A numeral, before rounding. -/
inductive Numeral where
  | finite (negative : Bool) (mantissa : Nat) (exponent : Int)
  | infinity (negative : Bool)
  | nan (negative : Bool)
deriving DecidableEq, Repr

def digitsValue (ds : List Char) : Nat :=
  ds.foldl (fun n c => 10 * n + (c.toNat - '0'.toNat)) 0

namespace Numeral

/-- Reads an exponent: an optional sign and at least one digit, with nothing after them. -/
def exponent? (cs : List Char) : Option Int :=
  let (negative, rest) :=
    match cs with
    | '+' :: r => (false, r)
    | '-' :: r => (true, r)
    | r => (false, r)
  if rest.isEmpty || !rest.all Char.isDigit then none
  else
    let n : Int := digitsValue rest
    some (if negative then -n else n)

/-- Reads the unsigned part of a numeral made of digits. -/
def unsignedDigits? (negative : Bool) (cs : List Char) : Option Numeral :=
  let (whole, afterWhole) := cs.span Char.isDigit
  let (fraction, afterFraction) :=
    match afterWhole with
    | '.' :: r => r.span Char.isDigit
    | r => ([], r)
  let exponent :=
    match afterFraction with
    | [] => some 0
    | c :: r => if c == 'e' || c == 'E' then exponent? r else none
  if whole.isEmpty && fraction.isEmpty then none
  else exponent.map fun e =>
    .finite negative (digitsValue (whole ++ fraction)) (e - fraction.length)

def word? (negative : Bool) (cs : List Char) : Option Numeral :=
  match String.ofList (cs.map Char.toLower) with
  | "inf" => some (.infinity negative)
  | "infinity" => some (.infinity negative)
  | "nan" => some (.nan negative)
  | _ => none

def ofString? (s : String) : Option Numeral :=
  let (negative, body) :=
    match s.toList with
    | '+' :: r => (false, r)
    | '-' :: r => (true, r)
    | r => (false, r)
  if body.isEmpty then none
  else
    match unsignedDigits? negative body with
    | some n => some n
    | none => word? negative body

/-- The double nearest to the numeral. Values of `10^310` and more overflow and values below
`10^-324`, less than half the least subnormal, vanish before any power is computed. -/
def toBinary64 : Numeral → Binary64
  | .nan negative => if negative then Binary64.nan.negate else Binary64.nan
  | .infinity negative =>
    if negative then Binary64.infinity.negate else Binary64.infinity
  | .finite negative mantissa exponent =>
    let top := exponent + (Nat.toDigits 10 mantissa).length
    if mantissa = 0 || top ≤ -324 then Binary64.ofRational negative 0 1
    else if 310 ≤ top then
      if negative then Binary64.infinity.negate else Binary64.infinity
    else if 0 ≤ exponent then
      Binary64.ofRational negative (mantissa * Nat.pow 10 exponent.toNat) 1
    else Binary64.ofRational negative mantissa (Nat.pow 10 (-exponent).toNat)

end Numeral

/-- Reads a double from a numeral, or `none` when the text is not one. -/
def Binary64.ofString? (s : String) : Option Binary64 :=
  (Numeral.ofString? s).map Numeral.toBinary64

end DatatypeLowering.Ieee
