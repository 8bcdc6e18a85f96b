import DatatypeLowering.Json.Error
import DatatypeLowering.Json.Value
/-!
# Reading a JSON number

A number is an optional minus sign, an integer part that is `0` or starts with a nonzero digit,
an optional fraction after a point with at least one digit, and an optional exponent after `e`
or `E` with an optional sign and at least one digit.

Its value is computed the way a fast decimal reader does it, which is not always the double
nearest to the text:

* the digits are taken into a 64-bit significand while they fit; further digits of the integer
  part raise the decimal exponent by one each, and further digits of the fraction are dropped;
* the significand becomes the nearest double, which is then multiplied or divided once by the
  double nearest to `10^|e|`; past `10^308` it is first divided by `10^308` as often as needed;
* a product that overflows is refused as out of range, and so is an exponent past the largest
  32-bit integer unless the significand is zero or the exponent negative, which give zero.

An integer without point or exponent is kept exactly when it fits: a non-negative one up to
`2^64 - 1`, a negative one down to `-2^63`. `-0` is the double negative zero.
-/

namespace DatatypeLowering.Json

open Ieee

/-- What reading a part of a text gives: a result and the characters after it, or a refusal. -/
abbrev Reading (α : Type) := Except Fault (α × List Char)

/-- Refuses just after the characters taken so far; `rest` is what follows them. -/
def refuse {α : Type} (cause : SyntaxError) (rest : List Char) : Reading α :=
  Except.error ⟨cause, utf8Length rest, false⟩

/-- Refuses at the first character of `rest`, which the reader looked at without taking. -/
def refuseAt {α : Type} (cause : SyntaxError) (rest : List Char) : Reading α :=
  Except.error ⟨cause, utf8Length rest, true⟩

def digitValue (c : Char) : Nat := c.toNat - '0'.toNat

def maxSignificand : Nat := 18446744073709551615

def maxExponent : Nat := 2147483647

def isExponentMark (c : Char) : Bool := c == 'e' || c == 'E'

def tenTo (k : Nat) : Binary64 := Binary64.ofNatValue (Nat.pow 10 k)

/-- `f * 10^e` by one rounded multiplication or division, dividing by `10^308` first while the
power is past `10^308`; `none` when the result overflows. -/
def scaleByTen (f : Binary64) (e : Int) : Option Binary64 :=
  if e.natAbs ≤ 308 then
    if 0 ≤ e then
      let g := f.mul (tenTo e.toNat)
      if g.isInfinite then none else some g
    else some (f.div (tenTo e.natAbs))
  else if f.isZero then some f
  else if 0 ≤ e then none
  else scaleByTen (f.div (tenTo 308)) (e + 308)
termination_by e.natAbs
decreasing_by omega

/-- The number `±significand * 10^exponent`, or a refusal when it overflows. -/
def fromParts (positive : Bool) (significand : Nat) (exponent : Int) (rest : List Char) :
    Reading Number :=
  match scaleByTen (Binary64.ofNatValue significand) exponent with
  | some f => Except.ok (.float (if positive then f else f.negate), rest)
  | none => refuse .numberOutOfRange rest

/-- An exponent past the bound, after its last digit taken: out of range for a nonzero
significand and a positive exponent, and otherwise a zero once the remaining digits are
skipped. -/
def exponentOverflow (positive zeroSignificand positiveExponent : Bool) (rest : List Char) :
    Reading Number :=
  if !zeroSignificand && positiveExponent then refuse .numberOutOfRange rest
  else
    Except.ok (.float (if positive then Binary64.zero else Binary64.zero.negate),
      rest.dropWhile Char.isDigit)

/-- Clamps an exponent to 32-bit signed range. -/
def saturate (e : Int) : Int := max (-(maxExponent : Int) - 1) (min maxExponent e)

/-- The digits of an exponent after its first, accumulated in `e`. -/
def exponentDigits (positive positiveExponent : Bool) (significand : Nat) (start : Int) :
    Nat → List Char → Reading Number
  | e, c :: rest =>
    if c.isDigit then
      let e' := e * 10 + digitValue c
      if maxExponent < e' then exponentOverflow positive (significand == 0) positiveExponent rest
      else exponentDigits positive positiveExponent significand start e' rest
    else
      fromParts positive significand
        (saturate (if positiveExponent then start + e else start - e)) (c :: rest)
  | e, [] =>
    fromParts positive significand (saturate (if positiveExponent then start + e else start - e))
      []

/-- An exponent, after its mark: an optional sign, then at least one digit. -/
def exponentPart (positive : Bool) (significand : Nat) (start : Int) (rest : List Char) :
    Reading Number :=
  let (positiveExponent, rest) :=
    match rest with
    | '+' :: r => (true, r)
    | '-' :: r => (false, r)
    | r => (true, r)
  match rest with
  | [] => refuse .eofWhileParsingValue []
  | c :: r =>
    if c.isDigit then exponentDigits positive positiveExponent significand start (digitValue c) r
    else refuse .invalidNumber r

def afterDigits (positive : Bool) (significand : Nat) (exponent : Int) (rest : List Char) :
    Reading Number :=
  match rest with
  | c :: r =>
    if isExponentMark c then exponentPart positive significand exponent r
    else fromParts positive significand exponent rest
  | [] => fromParts positive significand exponent []

/-- The digits of a fraction, taken into the significand while it fits, each lowering the
exponent; after the significand is full the remaining digits are skipped. `taken` says whether a
digit has been taken after the point. -/
def fractionDigits (positive : Bool) (exponent : Int) (significand : Nat) (taken : Bool) :
    List Char → Reading Number
  | c :: rest =>
    if c.isDigit then
      if maxSignificand < significand * 10 + digitValue c then
        afterDigits positive significand exponent ((c :: rest).dropWhile Char.isDigit)
      else fractionDigits positive (exponent - 1) (significand * 10 + digitValue c) true rest
    else if taken then afterDigits positive significand exponent (c :: rest)
    else refuseAt .invalidNumber (c :: rest)
  | [] =>
    if taken then afterDigits positive significand exponent []
    else refuseAt .eofWhileParsingValue []

/-- The digits of the integer part once the significand is full: each raises the exponent. -/
def extraDigits (positive : Bool) (significand : Nat) : Int → List Char → Reading Number
  | e, c :: rest =>
    if c.isDigit then extraDigits positive significand (e + 1) rest
    else if c == '.' then fractionDigits positive e significand false rest
    else afterDigits positive significand e (c :: rest)
  | e, [] => fromParts positive significand e []

/-- An integer without point or exponent: exact when it fits its class, else a double. -/
def integerValue (positive : Bool) (n : Nat) : Number :=
  if positive then .natural n
  else if 0 < n ∧ n ≤ maxSignificand / 2 + 1 then .negative (-(n : Int))
  else .float (Binary64.ofNatValue n).negate

/-- What follows the integer part: a fraction, an exponent, or the end of an integer. -/
def afterInteger (positive : Bool) (significand : Nat) (rest : List Char) : Reading Number :=
  match rest with
  | '.' :: r => fractionDigits positive 0 significand false r
  | c :: r =>
    if isExponentMark c then exponentPart positive significand 0 r
    else Except.ok (integerValue positive significand, rest)
  | [] => Except.ok (integerValue positive significand, [])

/-- The digits of the integer part after its first, taken while the significand fits. -/
def integerDigits (positive : Bool) : Nat → List Char → Reading Number
  | n, c :: rest =>
    if c.isDigit then
      if maxSignificand < n * 10 + digitValue c then extraDigits positive n 0 (c :: rest)
      else integerDigits positive (n * 10 + digitValue c) rest
    else afterInteger positive n (c :: rest)
  | n, [] => afterInteger positive n []

/-- A number, after its minus sign if it has one: `0` alone, or a nonzero digit and more. -/
def readNumber (positive : Bool) : List Char → Reading Number
  | [] => refuse .eofWhileParsingValue []
  | c :: rest =>
    if c == '0' then
      match rest with
      | d :: _ => if d.isDigit then refuseAt .invalidNumber rest else afterInteger positive 0 rest
      | [] => afterInteger positive 0 []
    else if c.isDigit then integerDigits positive (digitValue c) rest
    else refuse .invalidNumber rest

end DatatypeLowering.Json
