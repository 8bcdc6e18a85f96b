import DatatypeLowering.Json.Numeral
/-!
# Reading a JSON text

`Value.read` reads one JSON value from a text, with blanks (space, tab, line feed, carriage
return) allowed around every token, and refuses anything after the value but blanks.

Strings may not hold control characters below `U+0020`; they take the escapes `\" \\ \/ \b \f
\n \r \t` and `\uXXXX`, where a surrogate must be a leading one followed at once by an escaped
trailing one. Arrays and objects may nest to any depth. Of the refusals, the one raised is the
first the reader meets going from left to right; its place is described in `Json.Error`.

Every three nested calls of the reader take at least one character, so four times the length of
the text, plus four, is enough fuel; a reader out of fuel refuses as at the end of the text.
-/

namespace DatatypeLowering.Json

def isBlank (c : Char) : Bool := c == ' ' || c == '\n' || c == '\t' || c == '\r'

def skipBlank (cs : List Char) : List Char := cs.dropWhile isBlank

def expectWord : List Char → List Char → Reading Unit
  | [], rest => Except.ok ((), rest)
  | _ :: _, [] => refuse .eofWhileParsingValue []
  | w :: ws, c :: rest => if c == w then expectWord ws rest else refuse .expectedSomeIdent rest

def hexDigit? (c : Char) : Option Nat :=
  if c.isDigit then some (c.toNat - '0'.toNat)
  else if 'a' ≤ c ∧ c ≤ 'f' then some (c.toNat - 'a'.toNat + 10)
  else if 'A' ≤ c ∧ c ≤ 'F' then some (c.toNat - 'A'.toNat + 10)
  else none

/-- The four digits of a `\u` escape. The reader takes four bytes whatever they are, so a text
with fewer left ends the string, and four bytes that are not all hexadecimal digits are an invalid
escape placed after them. -/
def hexEscape (rest : List Char) : Reading Nat :=
  let size := utf8Length rest
  if size < 4 then refuse .eofWhileParsingString []
  else
    match rest with
    | a :: b :: c :: d :: r =>
      match hexDigit? a, hexDigit? b, hexDigit? c, hexDigit? d with
      | some a, some b, some c, some d => Except.ok (((a * 16 + b) * 16 + c) * 16 + d, r)
      | _, _, _, _ => Except.error ⟨.invalidEscape, size - 4, false⟩
    | _ => Except.error ⟨.invalidEscape, size - 4, false⟩

def isLeadingSurrogate (n : Nat) : Bool := 0xD800 ≤ n && n ≤ 0xDBFF

def isTrailingSurrogate (n : Nat) : Bool := 0xDC00 ≤ n && n ≤ 0xDFFF

/-- Refuses the byte that should have continued a surrogate pair: the reader takes that one
byte, so the place is after it. -/
def refuseUnpaired {α : Type} (rest : List Char) : Reading α :=
  Except.error ⟨.unexpectedEndOfHexEscape, utf8Length rest - 1, false⟩

/-- The character of a `\u` escape, after the `u`; a leading surrogate takes the escaped trailing
surrogate that must follow it. -/
def unicodeEscape (rest : List Char) : Reading Char :=
  match hexEscape rest with
  | .error f => Except.error f
  | .ok (n, r) =>
    if isTrailingSurrogate n then refuse .loneLeadingSurrogateInHexEscape r
    else if !isLeadingSurrogate n then Except.ok (Char.ofNat n, r)
    else
      match r with
      | [] => refuse .eofWhileParsingString []
      | '\\' :: r1 =>
        match r1 with
        | [] => refuse .eofWhileParsingString []
        | 'u' :: r2 =>
          match hexEscape r2 with
          | .error f => Except.error f
          | .ok (m, r3) =>
            if isTrailingSurrogate m then
              Except.ok (Char.ofNat (0x10000 + (n - 0xD800) * 0x400 + (m - 0xDC00)), r3)
            else refuse .loneLeadingSurrogateInHexEscape r3
        | _ => refuseUnpaired r1
      | _ => refuseUnpaired r

def escape : List Char → Reading Char
  | [] => refuse .eofWhileParsingString []
  | c :: rest =>
    match c with
    | '\"' => Except.ok ('\"', rest)
    | '\\' => Except.ok ('\\', rest)
    | '/' => Except.ok ('/', rest)
    | 'b' => Except.ok (Char.ofNat 8, rest)
    | 'f' => Except.ok (Char.ofNat 12, rest)
    | 'n' => Except.ok ('\n', rest)
    | 'r' => Except.ok ('\r', rest)
    | 't' => Except.ok ('\t', rest)
    | 'u' => unicodeEscape rest
    | _ => refuse .invalidEscape rest

/-- The characters of a string up to its closing quote, appended to `acc`. -/
def stringBody : Nat → List Char → String → Reading String
  | 0, _, _ => refuse .eofWhileParsingString []
  | _ + 1, [], _ => refuse .eofWhileParsingString []
  | fuel + 1, c :: rest, acc =>
    if c == '\"' then Except.ok (acc, rest)
    else if c == '\\' then
      match escape rest with
      | .ok (e, r) => stringBody fuel r (acc.push e)
      | .error f => Except.error f
    else if c.toNat < 0x20 then refuse .controlCharacterWhileParsingString rest
    else stringBody fuel rest (acc.push c)

def readString (rest : List Char) : Reading String := stringBody (rest.length + 1) rest ""

mutual

def readValue (fuel : Nat) (cs : List Char) : Reading Value :=
  match fuel with
  | 0 => refuseAt .eofWhileParsingValue []
  | fuel + 1 =>
    let cs := skipBlank cs
    match cs with
    | [] => refuseAt .eofWhileParsingValue []
    | c :: rest =>
      if c == 'n' then (expectWord ['u', 'l', 'l'] rest).map fun (_, r) => (Value.null, r)
      else if c == 't' then (expectWord ['r', 'u', 'e'] rest).map fun (_, r) => (Value.bool true, r)
      else if c == 'f' then
        (expectWord ['a', 'l', 's', 'e'] rest).map fun (_, r) => (Value.bool false, r)
      else if c == '-' then (readNumber false rest).map fun (n, r) => (Value.number n, r)
      else if c.isDigit then (readNumber true cs).map fun (n, r) => (Value.number n, r)
      else if c == '\"' then (readString rest).map fun (s, r) => (Value.string s, r)
      else if c == '[' then
        readItems fuel true rest []
      else if c.toNat == 123 then
        readFields fuel true rest []
      else refuseAt .expectedSomeValue cs
termination_by structural fuel

/-- The items of an array after its opening bracket, `acc` holding those read, last first. -/
def readItems (fuel : Nat) (first : Bool) (cs : List Char) (acc : List Value) :
    Reading Value :=
  match fuel with
  | 0 => refuseAt .eofWhileParsingList []
  | fuel + 1 =>
    let cs := skipBlank cs
    match cs with
    | [] => refuseAt .eofWhileParsingList []
    | c :: rest =>
      if c == ']' then Except.ok (.array acc.reverse, rest)
      else if c == ',' && !first then
        match skipBlank rest with
        | [] => refuseAt .eofWhileParsingValue []
        | ']' :: r => refuseAt .trailingComma (']' :: r)
        | r => readItem fuel r acc
      else if first then readItem fuel cs acc
      else refuseAt .expectedListCommaOrEnd cs
termination_by structural fuel

def readItem (fuel : Nat) (cs : List Char) (acc : List Value) : Reading Value :=
  match fuel with
  | 0 => refuseAt .eofWhileParsingList []
  | fuel + 1 =>
    match readValue fuel cs with
    | .ok (v, r) => readItems fuel false r (v :: acc)
    | .error f => Except.error f
termination_by structural fuel

/-- The fields of an object after its opening brace. -/
def readFields (fuel : Nat) (first : Bool) (cs : List Char)
    (acc : List (String × Value)) : Reading Value :=
  match fuel with
  | 0 => refuseAt .eofWhileParsingObject []
  | fuel + 1 =>
    let cs := skipBlank cs
    match cs with
    | [] => refuseAt .eofWhileParsingObject []
    | c :: rest =>
      if c.toNat == 125 then Except.ok (.object acc, rest)
      else if c == ',' && !first then
        match skipBlank rest with
        | [] => refuseAt .eofWhileParsingValue []
        | d :: r =>
          if d == '\"' then readField fuel r acc
          else if d.toNat == 125 then refuseAt .trailingComma (d :: r)
          else refuseAt .keyMustBeAString (d :: r)
      else if first then
        if c == '\"' then readField fuel rest acc else refuseAt .keyMustBeAString cs
      else refuseAt .expectedObjectCommaOrEnd cs
termination_by structural fuel

/-- One field of an object after the opening quote of its key, then the fields after it. -/
def readField (fuel : Nat) (cs : List Char) (acc : List (String × Value)) :
    Reading Value :=
  match fuel with
  | 0 => refuseAt .eofWhileParsingObject []
  | fuel + 1 =>
    match readString cs with
    | .error f => Except.error f
    | .ok (k, r) =>
      match skipBlank r with
      | ':' :: r1 =>
        match readValue fuel r1 with
        | .ok (v, r2) => readFields fuel false r2 (insertField k v acc)
        | .error f => Except.error f
      | [] => refuseAt .eofWhileParsingObject []
      | r1 => refuseAt .expectedColon r1
termination_by structural fuel

end

/-- Reads a whole text as one JSON value. -/
def Value.read (text : String) : Except ReadError Value :=
  let cs := text.toList
  match readValue (4 * cs.length + 4) cs with
  | .error f => .error (f.locate cs)
  | .ok (v, rest) =>
    match skipBlank rest with
    | [] => .ok v
    | r => .error (Fault.locate ⟨.trailingCharacters, utf8Length r, true⟩ cs)

end DatatypeLowering.Json
