/-!
# Why a JSON text is refused, and where

A refusal names its cause and a place: a line, counted from 1, and a column, the number of bytes
of that line before the place. The place is either just after the last character the reader
took, or just after the first byte of the character it looked at and did not take; both are
recorded here as the number of bytes of the text not yet taken and whether the reader stopped at
a character it only looked at.

The message is the cause followed by ` at line L column C`.
-/

namespace DatatypeLowering.Json

/-- The causes of a refusal. -/
inductive SyntaxError where
  | eofWhileParsingList
  | eofWhileParsingObject
  | eofWhileParsingString
  | eofWhileParsingValue
  | expectedColon
  | expectedListCommaOrEnd
  | expectedObjectCommaOrEnd
  | expectedSomeIdent
  | expectedSomeValue
  | invalidEscape
  | invalidNumber
  | numberOutOfRange
  | controlCharacterWhileParsingString
  | keyMustBeAString
  | loneLeadingSurrogateInHexEscape
  | trailingComma
  | trailingCharacters
  | unexpectedEndOfHexEscape
deriving DecidableEq, Repr

def SyntaxError.description : SyntaxError → String
  | .eofWhileParsingList => "EOF while parsing a list"
  | .eofWhileParsingObject => "EOF while parsing an object"
  | .eofWhileParsingString => "EOF while parsing a string"
  | .eofWhileParsingValue => "EOF while parsing a value"
  | .expectedColon => "expected `:`"
  | .expectedListCommaOrEnd => "expected `,` or `]`"
  | .expectedObjectCommaOrEnd => "expected `,` or `\x7d`"
  | .expectedSomeIdent => "expected ident"
  | .expectedSomeValue => "expected value"
  | .invalidEscape => "invalid escape"
  | .invalidNumber => "invalid number"
  | .numberOutOfRange => "number out of range"
  | .controlCharacterWhileParsingString =>
    "control character (\\u0000-\\u001F) found while parsing a string"
  | .keyMustBeAString => "key must be a string"
  | .loneLeadingSurrogateInHexEscape => "lone leading surrogate in hex escape"
  | .trailingComma => "trailing comma"
  | .trailingCharacters => "trailing characters"
  | .unexpectedEndOfHexEscape => "unexpected end of hex escape"

/-- A refusal as the reader raises it, before its place is turned into a line and column. -/
structure Fault where
  cause : SyntaxError
  left : Nat
  atNext : Bool
deriving Repr

/-- A refusal with its place. -/
structure ReadError where
  cause : SyntaxError
  line : Nat
  column : Nat
deriving DecidableEq, Repr

/-- The text of a refusal: the cause, the line and the column. -/
def ReadError.message (e : ReadError) : String :=
  e.cause.description ++ " at line " ++ toString e.line ++ " column " ++ toString e.column

/-- The bytes of the UTF-8 encoding of some characters. -/
def utf8Length (cs : List Char) : Nat := cs.foldl (fun n c => n + c.utf8Size) 0

/-- The line and column of the byte offset `offset` of a text: the line holds the offset, and
the column counts the bytes from the start of that line to the offset. -/
def lineAndColumn (cs : List Char) (offset : Nat) : Nat × Nat :=
  go cs 0 1 0
where
  go : List Char → Nat → Nat → Nat → Nat × Nat
    | c :: rest, pos, line, start =>
      if pos < offset then
        if c == '\n' then go rest (pos + 1) (line + 1) (pos + 1)
        else go rest (pos + c.utf8Size) line start
      else (line, offset - start)
    | [], _, line, start => (line, offset - start)

def Fault.locate (f : Fault) (cs : List Char) : ReadError :=
  let size := utf8Length cs
  let taken := size - f.left
  let offset := if f.atNext then min size (taken + 1) else taken
  let (line, column) := lineAndColumn cs offset
  ⟨f.cause, line, column⟩

end DatatypeLowering.Json
