import DatatypeLowering.Ieee.Arith
/-!
# JSON values

A request arrives as a JSON document. Its numbers are kept in three classes, decided when the
text is read: a non-negative integer of at most 64 bits, a negative integer of at most 64 bits,
and every other number, rounded to a double. An integer field accepts the first two classes
only, so `100.0` is not an integer even though its value is.

An object keeps one value per key, the last one written, and lists its keys in increasing order
whatever order the text gave them in.
-/

namespace DatatypeLowering.Json

open Ieee

/-- A number of a document, classified when it is read: a non-negative integer below `2^64` or a
negative one from `-2^63`, written without point or exponent, or else the double the reader
computed. -/
inductive Number where
  | natural (n : Nat)
  | negative (n : Int)
  | float (x : Binary64)
deriving Repr

namespace Number

/-- The integer a number holds, for the two integer classes. -/
def integer? : Number → Option Int
  | natural n => some n
  | negative n => some n
  | float _ => none

/-- The number as a double: an integer rounds to the nearest double. -/
def toBinary64 : Number → Binary64
  | natural n => Binary64.ofRational false n 1
  | negative n => Binary64.ofRational true n.natAbs 1
  | float x => x

end Number

/-- A JSON value. -/
inductive Value where
  | null
  | bool (b : Bool)
  | number (n : Number)
  | string (s : String)
  | array (items : List Value)
  | object (fields : List (String × Value))
deriving Inhabited, Repr

/-- Adds a field to fields in increasing order of keys; a field of the same key is replaced. -/
def insertField (k : String) (v : Value) : List (String × Value) → List (String × Value)
  | [] => [(k, v)]
  | (k', v') :: rest =>
    if k = k' then (k, v) :: rest
    else if k < k' then (k, v) :: (k', v') :: rest
    else (k', v') :: insertField k v rest

namespace Value

def get? (w : Value) (k : String) : Option Value :=
  match w with
  | object fs => fs.lookup k
  | _ => none

def integer? : Value → Option Int
  | number n => n.integer?
  | _ => none

end Value

end DatatypeLowering.Json
