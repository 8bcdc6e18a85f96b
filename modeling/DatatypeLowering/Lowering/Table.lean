import DatatypeLowering.Lowering.Key
/-!
# Lowering tables

A lowering table knows the custom types and the lowering functions. Each custom type has a name
and a code, and registration keeps both unique, so names and codes correspond one to one; native
codes cannot be registered. Lowering functions are kept per target and key: registering one
under a target and key that already have a function replaces that function, so a lookup finds
the last one registered. A function is found by its key, or by the lookup of the key's kind (casts,
float immediates, binary operations) given the key's codes.

The table is generic in what a lowering function is; the pass only needs a way to apply it.
Entries are kept in the order they were first registered.
-/

namespace DatatypeLowering

/-- Why a custom type cannot be registered. -/
inductive RegistrationError where
  | reservedTypeCode (code : TypeCode)
  | duplicateTypeName (name : String) (code : TypeCode)
  | duplicateTypeCode (code : TypeCode) (name : String)
deriving DecidableEq, Repr

def RegistrationError.message : RegistrationError → String
  | .reservedTypeCode code => "type code " ++ code.display ++ " is reserved for native types"
  | .duplicateTypeName name code =>
    "custom type " ++ quotedName name ++ " is already registered with code " ++ code.display
  | .duplicateTypeCode code name =>
    "type code " ++ code.display ++ " is already registered as " ++ quotedName name
where
  quotedName (name : String) : String := "'" ++ name ++ "'"

/-- A lowering function registered for a target and key. -/
structure LoweringEntry (α : Type) where
  target : String
  key : LoweringKey
  fn : α

def LoweringEntry.matches {α : Type} (e : LoweringEntry α) (target : String)
    (key : LoweringKey) : Bool :=
  e.target == target && e.key == key

/-- Custom types, as name and code in registration order, and lowering functions, in order of
first registration. -/
structure LoweringTable (α : Type) where
  types : List (String × TypeCode)
  lowerings : List (LoweringEntry α)

namespace LoweringTable

variable {α : Type}

def empty : LoweringTable α := ⟨[], []⟩

def typeCode? (t : LoweringTable α) (name : String) : Option TypeCode :=
  (t.types.find? (·.1 == name)).map (·.2)

def typeName? (t : LoweringTable α) (code : TypeCode) : Option String :=
  (t.types.find? (·.2 == code)).map (·.1)

def isRegistered (t : LoweringTable α) (code : TypeCode) : Bool :=
  t.types.any (·.2 == code)

/-- Registers a custom type. A native code is refused first, then a name in use, then a code in
use. -/
def registerType (t : LoweringTable α) (name : String) (code : TypeCode) :
    Except RegistrationError (LoweringTable α) :=
  if code.isNative then .error (.reservedTypeCode code)
  else
    match t.typeCode? name with
    | some existing => .error (.duplicateTypeName name existing)
    | none =>
      match t.typeName? code with
      | some existing => .error (.duplicateTypeCode code existing)
      | none => .ok { t with types := t.types ++ [(name, code)] }

/-- The function registered for a target and key. -/
def lookup? (t : LoweringTable α) (target : String) (key : LoweringKey) : Option α :=
  (t.lowerings.find? (·.matches target key)).map (·.fn)

/-- The function lowering casts to `dst` from `src` for a target. -/
def lookupCast? (t : LoweringTable α) (target : String) (dst src : TypeCode) : Option α :=
  t.lookup? target (.cast dst src)

/-- The function lowering float immediates of a code for a target. -/
def lookupImmediate? (t : LoweringTable α) (target : String) (code : TypeCode) : Option α :=
  t.lookup? target (.floatImm code)

/-- The function lowering binary operations by `op` whose result has a code, for a target. -/
def lookupOp? (t : LoweringTable α) (target : String) (op : BinaryOp) (code : TypeCode) :
    Option α :=
  t.lookup? target (.binary op code)

/-- The function for a key, asked of the lookup of the key's kind with the key's codes. -/
def lookupByKind? (t : LoweringTable α) (target : String) : LoweringKey → Option α
  | .cast dst src => t.lookupCast? target dst src
  | .floatImm code => t.lookupImmediate? target code
  | .binary op code => t.lookupOp? target op code

/-- Registers a function for a target and key, replacing the one registered before. -/
def register (t : LoweringTable α) (target : String) (key : LoweringKey) (fn : α) :
    LoweringTable α :=
  if t.lowerings.any (·.matches target key) then
    { t with
      lowerings := t.lowerings.map fun e => if e.matches target key then { e with fn := fn } else e }
  else { t with lowerings := t.lowerings ++ [⟨target, key, fn⟩] }

/-- The number of (target, key) pairs with a function. -/
def len (t : LoweringTable α) : Nat := t.lowerings.length

def isEmpty (t : LoweringTable α) : Bool := t.len == 0

end LoweringTable

end DatatypeLowering
