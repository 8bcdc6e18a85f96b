import DatatypeLowering.Ir.Rewrite
import DatatypeLowering.Lowering.Table
/-!
# The lowering pass

The pass rewrites a tree bottom-up (`Ir.Rewrite`) for one target, so that a lowering function
always receives a node whose operands are already lowered. Whether a node is lowered is decided
on the node as it was before its children were rewritten:

* a cast, when its own code or its source's code is a registered custom type: by the function
  registered under both codes;
* a float immediate or a binary operation, when its own code is registered: by the function
  registered under that code (and the operator); the operands' codes play no part;
* a load of a registered code: retyped to unsigned storage of the same width, one lane;
* an allocation whose element code is registered: retyped to unsigned storage of the same width
  and lanes.

Nothing else is lowered, but the children of every node are. A lookup that finds no function
stops the pass with `LowerError.missingFunction` for that node, the first such in post-order.

The pass keeps a journal of what it did: every lookup, with whether it found a function, every
application of a function, and every retyped load and allocation.
-/

namespace DatatypeLowering

/-- Why lowering fails: a node needs a function that the table lacks for the target, or a
lowered tree still has a node of a registered custom type, `node` being its label. -/
inductive LowerError where
  | missingFunction (target : String) (key : LoweringKey)
  | unloweredCustomType (target : String) (dtype : DataType) (node : String)
deriving DecidableEq, Repr

def LowerError.message : LowerError → String
  | .missingFunction target key =>
    key.kind ++ " lowering function for target " ++ target ++ " " ++ key.describeTypes ++
      " not found"
  | .unloweredCustomType target dtype node =>
    "custom type " ++ dtype.display ++ " survived lowering for target " ++ target ++ " at " ++
      node

/-- How a node is lowered: by the function registered under a key, or by retyping a load to
unsigned storage. -/
inductive Trigger where
  | function (key : LoweringKey)
  | storageLoad
deriving DecidableEq, Repr

/-- One thing the pass did: a lookup of the function for a target and key, with whether it found
one; the function `fn`, registered under `key`, replacing `node` by `replacement`; a load or an
allocation retyped, with its type before and after. -/
inductive Step (α : Type) where
  | lookup (target : String) (key : LoweringKey) (found : Bool)
  | lowered (key : LoweringKey) (fn : α) (node replacement : Expr)
  | retypedLoad (before after : DataType)
  | retypedAllocation (before after : DataType)

/-- What the pass did, in order. -/
abbrev Journal (α : Type) := List (Step α)

namespace Step

variable {α : Type}

/-- The steps that lower a node: all but lookups. -/
def isLowering : Step α → Bool
  | lookup .. => false
  | _ => true

end Step

/-- The number of nodes lowered: function applications and retypes. -/
def Journal.loweredCount {α : Type} (j : Journal α) : Nat := (j.filter Step.isLowering).length

/-- The trigger of an expression node under a table, if it is lowered. -/
def LoweringTable.trigger {α : Type} (t : LoweringTable α) : Expr → Option Trigger
  | .cast dtype src =>
    if t.isRegistered dtype.code || t.isRegistered src.dtype.code then
      some (.function (.cast dtype.code src.dtype.code))
    else none
  | .floatImm dtype _ =>
    if t.isRegistered dtype.code then some (.function (.floatImm dtype.code)) else none
  | .binary op dtype _ _ =>
    if t.isRegistered dtype.code then some (.function (.binary op dtype.code)) else none
  | .load dtype .. => if t.isRegistered dtype.code then some .storageLoad else none
  | _ => none

/-- A lowering for one target: the table, the target, and how a registered function applies
to a node. -/
structure Lowerer (α : Type) where
  table : LoweringTable α
  target : String
  apply : α → Expr → Expr

/-- The pass's effects: a journal, and a failure that stops it. -/
abbrev LowerM (α : Type) := ExceptT LowerError (StateM (Journal α))

namespace Lowerer

variable {α : Type}

def record (s : Step α) : LowerM α Unit := modify (· ++ [s])

/-- Lowers a node by the function registered under `key`, or fails if there is none. -/
def applyFunction (L : Lowerer α) (key : LoweringKey) (rebuilt : Expr) : LowerM α Expr :=
  match L.table.lookup? L.target key with
  | none => do
    record (.lookup L.target key false)
    throw (.missingFunction L.target key)
  | some fn => do
    record (.lookup L.target key true)
    let replacement := L.apply fn rebuilt
    record (.lowered key fn rebuilt replacement)
    pure replacement

/-- The expression hook: lowers the rebuilt node when the given one triggers. -/
def lowerExprNode (L : Lowerer α) (given rebuilt : Expr) : LowerM α Expr :=
  match L.table.trigger given with
  | none => pure rebuilt
  | some (.function key) => L.applyFunction key rebuilt
  | some .storageLoad => do
    let storage := DataType.uint rebuilt.dtype.bits
    record (.retypedLoad rebuilt.dtype storage)
    pure (rebuilt.withDtype storage)

/-- The statement hook: retypes an allocation of a registered element code. -/
def lowerStmtNode (L : Lowerer α) (given rebuilt : Stmt) : LowerM α Stmt :=
  match given with
  | .allocate _ dtype .. =>
    if L.table.isRegistered dtype.code then do
      record (.retypedAllocation dtype dtype.storage)
      pure (rebuilt.withAllocateDtype dtype.storage)
    else pure rebuilt
  | _ => pure rebuilt

def rewriter (L : Lowerer α) : Rewriter (LowerM α) := ⟨L.lowerExprNode, L.lowerStmtNode⟩

def runExpr (L : Lowerer α) (e : Expr) : Except LowerError Expr × Journal α :=
  ((e.rewrite L.rewriter).run).run []

def runStmt (L : Lowerer α) (s : Stmt) : Except LowerError Stmt × Journal α :=
  ((s.rewrite L.rewriter).run).run []

def runFunc (L : Lowerer α) (f : Func) : Except LowerError Func × Journal α :=
  ((f.rewrite L.rewriter).run).run []

end Lowerer

end DatatypeLowering
