import DatatypeLowering.Ieee.Binary64
import DatatypeLowering.Ir.Error
/-!
# Expressions

An expression is a tree of operations, and every node carries the type of the value it produces.
The leaves are variables and immediates (integers, unsigned integers and doubles, each with any
type, custom ones included); the inner nodes are casts, binary operations, selects, loads from a
buffer, broadcasts of a scalar to several lanes, and calls of named functions.

A node's *sources* are its operands in a fixed order, and `withSources` rebuilds the node over
new ones, keeping its own payload and type. The plain constructors take any types; the checked
ones (`checkedBinary`, `checkedSelect`, `checkedLoad`, `checkedBroadcast`) refuse operands whose
types do not fit and derive the result type where the operation fixes it.
-/

namespace DatatypeLowering

open Ieee

/-- A named variable of some type; buffers are variables holding handles. -/
structure Var where
  name : String
  dtype : DataType
deriving DecidableEq, Repr

/-- Expressions; every constructor fixes the type of its node. -/
inductive Expr where
  | var (dtype : DataType) (name : String)
  | intImm (dtype : DataType) (value : Int64)
  | uintImm (dtype : DataType) (value : UInt64)
  | floatImm (dtype : DataType) (value : Binary64)
  | cast (dtype : DataType) (src : Expr)
  | binary (op : BinaryOp) (dtype : DataType) (lhs rhs : Expr)
  | select (dtype : DataType) (cond onTrue onFalse : Expr)
  | load (dtype : DataType) (buffer : Var) (index predicate : Expr)
  | broadcast (dtype : DataType) (value : Expr)
  | call (dtype : DataType) (name : String) (args : List Expr)
deriving Repr

namespace Expr

def dtype : Expr → DataType
  | var t _ => t
  | intImm t _ => t
  | uintImm t _ => t
  | floatImm t _ => t
  | cast t _ => t
  | binary _ t _ _ => t
  | select t _ _ _ => t
  | load t _ _ _ => t
  | broadcast t _ => t
  | call t _ _ => t

def ofVar (v : Var) : Expr := var v.dtype v.name

/-- What a node is apart from its operands and its type: the operation with its payload. -/
inductive Head where
  | var (name : String)
  | intImm (value : Int64)
  | uintImm (value : UInt64)
  | floatImm (value : Binary64)
  | cast
  | binary (op : BinaryOp)
  | select
  | load (buffer : Var)
  | broadcast
  | call (name : String)
deriving DecidableEq, Repr

def head : Expr → Head
  | var _ name => .var name
  | intImm _ v => .intImm v
  | uintImm _ v => .uintImm v
  | floatImm _ v => .floatImm v
  | cast .. => .cast
  | binary op .. => .binary op
  | select .. => .select
  | load _ buffer _ _ => .load buffer
  | broadcast .. => .broadcast
  | call _ name _ => .call name

/-- The true predicate over the given number of lanes: the boolean immediate 1. -/
def allTrue (lanes : UInt16) : Expr := uintImm (DataType.bool.withLanes lanes) 1

/-- A node's operands, in order: a cast's source; the two sides of a binary operation; the
condition and both branches of a select; the index and predicate of a load; the broadcast value;
the arguments of a call. Leaves have none. -/
def sources : Expr → List Expr
  | var .. | intImm .. | uintImm .. | floatImm .. => []
  | cast _ src => [src]
  | binary _ _ lhs rhs => [lhs, rhs]
  | select _ cond onTrue onFalse => [cond, onTrue, onFalse]
  | load _ _ index predicate => [index, predicate]
  | broadcast _ value => [value]
  | call _ _ args => args

/-- The node rebuilt over new operands, with its payload and type kept; an error when their
number is not the node's. -/
def withSources (e : Expr) (srcs : List Expr) : Except ArityError Expr :=
  match e, srcs with
  | var .., [] | intImm .., [] | uintImm .., [] | floatImm .., [] => .ok e
  | cast t _, [src] => .ok (cast t src)
  | binary op t _ _, [lhs, rhs] => .ok (binary op t lhs rhs)
  | select t _ _ _, [cond, onTrue, onFalse] => .ok (select t cond onTrue onFalse)
  | load t buffer _ _, [index, predicate] => .ok (load t buffer index predicate)
  | broadcast t _, [value] => .ok (broadcast t value)
  | call t name args, srcs =>
    if srcs.length = args.length then .ok (call t name srcs) else .error .sources
  | _, _ => .error .sources

/-- Rebuilding succeeds exactly when the number of new operands is the node's; the rebuilt node
then has the new operands, the node's head and the node's type. -/
theorem withSources_map (e : Expr) (cs : List Expr) :
    (e.withSources cs).map (fun e' => (e'.sources, e'.head, e'.dtype)) =
      if cs.length = e.sources.length then .ok (cs, e.head, e.dtype) else .error .sources := by
  cases e with
  | call t name args =>
    by_cases h : cs.length = args.length <;> simp [withSources, sources, head, dtype, h, Except.map]
  | _ =>
    rcases cs with _ | ⟨a, _ | ⟨b, _ | ⟨c, _ | ⟨d, cs⟩⟩⟩⟩ <;>
      simp [withSources, sources, head, dtype, Except.map]

@[simp] theorem withSources_sources (e : Expr) : e.withSources e.sources = .ok e := by
  cases e <;> simp [withSources, sources]

/-- The same node with another type; the operation and operands are kept. -/
def withDtype (e : Expr) (t : DataType) : Expr :=
  match e with
  | var _ name => var t name
  | intImm _ v => intImm t v
  | uintImm _ v => uintImm t v
  | floatImm _ v => floatImm t v
  | cast _ src => cast t src
  | binary op _ lhs rhs => binary op t lhs rhs
  | select _ cond onTrue onFalse => select t cond onTrue onFalse
  | load _ buffer index predicate => load t buffer index predicate
  | broadcast _ value => broadcast t value
  | call _ name args => call t name args

mutual
def nodeCount : Expr → Nat
  | var .. | intImm .. | uintImm .. | floatImm .. => 1
  | cast _ src => 1 + src.nodeCount
  | binary _ _ lhs rhs => 1 + lhs.nodeCount + rhs.nodeCount
  | select _ cond onTrue onFalse => 1 + cond.nodeCount + onTrue.nodeCount + onFalse.nodeCount
  | load _ _ index predicate => 1 + index.nodeCount + predicate.nodeCount
  | broadcast _ value => 1 + value.nodeCount
  | call _ _ args => 1 + nodeCountList args

def nodeCountList : List Expr → Nat
  | [] => 0
  | e :: es => e.nodeCount + nodeCountList es
end

/-- A binary operation whose operands have one type. Arithmetic gives that type, a comparison
a boolean with its lanes. -/
def checkedBinary (op : BinaryOp) (lhs rhs : Expr) : Except TypeError Expr :=
  if lhs.dtype = rhs.dtype then
    let t := if op.isComparison then DataType.bool.withLanes lhs.dtype.lanes else lhs.dtype
    .ok (binary op t lhs rhs)
  else .error (.dtypeMismatch op lhs.dtype rhs.dtype)

/-- A select with a boolean condition and branches of one type, which is the result's. The
condition is checked first. -/
def checkedSelect (cond onTrue onFalse : Expr) : Except TypeError Expr :=
  if !cond.dtype.isBool then .error (.selectConditionNotBool cond.dtype)
  else if onTrue.dtype ≠ onFalse.dtype then
    .error (.selectBranchMismatch onTrue.dtype onFalse.dtype)
  else .ok (select onTrue.dtype cond onTrue onFalse)

/-- A load whose index and then predicate have the load's lane count. -/
def checkedLoad (t : DataType) (buffer : Var) (index predicate : Expr) :
    Except TypeError Expr :=
  if index.dtype.lanes ≠ t.lanes then .error (.laneMismatch .index t.lanes index.dtype.lanes)
  else if predicate.dtype.lanes ≠ t.lanes then
    .error (.laneMismatch .predicate t.lanes predicate.dtype.lanes)
  else .ok (load t buffer index predicate)

/-- A broadcast of a scalar to `lanes` lanes of its type. -/
def checkedBroadcast (value : Expr) (lanes : UInt16) : Except TypeError Expr :=
  if value.dtype.isScalar then .ok (broadcast (value.dtype.withLanes lanes) value)
  else .error (.broadcastRequiresScalar value.dtype)

end Expr

end DatatypeLowering
