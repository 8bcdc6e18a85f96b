import DatatypeLowering.Ir.Label
/-!
# Bottom-up rewriting

A rewrite visits a tree in post-order. At each node it first rewrites the children (a
statement's expressions, then its nested statements, each list in order), rebuilds the node over
the results, and then hands the hook both the given node and the rebuilt one; the hook's
answer replaces the node. The given node lets a hook decide by the node as it was before any
child changed, while the rebuilt node carries the final children.

The hooks run in any monad: a state records what they saw, an exception stops the rewrite at the
first failure with no result.
-/

namespace DatatypeLowering

/-- The hooks of a rewrite: called with the given node and the node rebuilt over rewritten
children. -/
structure Rewriter (m : Type → Type) where
  expr : Expr → Expr → m Expr
  stmt : Stmt → Stmt → m Stmt

namespace Rewriter

/-- Hooks that keep every rebuilt node. -/
def keep {m : Type → Type} [Pure m] : Rewriter m where
  expr _ rebuilt := pure rebuilt
  stmt _ rebuilt := pure rebuilt

/-- Hooks that keep every rebuilt node and record the label of each given node. -/
def recordLabels : Rewriter (StateM (List String)) where
  expr given rebuilt := do
    modify (· ++ [given.label])
    pure rebuilt
  stmt given rebuilt := do
    modify (· ++ [given.label])
    pure rebuilt

end Rewriter

variable {m : Type → Type} [Monad m]

mutual
/-- Rewrites an expression in post-order. -/
def Expr.rewrite (r : Rewriter m) (e : Expr) : m Expr :=
  match e with
  | .var .. | .intImm .. | .uintImm .. | .floatImm .. => r.expr e e
  | .cast t src => do
    let src ← src.rewrite r
    r.expr e (.cast t src)
  | .binary op t lhs rhs => do
    let lhs ← lhs.rewrite r
    let rhs ← rhs.rewrite r
    r.expr e (.binary op t lhs rhs)
  | .select t cond onTrue onFalse => do
    let cond ← cond.rewrite r
    let onTrue ← onTrue.rewrite r
    let onFalse ← onFalse.rewrite r
    r.expr e (.select t cond onTrue onFalse)
  | .load t buffer index predicate => do
    let index ← index.rewrite r
    let predicate ← predicate.rewrite r
    r.expr e (.load t buffer index predicate)
  | .broadcast t value => do
    let value ← value.rewrite r
    r.expr e (.broadcast t value)
  | .call t name args => do
    let args ← Expr.rewriteList r args
    r.expr e (.call t name args)
termination_by structural e

def Expr.rewriteList (r : Rewriter m) (es : List Expr) : m (List Expr) :=
  match es with
  | [] => pure []
  | e :: rest => do
    let e ← e.rewrite r
    let rest ← Expr.rewriteList r rest
    pure (e :: rest)
termination_by structural es
end

def Expr.rewriteOption (r : Rewriter m) : Option Expr → m (Option Expr)
  | none => pure none
  | some e => do
    let e ← e.rewrite r
    pure (some e)

mutual
/-- Rewrites a statement in post-order: its expressions, its statements, then itself. -/
def Stmt.rewrite (r : Rewriter m) (s : Stmt) : m Stmt :=
  match s with
  | .letIn var value body => do
    let value ← value.rewrite r
    let body ← body.rewrite r
    r.stmt s (.letIn var value body)
  | .allocate buffer dtype extents condition newExpr freeFunction body => do
    let extents ← Expr.rewriteList r extents
    let condition ← condition.rewrite r
    let newExpr ← Expr.rewriteOption r newExpr
    let body ← body.rewrite r
    r.stmt s (.allocate buffer dtype extents condition newExpr freeFunction body)
  | .store buffer value index predicate => do
    let value ← value.rewrite r
    let index ← index.rewrite r
    let predicate ← predicate.rewrite r
    r.stmt s (.store buffer value index predicate)
  | .forLoop var min extent body => do
    let min ← min.rewrite r
    let extent ← extent.rewrite r
    let body ← body.rewrite r
    r.stmt s (.forLoop var min extent body)
  | .ifThenElse cond thenCase elseCase => do
    let cond ← cond.rewrite r
    let thenCase ← thenCase.rewrite r
    let elseCase ← Stmt.rewriteOption r elseCase
    r.stmt s (.ifThenElse cond thenCase elseCase)
  | .seq items => do
    let items ← Stmt.rewriteList r items
    r.stmt s (.seq items)
  | .evaluate value => do
    let value ← value.rewrite r
    r.stmt s (.evaluate value)
termination_by structural s

def Stmt.rewriteList (r : Rewriter m) (ss : List Stmt) : m (List Stmt) :=
  match ss with
  | [] => pure []
  | s :: rest => do
    let s ← s.rewrite r
    let rest ← Stmt.rewriteList r rest
    pure (s :: rest)
termination_by structural ss

def Stmt.rewriteOption (r : Rewriter m) (s? : Option Stmt) : m (Option Stmt) :=
  match s? with
  | none => pure none
  | some s => do
    let s ← s.rewrite r
    pure (some s)
termination_by structural s?
end

/-- Rewrites a function's body; its name and parameters are kept. -/
def Func.rewrite (r : Rewriter m) (f : Func) : m Func := do
  let body ← f.body.rewrite r
  pure { f with body := body }

def Expr.visitLabels (e : Expr) : List String := ((e.rewrite Rewriter.recordLabels).run []).2

def Stmt.visitLabels (s : Stmt) : List String := ((s.rewrite Rewriter.recordLabels).run []).2

def Func.visitLabels (f : Func) : List String := f.body.visitLabels

end DatatypeLowering
