import DatatypeLowering.Ir.Expr
/-!
# Statements

Statements own expressions and nested statements: a binding of a variable over a body, an
allocation of a buffer, a store into a buffer, a counted loop, a conditional, a sequence and the
evaluation of an expression for its effects.

A statement's children come in two lists, its expressions (`exprs`) and its statements
(`stmts`), each in a fixed order; `withChildren` rebuilds a statement over new ones after
checking both counts, the expressions first.
-/

namespace DatatypeLowering

/-- Statements of the IR. -/
inductive Stmt where
  | letIn (var : Var) (value : Expr) (body : Stmt)
  | allocate (buffer : Var) (dtype : DataType) (extents : List Expr) (condition : Expr)
      (newExpr : Option Expr) (freeFunction : Option String) (body : Stmt)
  | store (buffer : Var) (value index predicate : Expr)
  | forLoop (var : Var) (min extent : Expr) (body : Stmt)
  | ifThenElse (cond : Expr) (thenCase : Stmt) (elseCase : Option Stmt)
  | seq (items : List Stmt)
  | evaluate (value : Expr)
deriving Repr

namespace Stmt

/-- An allocation whose condition defaults to the scalar true predicate. -/
def allocateWith (buffer : Var) (dtype : DataType) (extents : List Expr)
    (condition : Option Expr) (newExpr : Option Expr) (freeFunction : Option String)
    (body : Stmt) : Stmt :=
  allocate buffer dtype extents (condition.getD (Expr.allTrue 1)) newExpr freeFunction body

/-- A store whose predicate defaults to the true predicate over the value's lanes. -/
def storeWith (buffer : Var) (value index : Expr) (predicate : Option Expr) : Stmt :=
  store buffer value index (predicate.getD (Expr.allTrue value.dtype.lanes))

/-- A statement's expressions: a binding's value; an allocation's extents, condition and custom
allocation expression; a store's value, index and predicate; a loop's bounds; a conditional's
condition; an evaluated expression. -/
def exprs : Stmt → List Expr
  | letIn _ value _ => [value]
  | allocate _ _ extents condition newExpr _ _ => extents ++ condition :: newExpr.toList
  | store _ value index predicate => [value, index, predicate]
  | forLoop _ min extent _ => [min, extent]
  | ifThenElse cond _ _ => [cond]
  | seq _ => []
  | evaluate value => [value]

/-- A statement's nested statements: a body, the branches of a conditional, the items of a
sequence. -/
def stmts : Stmt → List Stmt
  | letIn _ _ body => [body]
  | allocate _ _ _ _ _ _ body => [body]
  | store .. => []
  | forLoop _ _ _ body => [body]
  | ifThenElse _ thenCase elseCase => thenCase :: elseCase.toList
  | seq items => items
  | evaluate _ => []

/-- The statement over new children whose counts are its own; any other shape leaves it as it
is. -/
def replaceChildren (s : Stmt) (es : List Expr) (ss : List Stmt) : Stmt :=
  match s, es, ss with
  | letIn var _ _, [value], [body] => letIn var value body
  | allocate buffer dtype extents _ newExpr freeFunction _, es, [body] =>
    match es.drop extents.length, newExpr with
    | [condition], none =>
      allocate buffer dtype (es.take extents.length) condition none freeFunction body
    | [condition, e], some _ =>
      allocate buffer dtype (es.take extents.length) condition (some e) freeFunction body
    | _, _ => s
  | store buffer _ _ _, [value, index, predicate], [] => store buffer value index predicate
  | forLoop var _ _ _, [min, extent], [body] => forLoop var min extent body
  | ifThenElse _ _ none, [cond], [thenCase] => ifThenElse cond thenCase none
  | ifThenElse _ _ (some _), [cond], [thenCase, elseCase] =>
    ifThenElse cond thenCase (some elseCase)
  | seq _, [], items => seq items
  | evaluate _, [value], [] => evaluate value
  | s, _, _ => s

/-- The statement rebuilt over new expressions and statements, in the orders of `exprs` and
`stmts`; an error when a count differs, the expressions' checked first. -/
def withChildren (s : Stmt) (es : List Expr) (ss : List Stmt) : Except ArityError Stmt :=
  if es.length ≠ s.exprs.length then .error .expressions
  else if ss.length ≠ s.stmts.length then .error .statements
  else .ok (s.replaceChildren es ss)

/-- What a statement is apart from its children: its kind with the variables, buffers and
types it names, how many extents an allocation has and whether it has a custom allocation
expression, whether a conditional has an else branch, and how long a sequence is. -/
inductive Head where
  | letIn (var : Var)
  | allocate (buffer : Var) (dtype : DataType) (extents : Nat) (hasNewExpr : Bool)
      (freeFunction : Option String)
  | store (buffer : Var)
  | forLoop (var : Var)
  | ifThenElse (hasElse : Bool)
  | seq (length : Nat)
  | evaluate
deriving DecidableEq, Repr

def head : Stmt → Head
  | letIn var _ _ => .letIn var
  | allocate buffer dtype extents _ newExpr freeFunction _ =>
    .allocate buffer dtype extents.length newExpr.isSome freeFunction
  | store buffer .. => .store buffer
  | forLoop var .. => .forLoop var
  | ifThenElse _ _ elseCase => .ifThenElse elseCase.isSome
  | seq items => .seq items.length
  | evaluate _ => .evaluate

/-- Over children of its own counts, a statement is rebuilt with exactly those children and its
head. -/
theorem replaceChildren_children (s : Stmt) (es : List Expr) (ss : List Stmt)
    (he : es.length = s.exprs.length) (hs : ss.length = s.stmts.length) :
    (s.replaceChildren es ss).exprs = es ∧ (s.replaceChildren es ss).stmts = ss ∧
      (s.replaceChildren es ss).head = s.head := by
  cases s with
  | letIn var value body =>
    rcases es with _ | ⟨x, _ | ⟨_, _⟩⟩ <;> rcases ss with _ | ⟨y, _ | ⟨_, _⟩⟩ <;>
      simp_all [replaceChildren, exprs, stmts, head]
  | allocate buffer dtype extents condition newExpr freeFunction body =>
    rcases ss with _ | ⟨y, _ | ⟨_, _⟩⟩ <;> simp [stmts] at hs
    have hsplit := List.take_append_drop extents.length es
    have hlen : (es.drop extents.length).length = newExpr.toList.length + 1 := by
      simp [exprs] at he
      simp [he]
    cases newExpr with
    | none =>
      rcases hd : es.drop extents.length with _ | ⟨c, _ | ⟨_, _⟩⟩ <;> simp [hd] at hlen
      simp only [replaceChildren, hd, exprs, stmts, head, Option.toList, Option.isSome_none,
        List.length_take]
      refine ⟨?_, trivial, ?_⟩
      · rw [hd] at hsplit
        exact hsplit
      · simp [exprs] at he
        simp [he]
    | some n =>
      rcases hd : es.drop extents.length with _ | ⟨c, _ | ⟨x, _ | ⟨_, _⟩⟩⟩ <;> simp [hd] at hlen
      simp only [replaceChildren, hd, exprs, stmts, head, Option.toList, Option.isSome_some,
        List.length_take]
      refine ⟨?_, trivial, ?_⟩
      · rw [hd] at hsplit
        exact hsplit
      · simp [exprs] at he
        simp [he]
  | store buffer value index predicate =>
    rcases es with _ | ⟨a, _ | ⟨b, _ | ⟨c, _ | ⟨_, _⟩⟩⟩⟩ <;> rcases ss with _ | ⟨_, _⟩ <;>
      simp_all [replaceChildren, exprs, stmts, head]
  | forLoop var min extent body =>
    rcases es with _ | ⟨a, _ | ⟨b, _ | ⟨_, _⟩⟩⟩ <;> rcases ss with _ | ⟨y, _ | ⟨_, _⟩⟩ <;>
      simp_all [replaceChildren, exprs, stmts, head]
  | ifThenElse cond thenCase elseCase =>
    cases elseCase <;>
      rcases es with _ | ⟨x, _ | ⟨_, _⟩⟩ <;> rcases ss with _ | ⟨y, _ | ⟨z, _ | ⟨_, _⟩⟩⟩ <;>
      simp_all [replaceChildren, exprs, stmts, head]
  | seq items =>
    rcases es with _ | ⟨_, _⟩ <;> simp_all [replaceChildren, exprs, stmts, head]
  | evaluate value =>
    rcases es with _ | ⟨x, _ | ⟨_, _⟩⟩ <;> rcases ss with _ | ⟨_, _⟩ <;>
      simp_all [replaceChildren, exprs, stmts, head]

/-- Rebuilding refuses a wrong number of expressions first, then a wrong number of statements;
otherwise the statement has the new children and its head. -/
theorem withChildren_map (s : Stmt) (es : List Expr) (ss : List Stmt) :
    (s.withChildren es ss).map (fun s' => (s'.exprs, s'.stmts, s'.head)) =
      if es.length ≠ s.exprs.length then .error .expressions
      else if ss.length ≠ s.stmts.length then .error .statements
      else .ok (es, ss, s.head) := by
  unfold withChildren
  by_cases he : es.length = s.exprs.length
  · by_cases hs : ss.length = s.stmts.length
    · obtain ⟨h₁, h₂, h₃⟩ := replaceChildren_children s es ss he hs
      simp [he, hs, h₁, h₂, h₃, Except.map]
    · simp [he, hs, Except.map]
  · simp [he, Except.map]

@[simp] theorem withChildren_exprs_stmts (s : Stmt) : s.withChildren s.exprs s.stmts = .ok s := by
  cases s with
  | allocate buffer dtype extents condition newExpr freeFunction body =>
    cases newExpr <;> simp [withChildren, replaceChildren, exprs, stmts]
  | ifThenElse cond thenCase elseCase =>
    cases elseCase <;> simp [withChildren, replaceChildren, exprs, stmts]
  | _ => simp [withChildren, replaceChildren, exprs, stmts]

/-- An allocation with another element type; every other statement is kept. -/
def withAllocateDtype (s : Stmt) (t : DataType) : Stmt :=
  match s with
  | allocate buffer _ extents condition newExpr freeFunction body =>
    allocate buffer t extents condition newExpr freeFunction body
  | s => s

end Stmt

/-- A function: a name, parameters and a body. -/
structure Func where
  name : String
  params : List Var
  body : Stmt
deriving Repr

end DatatypeLowering
