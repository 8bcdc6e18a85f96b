import DatatypeLowering.Ir.Label
/-!
# Tree drawings

An outline is a tree of labels. The outline of an expression has a node per operation, whose
children are the outlines of its operands; that of a statement has the outlines of its
expressions, then those of its nested statements.

Drawing an outline is the work of a tree-printing library, which sees a node only through its
label and its children, and so only through its outline. A drawing is therefore taken with the
renderer as a parameter (`Expr.treeWith`, `Stmt.treeWith`). The program runs with the library's
default layout, `Outline.draw`: one line per node in pre-order. The root's line is its label; a
child's line is its parent's prefix, then `├─ ` (`└─ ` for the last child), then its label. Below
a child that is not the last the prefix grows by `│  `, below the last one by three blanks.
-/

namespace DatatypeLowering

/-- A tree of labels. -/
inductive Outline where
  | node (label : String) (children : List Outline)
deriving Repr

mutual
def Expr.outline (e : Expr) : Outline :=
  match e with
  | .var .. | .intImm .. | .uintImm .. | .floatImm .. => .node e.label []
  | .cast _ src => .node e.label [src.outline]
  | .binary _ _ lhs rhs => .node e.label [lhs.outline, rhs.outline]
  | .select _ cond onTrue onFalse => .node e.label [cond.outline, onTrue.outline, onFalse.outline]
  | .load _ _ index predicate => .node e.label [index.outline, predicate.outline]
  | .broadcast _ value => .node e.label [value.outline]
  | .call _ _ args => .node e.label (Expr.outlineList args)
termination_by structural e

def Expr.outlineList (es : List Expr) : List Outline :=
  match es with
  | [] => []
  | e :: rest => e.outline :: Expr.outlineList rest
termination_by structural es
end

mutual
/-- The outline of a statement: its expressions' outlines, then its statements'. -/
def Stmt.outline (s : Stmt) : Outline :=
  match s with
  | .letIn _ value body => .node s.label [value.outline, body.outline]
  | .allocate _ _ extents condition newExpr _ body =>
    .node s.label
      (Expr.outlineList extents ++ condition.outline :: (newExpr.map Expr.outline).toList ++
        [body.outline])
  | .store _ value index predicate =>
    .node s.label [value.outline, index.outline, predicate.outline]
  | .forLoop _ min extent body => .node s.label [min.outline, extent.outline, body.outline]
  | .ifThenElse cond thenCase elseCase =>
    .node s.label (cond.outline :: thenCase.outline :: Stmt.outlineOption elseCase)
  | .seq items => .node s.label (Stmt.outlineList items)
  | .evaluate value => .node s.label [value.outline]
termination_by structural s

def Stmt.outlineList (ss : List Stmt) : List Outline :=
  match ss with
  | [] => []
  | s :: rest => s.outline :: Stmt.outlineList rest
termination_by structural ss

def Stmt.outlineOption (s? : Option Stmt) : List Outline :=
  match s? with
  | none => []
  | some s => [s.outline]
termination_by structural s?
end

namespace Outline

/-- The branch mark of a child: the last child's closes its parent's lines. -/
def branch (last : Bool) : String := if last then "└─ " else "├─ "

/-- What a child adds to the prefix of its own children. -/
def indent (last : Bool) : String := if last then "   " else "│  "

mutual
/-- The lines of the children of a node whose lines start with `pre`. -/
def drawChildren (pre : String) (cs : List Outline) : String :=
  match cs with
  | [] => ""
  | [c] => drawChild pre true c
  | c :: rest => drawChild pre false c ++ drawChildren pre rest
termination_by structural cs

/-- The lines of one child and its descendants. -/
def drawChild (pre : String) (last : Bool) (c : Outline) : String :=
  match c with
  | .node label children =>
    pre ++ branch last ++ label ++ "\n" ++ drawChildren (pre ++ indent last) children
termination_by structural c
end

/-- The drawing of a tree: the root's label on the first line, then its descendants. -/
def draw : Outline → String
  | .node label children => label ++ "\n" ++ drawChildren "" children

end Outline

/-- The drawing of an expression by a renderer of outlines. -/
def Expr.treeWith (write : Outline → String) (e : Expr) : String := write e.outline

def Stmt.treeWith (write : Outline → String) (s : Stmt) : String := write s.outline

/-- The tree drawing of an expression in the default layout. -/
def Expr.tree (e : Expr) : String := e.treeWith Outline.draw

def Stmt.tree (s : Stmt) : String := s.treeWith Outline.draw

end DatatypeLowering
