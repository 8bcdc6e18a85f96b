import DatatypeLowering.Ir.Tree
import DatatypeLowering.Proofs.Traversal
/-!
# Tree drawings list the nodes in pre-order

A node of an IR tree, expression or statement, is drawn through its outline: its label over the
outlines of its children, an expression's operands or a statement's expressions followed by its
nested statements (`Node.outline_eq`). What the renderer makes of an outline is the drawing
library's; it is taken here to be a layout (`Outline.Layout`): one line per item of the outline
in pre-order, each the item's label after a prefix that depends only on the marks of the item's
path from the root (one mark per edge, telling whether the edge leads to a last child), with no
prefix on the root's line and no line break in any prefix. The default layout the program runs
with is one (`Outline.layout_draw`).

Through any layout, the drawing of a node is one line per node of its tree, in pre-order
(`Node.preorder`), each with the node's own label after the prefix of the node's marks. The
pre-order has each node of the tree once, as the post-order of a rewrite does
(`Node.preorder_perm_nodes`); so a drawing starts with the root's label, and it has as many line
breaks as the tree has nodes, plus those the labels themselves hold.

Main statement: `tree_draws_nodes_in_preorder`.
-/

namespace DatatypeLowering

theorem Expr.outlineList_eq_map (es : List Expr) : Expr.outlineList es = es.map Expr.outline := by
  induction es with
  | nil => rfl
  | cons e es ih => simp [Expr.outlineList, ih]

theorem Stmt.outlineList_eq_map (ss : List Stmt) : Stmt.outlineList ss = ss.map Stmt.outline := by
  induction ss with
  | nil => rfl
  | cons s ss ih => simp [Stmt.outlineList, ih]

theorem Stmt.outlineOption_eq_map (s? : Option Stmt) :
    Stmt.outlineOption s? = s?.toList.map Stmt.outline := by
  cases s? <;> rfl

theorem Stmt.sizeOf_lt_of_mem_exprs {x : Expr} {s : Stmt} (h : x ∈ s.exprs) :
    sizeOf x < sizeOf s := by
  cases s with
  | allocate buffer dtype extents condition newExpr freeFunction body =>
    simp only [exprs, List.mem_append, List.mem_cons, Option.mem_toList] at h
    rcases h with h | rfl | rfl
    · have hx : sizeOf x < sizeOf extents := List.sizeOf_lt_of_mem h
      simp
      omega
    · simp
      omega
    · simp
      omega
  | _ => simp [exprs] at h <;> rcases h with rfl | rfl | rfl <;> simp <;> omega

/-- Each element of a list with whether it is the last one. -/
def markLast {α : Type} : List α → List (Bool × α)
  | [] => []
  | [a] => [(true, a)]
  | a :: rest => (false, a) :: markLast rest

@[simp] theorem markLast_cons_cons {α : Type} (a b : α) (rest : List α) :
    markLast (a :: b :: rest) = (false, a) :: markLast (b :: rest) := rfl

theorem map_snd_markLast {α : Type} (l : List α) : (markLast l).map Prod.snd = l := by
  induction l with
  | nil => rfl
  | cons a rest ih =>
    cases rest with
    | nil => rfl
    | cons b rest => rw [markLast_cons_cons, List.map_cons, ih]

theorem mem_of_mem_markLast {α : Type} {p : Bool × α} {l : List α} (h : p ∈ markLast l) :
    p.2 ∈ l :=
  map_snd_markLast l ▸ List.mem_map_of_mem h

theorem markLast_map {α β : Type} (f : α → β) (l : List α) :
    markLast (l.map f) = (markLast l).map fun p => (p.1, f p.2) := by
  induction l with
  | nil => rfl
  | cons a rest ih =>
    cases rest with
    | nil => rfl
    | cons b rest =>
      rw [List.map_cons, List.map_cons, markLast_cons_cons, ← List.map_cons, ih]
      rfl

theorem flatMap_markLast {α β : Type} (l : List α) (f : α → List β) :
    (markLast l).flatMap (fun p => f p.2) = l.flatMap f := by
  rw [← List.flatMap_map Prod.snd f, map_snd_markLast]

namespace Outline

mutual
/-- The items of an outline in pre-order, each with the marks of its path from the root: one per
edge, true where the edge leads to a last child. -/
def entries (o : Outline) : List (List Bool × String) :=
  match o with
  | .node label children => ([], label) :: childEntries children
termination_by structural o

def childEntries (cs : List Outline) : List (List Bool × String) :=
  match cs with
  | [] => []
  | [c] => c.entries.map fun entry => (true :: entry.1, entry.2)
  | c :: rest => (c.entries.map fun entry => (false :: entry.1, entry.2)) ++ childEntries rest
termination_by structural cs
end

@[simp] theorem childEntries_cons_cons (c d : Outline) (rest : List Outline) :
    childEntries (c :: d :: rest) =
      (c.entries.map fun entry => (false :: entry.1, entry.2)) ++ childEntries (d :: rest) :=
  rfl

theorem childEntries_eq (cs : List Outline) :
    childEntries cs = (markLast cs).flatMap fun p =>
      p.2.entries.map fun entry => (p.1 :: entry.1, entry.2) := by
  induction cs with
  | nil => rfl
  | cons c rest ih =>
    cases rest with
    | nil => simp [childEntries, markLast]
    | cons d rest => rw [childEntries_cons_cons, ih, markLast_cons_cons, List.flatMap_cons]

/-- What a renderer of outlines is taken to do, given the prefix it writes for the marks of an
item's path: one line per item in pre-order, made of the prefix, the item's label and a line
break; no prefix before the root's label, and no line break in any prefix. -/
structure Layout (write : Outline → String) (linePrefix : List Bool → String) : Prop where
  write_eq : ∀ o, write o =
    String.join (o.entries.map fun entry => linePrefix entry.1 ++ entry.2 ++ "\n")
  linePrefix_nil : linePrefix [] = ""
  newline_not_mem : ∀ marks, '\n' ∉ (linePrefix marks).toList

/-! ## The default layout -/

/-- The prefix the default layout writes for an item whose path has the given marks: a column
for every edge above the last one, open (`│  `) where more children follow, then the branch to
the item itself. -/
def drawPrefix : List Bool → String
  | [] => ""
  | [last] => branch last
  | above :: rest => indent above ++ drawPrefix rest

@[simp] theorem drawPrefix_nil : drawPrefix [] = "" := rfl

@[simp] theorem drawPrefix_singleton (last : Bool) : drawPrefix [last] = branch last := rfl

@[simp] theorem drawPrefix_cons_cons (above last : Bool) (rest : List Bool) :
    drawPrefix (above :: last :: rest) = indent above ++ drawPrefix (last :: rest) := rfl

theorem newline_not_mem_drawPrefix (marks : List Bool) : '\n' ∉ (drawPrefix marks).toList := by
  induction marks with
  | nil => simp
  | cons above rest ih =>
    cases rest with
    | nil => cases above <;> decide
    | cons last rest =>
      rw [drawPrefix_cons_cons, String.toList_append, List.mem_append, not_or]
      exact ⟨by cases above <;> decide, ih⟩

@[simp] theorem drawChildren_cons_cons (pre : String) (c d : Outline) (rest : List Outline) :
    drawChildren pre (c :: d :: rest) = drawChild pre false c ++ drawChildren pre (d :: rest) :=
  rfl

theorem sizeOf_lt_of_mem_children {c : Outline} {label : String} {children : List Outline}
    (h : c ∈ children) : sizeOf c < sizeOf (node label children) := by
  have hc : sizeOf c < sizeOf children := List.sizeOf_lt_of_mem h
  simp
  omega

@[elab_as_elim]
theorem induction_node {motive : Outline → Prop}
    (step : ∀ label children, (∀ c ∈ children, motive c) → motive (node label children)) :
    ∀ o, motive o
  | node label children => step label children fun c _ => induction_node step c
termination_by o => o
decreasing_by exact sizeOf_lt_of_mem_children ‹_›

/-- The children of an item whose line starts with `pre` are drawn as their items in pre-order,
each line after `pre` and the prefix of the item's marks below the parent. -/
theorem drawChildren_eq (pre : String) (cs : List Outline)
    (ih : ∀ c ∈ cs, ∀ pre last, drawChild pre last c =
      String.join (c.entries.map fun entry =>
        pre ++ drawPrefix (last :: entry.1) ++ entry.2 ++ "\n")) :
    drawChildren pre cs =
      String.join ((childEntries cs).map fun entry =>
        pre ++ drawPrefix entry.1 ++ entry.2 ++ "\n") := by
  induction cs with
  | nil => rfl
  | cons c rest hrest =>
    have hc := ih c List.mem_cons_self pre
    cases rest with
    | nil => simp [drawChildren, childEntries, hc, Function.comp_def]
    | cons d rest =>
      have hd := hrest fun c' hc' => ih c' (List.mem_cons_of_mem c hc')
      rw [drawChildren_cons_cons, childEntries_cons_cons, List.map_append, String.join_append,
        hc, hd, List.map_map]
      rfl

theorem drawChild_eq (pre : String) (last : Bool) (c : Outline) :
    drawChild pre last c =
      String.join (c.entries.map fun entry =>
        pre ++ drawPrefix (last :: entry.1) ++ entry.2 ++ "\n") := by
  induction c using induction_node generalizing pre last with
  | step label children ih =>
    -- the item's own line, then its children's below the prefix grown by one column
    rw [drawChild, entries, drawChildren_eq _ children ih, childEntries_eq]
    simp [List.map_flatMap, Function.comp_def, String.append_assoc]

/-- The default drawing is a layout. -/
theorem layout_draw : Layout draw drawPrefix where
  write_eq o := by
    cases o with
    | node label children =>
      rw [draw, entries, drawChildren_eq "" children fun c _ pre last => drawChild_eq pre last c]
      simp [String.append_assoc]
  linePrefix_nil := rfl
  newline_not_mem := newline_not_mem_drawPrefix

end Outline

example :
    (Expr.binary .add (.int 32) (.cast (.int 32) (.var (.int 16) "x")) (.intImm (.int 32) 1)).tree =
      "ADD : int32\n├─ CAST : int32\n│  └─ VAR('x') : int16\n└─ INT(1) : int32\n" := by
  decide +kernel

namespace Node

def label : Node → String
  | expr e => e.label
  | stmt s => s.label

/-- A node's children, in the order a drawing shows them: an expression's operands; a
statement's expressions, then its nested statements. -/
def children : Node → List Node
  | expr e => e.sources.map expr
  | stmt s => s.exprs.map expr ++ s.stmts.map stmt

def outline : Node → Outline
  | expr e => e.outline
  | stmt s => s.outline

def nodes : Node → List Node
  | expr e => e.nodes.map expr
  | stmt s => s.nodes

/-- The outline of a node is its label over the outlines of its children. -/
theorem outline_eq (n : Node) : n.outline = .node n.label (n.children.map outline) := by
  cases n with
  | expr e =>
    cases e <;>
      simp [outline, Expr.outline, label, children, Expr.sources, Expr.outlineList_eq_map]
  | stmt s =>
    cases s with
    | allocate buffer dtype extents condition newExpr freeFunction body =>
      cases newExpr <;>
        simp [outline, Stmt.outline, label, children, Stmt.exprs, Stmt.stmts,
          Expr.outlineList_eq_map]
    | ifThenElse cond thenCase elseCase =>
      cases elseCase <;>
        simp [outline, Stmt.outline, label, children, Stmt.exprs, Stmt.stmts,
          Stmt.outlineOption_eq_map]
    | _ =>
      simp [outline, Stmt.outline, label, children, Stmt.exprs, Stmt.stmts,
        Stmt.outlineList_eq_map]

theorem nodes_eq (n : Node) : n.nodes = n.children.flatMap nodes ++ [n] := by
  cases n with
  | expr e => simp [nodes, children, Expr.nodes_eq e, List.flatMap_map, List.map_flatMap]
  | stmt s => simp [nodes, children, Stmt.nodes_eq s, List.flatMap_map, List.map_flatMap]

theorem sizeOf_lt_of_mem_children {c n : Node} (h : c ∈ n.children) : sizeOf c < sizeOf n := by
  cases n with
  | expr e =>
    obtain ⟨x, hx, rfl⟩ := List.mem_map.1 h
    have hlt := Expr.sizeOf_lt_of_mem_sources hx
    simp
    omega
  | stmt s =>
    rcases List.mem_append.1 h with h | h
    · obtain ⟨x, hx, rfl⟩ := List.mem_map.1 h
      have hlt := Stmt.sizeOf_lt_of_mem_exprs hx
      simp
      omega
    · obtain ⟨x, hx, rfl⟩ := List.mem_map.1 h
      have hlt := Stmt.sizeOf_lt_of_mem_stmts hx
      simp
      omega

/-- Induction over the nodes of IR trees: a property of all children of a node gives it for the
node. -/
@[elab_as_elim]
theorem induction_children {motive : Node → Prop}
    (step : ∀ n, (∀ c ∈ n.children, motive c) → motive n) (n : Node) : motive n :=
  step n fun c _ => induction_children step c
termination_by n
decreasing_by exact sizeOf_lt_of_mem_children ‹_›

/-- The nodes of a node's tree in pre-order: the node, then the pre-order of each child in turn.
Each node comes with the marks of its path from the root, one per edge and true where the edge
leads to a last child; a node's depth is the number of its marks. -/
def preorder (n : Node) : List (List Bool × Node) :=
  ([], n) :: (markLast n.children).attach.flatMap fun p =>
    p.1.2.preorder.map fun entry => (p.1.1 :: entry.1, entry.2)
termination_by n
decreasing_by exact sizeOf_lt_of_mem_children (mem_of_mem_markLast p.2)

theorem preorder_eq (n : Node) :
    n.preorder = ([], n) :: (markLast n.children).flatMap fun p =>
      p.2.preorder.map fun entry => (p.1 :: entry.1, entry.2) := by
  rw [preorder]
  simp only [List.flatMap_subtype, List.unattach_attach]

/-- The items of a node's outline are the nodes of its tree in pre-order, with their labels. -/
theorem entries_outline (n : Node) :
    n.outline.entries = n.preorder.map fun entry => (entry.1, entry.2.label) := by
  induction n using induction_children with
  | step n ih =>
    rw [outline_eq, Outline.entries, Outline.childEntries_eq, markLast_map, List.flatMap_map,
      preorder_eq, List.map_cons, List.map_flatMap]
    congr 1
    apply List.flatMap_congr
    intro p hp
    rw [ih p.2 (mem_of_mem_markLast hp), List.map_map, List.map_map]
    rfl

/-- The pre-order lists the nodes of the tree, each once. -/
theorem preorder_perm_nodes (n : Node) : (n.preorder.map Prod.snd).Perm n.nodes := by
  induction n using induction_children with
  | step n ih =>
    have hentries : n.preorder.map Prod.snd =
        n :: n.children.flatMap fun c => c.preorder.map Prod.snd := by
      rw [preorder_eq, List.map_cons, List.map_flatMap]
      simp only [List.map_map, Function.comp_def]
      rw [flatMap_markLast n.children fun c => c.preorder.map Prod.snd]
    have hchildren : (n.children.flatMap fun c => c.preorder.map Prod.snd).Perm
        (n.children.flatMap nodes) := List.Perm.flatMap_left _ ih
    rw [hentries, nodes_eq]
    exact (hchildren.cons n).trans (List.perm_append_singleton _ _).symm

/-- The lines of pre-order entries: each entry's prefix, its node's label, a line break. -/
def render (linePrefix : List Bool → String) (entries : List (List Bool × Node)) : String :=
  String.join (entries.map fun entry => linePrefix entry.1 ++ entry.2.label ++ "\n")

theorem render_cons (linePrefix : List Bool → String) (entry : List Bool × Node)
    (entries : List (List Bool × Node)) :
    render linePrefix (entry :: entries) =
      linePrefix entry.1 ++ entry.2.label ++ "\n" ++ render linePrefix entries := by
  rw [render, List.map_cons, String.join_cons, ← render]

section Layout

variable {write : Outline → String} {linePrefix : List Bool → String}

theorem write_outline (hlayout : Outline.Layout write linePrefix) (n : Node) :
    write n.outline = render linePrefix n.preorder := by
  rw [hlayout.write_eq, entries_outline, List.map_map]
  rfl

/-- A drawing starts with the root's label on a line of its own. -/
theorem write_outline_eq_label_append (hlayout : Outline.Layout write linePrefix) (n : Node) :
    ∃ rest, write n.outline = n.label ++ "\n" ++ rest := by
  rw [write_outline hlayout, preorder_eq, render_cons, hlayout.linePrefix_nil,
    String.empty_append]
  exact ⟨_, rfl⟩

theorem count_newline_render (hbreaks : ∀ marks, '\n' ∉ (linePrefix marks).toList)
    (entries : List (List Bool × Node)) :
    (render linePrefix entries).toList.count '\n' =
      entries.length + (entries.map fun entry => entry.2.label.toList.count '\n').sum := by
  induction entries with
  | nil => rfl
  | cons entry entries ih =>
    have hline : (linePrefix entry.1 ++ entry.2.label ++ "\n").toList.count '\n' =
        entry.2.label.toList.count '\n' + 1 := by
      simp [List.count_eq_zero.2 (hbreaks entry.1)]
    rw [render_cons, String.toList_append, List.count_append, hline, ih, List.length_cons,
      List.map_cons, List.sum_cons]
    omega

/-- A drawing has a line break for each node of the tree and each line break in a label. -/
theorem count_newline_write (hlayout : Outline.Layout write linePrefix) (n : Node) :
    (write n.outline).toList.count '\n' =
      n.nodes.length + (n.nodes.map fun m => m.label.toList.count '\n').sum := by
  have hperm := preorder_perm_nodes n
  have hlabels : (n.preorder.map fun entry => entry.2.label.toList.count '\n').sum =
      (n.nodes.map fun m => m.label.toList.count '\n').sum := by
    rw [← (hperm.map fun m => m.label.toList.count '\n').sum_eq, List.map_map]
    rfl
  rw [write_outline hlayout, count_newline_render hlayout.newline_not_mem, hlabels,
    ← hperm.length_eq, List.length_map]

theorem count_newline_write_of_labels (hlayout : Outline.Layout write linePrefix) (n : Node)
    (h : ∀ m ∈ n.nodes, '\n' ∉ m.label.toList) :
    (write n.outline).toList.count '\n' = n.nodes.length := by
  have hzero : (n.nodes.map fun m => m.label.toList.count '\n').sum = 0 := by
    apply List.sum_eq_zero
    intro k hk
    obtain ⟨m, hm, rfl⟩ := List.mem_map.1 hk
    exact List.count_eq_zero.2 (h m hm)
  rw [count_newline_write hlayout, hzero, Nat.add_zero]

end Layout

end Node

/-- Through any renderer that lays an outline out as one line per item in pre-order, the drawing
of an expression or a statement is the line of each node of its tree in pre-order, a
statement's expressions before its nested statements and an expression's operands in order:
each line is the node's label after the prefix of the node's marks (which edges of its path from
the root lead to last children, so also its depth). The pre-order has each node of the tree
once. So the drawing starts with the root's label on a line of its own, and when no label holds a
line break it has one line per node: as many as an expression's node count, or as the nodes of a
statement's tree. -/
theorem tree_draws_nodes_in_preorder (write : Outline → String) (linePrefix : List Bool → String)
    (hlayout : Outline.Layout write linePrefix) :
    (∀ e : Expr, e.treeWith write = Node.render linePrefix (Node.expr e).preorder) ∧
      (∀ s : Stmt, s.treeWith write = Node.render linePrefix (Node.stmt s).preorder) ∧
      (∀ n : Node, (n.preorder.map Prod.snd).Perm n.nodes) ∧
      (∀ e : Expr, ∃ rest, e.treeWith write = e.label ++ "\n" ++ rest) ∧
      (∀ s : Stmt, ∃ rest, s.treeWith write = s.label ++ "\n" ++ rest) ∧
      (∀ e : Expr, (∀ x ∈ e.nodes, '\n' ∉ x.label.toList) →
        (e.treeWith write).toList.count '\n' = e.nodeCount) ∧
      (∀ s : Stmt, (∀ n ∈ s.nodes, '\n' ∉ n.label.toList) →
        (s.treeWith write).toList.count '\n' = s.nodes.length) := by
  refine ⟨fun e => Node.write_outline hlayout (.expr e),
    fun s => Node.write_outline hlayout (.stmt s), Node.preorder_perm_nodes,
    fun e => Node.write_outline_eq_label_append hlayout (.expr e),
    fun s => Node.write_outline_eq_label_append hlayout (.stmt s), fun e he => ?_,
    fun s hs => Node.count_newline_write_of_labels hlayout (.stmt s) hs⟩
  have hlabels : ∀ m ∈ (Node.expr e).nodes, '\n' ∉ m.label.toList := by
    intro m hm
    obtain ⟨x, hx, rfl⟩ := List.mem_map.1 hm
    exact he x hx
  have hcount := Node.count_newline_write_of_labels hlayout (.expr e) hlabels
  rw [Node.nodes, List.length_map, Expr.length_nodes] at hcount
  exact hcount

/-- In the default layout, a binding of `x` to zero over a sum of `x` and one has no line break in
its labels: its drawing has a line per node, three for the sum and six for the binding. -/
theorem binding_drawn_line_per_node :
    let e : Expr := .binary .add (.int 32) (.var (.int 32) "x") (.intImm (.int 32) 1)
    let s : Stmt := .letIn ⟨"x", .int 32⟩ (.intImm (.int 32) 0) (.evaluate e)
    Outline.Layout Outline.draw Outline.drawPrefix ∧
      ((∀ x ∈ e.nodes, '\n' ∉ x.label.toList) ∧ e.tree.toList.count '\n' = e.nodeCount) ∧
      ((∀ n ∈ s.nodes, '\n' ∉ n.label.toList) ∧ s.tree.toList.count '\n' = s.nodes.length) ∧
      e.nodeCount = 3 ∧ s.nodes.length = 6 := by
  intro e s
  obtain ⟨-, -, -, -, -, hexpr, hstmt⟩ :=
    tree_draws_nodes_in_preorder Outline.draw Outline.drawPrefix Outline.layout_draw
  have he : ∀ x ∈ e.nodes, '\n' ∉ x.label.toList := by decide +kernel
  have hs : ∀ n ∈ s.nodes, '\n' ∉ n.label.toList := by decide +kernel
  exact ⟨Outline.layout_draw, ⟨he, hexpr e he⟩, ⟨hs, hstmt s hs⟩, rfl, rfl⟩

end DatatypeLowering
