import Mathlib
import DatatypeLowering.Ir.Rewrite
/-!
# Post-order

A rewrite finishes the nodes of a tree in post-order: the operands of an expression in turn,
then the expression; the expressions of a statement in turn, then its nested statements, then the
statement. This module lists the nodes of a tree in that order (`Expr.nodes`, `Stmt.nodes`), so
that what a pass does node by node can be stated over a list.

It also gives the rewrite of an expression the engine's own shape, whatever the monad: the
sources are rewritten in order, the node is rebuilt over the results, and the hook receives the
given node and the rebuilt one (`Expr.rewrite_eq`). With induction over the sources of a node
(`Expr.induction_sources`), one argument then covers every expression shape.
-/

namespace DatatypeLowering

/-- A node of an IR tree. -/
inductive Node where
  | expr (e : Expr)
  | stmt (s : Stmt)

namespace Expr

mutual
/-- An expression's nodes in post-order: the nodes of each operand in turn, then the node. -/
def nodes (e : Expr) : List Expr :=
  match e with
  | .var .. | .intImm .. | .uintImm .. | .floatImm .. => [e]
  | .cast _ src => src.nodes ++ [e]
  | .binary _ _ lhs rhs => lhs.nodes ++ rhs.nodes ++ [e]
  | .select _ cond onTrue onFalse => cond.nodes ++ onTrue.nodes ++ onFalse.nodes ++ [e]
  | .load _ _ index predicate => index.nodes ++ predicate.nodes ++ [e]
  | .broadcast _ value => value.nodes ++ [e]
  | .call _ _ args => nodesList args ++ [e]
termination_by structural e

def nodesList (es : List Expr) : List Expr :=
  match es with
  | [] => []
  | e :: rest => e.nodes ++ nodesList rest
termination_by structural es
end

theorem nodesList_eq_flatMap (es : List Expr) : nodesList es = es.flatMap nodes := by
  induction es with
  | nil => rfl
  | cons e es ih => simp [nodesList, ih]

theorem nodes_eq (e : Expr) : e.nodes = e.sources.flatMap nodes ++ [e] := by
  cases e <;> simp [nodes, sources, nodesList_eq_flatMap]

/-- A node over new operands, as the rewrite rebuilds it: a call over any number of them, any
other node over as many as it has. On another count the node is kept. -/
def rebuild (e : Expr) (cs : List Expr) : Expr :=
  match e, cs with
  | cast t _, [src] => cast t src
  | binary op t _ _, [lhs, rhs] => binary op t lhs rhs
  | select t _ _ _, [cond, onTrue, onFalse] => select t cond onTrue onFalse
  | load t buffer _ _, [index, predicate] => load t buffer index predicate
  | broadcast t _, [value] => broadcast t value
  | call t name _, args => call t name args
  | e, _ => e

theorem withSources_eq_ok_rebuild {e : Expr} {cs : List Expr}
    (h : cs.length = e.sources.length) : e.withSources cs = .ok (e.rebuild cs) := by
  cases e <;> rcases cs with _ | ⟨a, _ | ⟨b, _ | ⟨c, _ | ⟨d, cs⟩⟩⟩⟩ <;>
    simp_all [withSources, rebuild, sources]

@[simp] theorem head_rebuild (e : Expr) (cs : List Expr) : (e.rebuild cs).head = e.head := by
  cases e <;> rcases cs with _ | ⟨a, _ | ⟨b, _ | ⟨c, _ | ⟨d, cs⟩⟩⟩⟩ <;> rfl

@[simp] theorem dtype_rebuild (e : Expr) (cs : List Expr) : (e.rebuild cs).dtype = e.dtype := by
  cases e <;> rcases cs with _ | ⟨a, _ | ⟨b, _ | ⟨c, _ | ⟨d, cs⟩⟩⟩⟩ <;> rfl

theorem sources_rebuild {e : Expr} {cs : List Expr} (h : cs.length = e.sources.length) :
    (e.rebuild cs).sources = cs := by
  cases e <;> rcases cs with _ | ⟨a, _ | ⟨b, _ | ⟨c, _ | ⟨d, cs⟩⟩⟩⟩ <;>
    simp_all [rebuild, sources]

@[simp] theorem rebuild_sources (e : Expr) : e.rebuild e.sources = e := by
  cases e <;> rfl

theorem sizeOf_lt_of_mem_sources {c e : Expr} (h : c ∈ e.sources) : sizeOf c < sizeOf e := by
  cases e with
  | call t name args =>
    have hc : sizeOf c < sizeOf args := List.sizeOf_lt_of_mem (show c ∈ args from h)
    simp
    omega
  | _ => simp [sources] at h <;> rcases h with rfl | rfl | rfl <;> simp <;> omega

/-- Induction over expressions that sees every shape at once: a property of all sources of a
node gives it for the node. -/
@[elab_as_elim]
theorem induction_sources {motive : Expr → Prop}
    (step : ∀ e, (∀ c ∈ e.sources, motive c) → motive e) (e : Expr) : motive e :=
  step e fun c _ => induction_sources step c
termination_by e
decreasing_by exact sizeOf_lt_of_mem_sources ‹_›

section Engine

variable {m : Type → Type} [Monad m] [LawfulMonad m]

/-- The rewrite of an expression rewrites its sources in order, rebuilds the node over the
results, and hands the given and the rebuilt node to the hook. -/
theorem rewrite_eq (r : Rewriter m) (e : Expr) :
    e.rewrite r = rewriteList r e.sources >>= fun cs => r.expr e (e.rebuild cs) := by
  cases e <;> simp only [Expr.rewrite, rewriteList, sources, rebuild, bind_assoc, pure_bind]

theorem rewriteList_append (r : Rewriter m) (es es' : List Expr) :
    rewriteList r (es ++ es') =
      rewriteList r es >>= fun cs => rewriteList r es' >>= fun cs' => pure (cs ++ cs') := by
  induction es with
  | nil => simp [rewriteList]
  | cons e es ih => simp [rewriteList, ih]

theorem rewriteList_eq_pure {r : Rewriter m} {es : List Expr}
    (h : ∀ e ∈ es, e.rewrite r = pure e) : rewriteList r es = pure es := by
  induction es with
  | nil => rfl
  | cons e es ih =>
    have he : e.rewrite r = pure e := h e (by simp)
    have hes : rewriteList r es = pure es := ih fun c hc => h c (by simp [hc])
    simp [rewriteList, he, hes]

end Engine

theorem mem_nodes_self (e : Expr) : e ∈ e.nodes := by
  rw [nodes_eq]
  simp

theorem mem_nodes_of_mem_sources {c e x : Expr} (hc : c ∈ e.sources) (hx : x ∈ c.nodes) :
    x ∈ e.nodes := by
  rw [nodes_eq]
  exact List.mem_append_left _ (List.mem_flatMap.2 ⟨c, hc, hx⟩)

theorem nodes_subset_of_mem {x e : Expr} (h : x ∈ e.nodes) : x.nodes ⊆ e.nodes := by
  induction e using induction_sources with
  | step e ih =>
    intro y hy
    have he : e.nodes = e.sources.flatMap nodes ++ [e] := nodes_eq e
    rw [he] at h ⊢
    rcases List.mem_append.1 h with hx | hx
    · obtain ⟨c, hc, hxc⟩ := List.mem_flatMap.1 hx
      exact List.mem_append_left _ (List.mem_flatMap.2 ⟨c, hc, ih c hc hxc hy⟩)
    · rw [List.mem_singleton.1 hx, he] at hy
      exact hy

end Expr

namespace Stmt

mutual
/-- A statement's nodes in post-order: the nodes of its expressions in turn, those of its
nested statements in turn, then the statement. -/
def nodes (s : Stmt) : List Node :=
  match s with
  | .letIn _ value body => value.nodes.map .expr ++ body.nodes ++ [.stmt s]
  | .allocate _ _ extents condition newExpr _ body =>
    (Expr.nodesList extents ++ condition.nodes ++ Expr.nodesList newExpr.toList).map .expr ++
      body.nodes ++ [.stmt s]
  | .store _ value index predicate =>
    (value.nodes ++ index.nodes ++ predicate.nodes).map .expr ++ [.stmt s]
  | .forLoop _ min extent body =>
    (min.nodes ++ extent.nodes).map .expr ++ body.nodes ++ [.stmt s]
  | .ifThenElse cond thenCase elseCase =>
    cond.nodes.map .expr ++ thenCase.nodes ++ nodesOption elseCase ++ [.stmt s]
  | .seq items => nodesList items ++ [.stmt s]
  | .evaluate value => value.nodes.map .expr ++ [.stmt s]
termination_by structural s

def nodesList (ss : List Stmt) : List Node :=
  match ss with
  | [] => []
  | s :: rest => s.nodes ++ nodesList rest
termination_by structural ss

def nodesOption (s? : Option Stmt) : List Node :=
  match s? with
  | none => []
  | some s => s.nodes
termination_by structural s?
end

/-- A statement over new children, as the rewrite rebuilds it: a sequence over any number of
statements, an allocation over any number of extents followed by its condition and, if it has
one, its custom allocation expression, any other statement over as many children as it has. On
other counts the statement is kept. -/
def rebuild (s : Stmt) (es : List Expr) (ss : List Stmt) : Stmt :=
  match s, es, ss with
  | letIn var _ _, [value], [body] => letIn var value body
  | allocate buffer dtype _ _ newExpr freeFunction _, es, [body] =>
    let extents := es.length - (newExpr.toList.length + 1)
    match es.drop extents, newExpr with
    | [condition], none => allocate buffer dtype (es.take extents) condition none freeFunction body
    | [condition, e], some _ =>
      allocate buffer dtype (es.take extents) condition (some e) freeFunction body
    | _, _ => s
  | store buffer _ _ _, [value, index, predicate], [] => store buffer value index predicate
  | forLoop var _ _ _, [min, extent], [body] => forLoop var min extent body
  | ifThenElse _ _ none, [cond], [thenCase] => ifThenElse cond thenCase none
  | ifThenElse _ _ (some _), [cond], [thenCase, elseCase] =>
    ifThenElse cond thenCase (some elseCase)
  | seq _, [], items => seq items
  | evaluate _, [value], [] => evaluate value
  | s, _, _ => s

/-- On children of its own counts, `rebuild` is `replaceChildren`, which `withChildren` uses. -/
theorem rebuild_eq_replaceChildren {s : Stmt} {es : List Expr} {ss : List Stmt}
    (he : es.length = s.exprs.length) : s.rebuild es ss = s.replaceChildren es ss := by
  cases s with
  | allocate buffer dtype extents condition newExpr freeFunction body =>
    have hn : es.length - (newExpr.toList.length + 1) = extents.length := by
      simp [exprs] at he
      omega
    rcases ss with _ | ⟨b₁, _ | ⟨b₂, ss⟩⟩
    · rfl
    · simp only [rebuild, replaceChildren]
      -- `rewrite`, not `rw`: the two matches are equated by the case split below
      rewrite [hn]
      rcases List.drop extents.length es with _ | ⟨c, _ | ⟨x, _ | ⟨y, rest⟩⟩⟩ <;>
        cases newExpr <;> rfl
    · rfl
  | ifThenElse cond thenCase elseCase =>
    cases elseCase <;> rcases es with _ | ⟨a₁, _ | ⟨a₂, es⟩⟩ <;>
      rcases ss with _ | ⟨b₁, _ | ⟨b₂, _ | ⟨b₃, ss⟩⟩⟩ <;> rfl
  | _ =>
    rcases es with _ | ⟨a₁, _ | ⟨a₂, _ | ⟨a₃, _ | ⟨a₄, es⟩⟩⟩⟩ <;>
      rcases ss with _ | ⟨b₁, _ | ⟨b₂, ss⟩⟩ <;> rfl

theorem rebuild_children {s : Stmt} {es : List Expr} {ss : List Stmt}
    (he : es.length = s.exprs.length) (hs : ss.length = s.stmts.length) :
    (s.rebuild es ss).exprs = es ∧ (s.rebuild es ss).stmts = ss ∧
      (s.rebuild es ss).head = s.head := by
  rw [rebuild_eq_replaceChildren he]
  exact replaceChildren_children s es ss he hs

@[simp] theorem rebuild_exprs_stmts (s : Stmt) : s.rebuild s.exprs s.stmts = s := by
  rw [rebuild_eq_replaceChildren rfl]
  cases s with
  | allocate buffer dtype extents condition newExpr freeFunction body =>
    cases newExpr <;> simp [replaceChildren, exprs, stmts]
  | ifThenElse cond thenCase elseCase =>
    cases elseCase <;> simp [replaceChildren, exprs, stmts]
  | _ => simp [replaceChildren, exprs, stmts]

theorem sizeOf_lt_of_mem_stmts {c s : Stmt} (h : c ∈ s.stmts) : sizeOf c < sizeOf s := by
  cases s with
  | seq items =>
    have hc : sizeOf c < sizeOf items := List.sizeOf_lt_of_mem (show c ∈ items from h)
    simp
    omega
  | ifThenElse cond thenCase elseCase =>
    cases elseCase <;> simp [stmts] at h <;> rcases h with rfl | rfl <;> simp <;> omega
  | _ => simp [stmts] at h <;> subst h <;> simp

/-- Induction over statements that sees every shape at once: a property of all nested
statements of a statement gives it for the statement. -/
@[elab_as_elim]
theorem induction_stmts {motive : Stmt → Prop}
    (step : ∀ s, (∀ c ∈ s.stmts, motive c) → motive s) (s : Stmt) : motive s :=
  step s fun c _ => induction_stmts step c
termination_by s
decreasing_by exact sizeOf_lt_of_mem_stmts ‹_›

section Engine

variable {m : Type → Type} [Monad m] [LawfulMonad m]

/-- The rewrite of a statement rewrites its expressions in order, then its statements in order,
rebuilds the statement over the results, and hands the given and the rebuilt statement to the
hook. -/
theorem rewrite_eq (r : Rewriter m) (s : Stmt) :
    s.rewrite r = Expr.rewriteList r s.exprs >>= fun es =>
      rewriteList r s.stmts >>= fun ss => r.stmt s (s.rebuild es ss) := by
  cases s with
  | allocate buffer dtype extents condition newExpr freeFunction body =>
    -- `rebuild` counts the extents from the length of the rewritten expressions
    cases newExpr <;>
      simp only [Stmt.rewrite, Expr.rewriteOption, rewriteList, Expr.rewriteList,
        Expr.rewriteList_append, exprs, stmts, Option.toList, bind_assoc, pure_bind, rebuild,
        List.length_append, List.length_cons, List.length_nil, Nat.add_sub_cancel,
        List.drop_left, List.take_left]
  | ifThenElse cond thenCase elseCase =>
    cases elseCase <;>
      simp only [Stmt.rewrite, rewriteOption, rewriteList, Expr.rewriteList, exprs, stmts,
        Option.toList, bind_assoc, pure_bind, rebuild]
  | _ =>
    simp only [Stmt.rewrite, rewriteList, Expr.rewriteList, exprs, stmts, bind_assoc, pure_bind,
      rebuild]

theorem rewriteList_eq_pure {r : Rewriter m} {ss : List Stmt}
    (h : ∀ s ∈ ss, s.rewrite r = pure s) : rewriteList r ss = pure ss := by
  induction ss with
  | nil => rfl
  | cons s ss ih =>
    have hs : s.rewrite r = pure s := h s (by simp)
    have hss : rewriteList r ss = pure ss := ih fun c hc => h c (by simp [hc])
    simp [rewriteList, hs, hss]

end Engine

theorem nodesList_eq_flatMap (ss : List Stmt) : nodesList ss = ss.flatMap nodes := by
  induction ss with
  | nil => rfl
  | cons s ss ih => simp [nodesList, ih]

theorem nodesOption_eq_flatMap (s? : Option Stmt) : nodesOption s? = s?.toList.flatMap nodes := by
  cases s? <;> simp [nodesOption]

theorem nodes_eq (s : Stmt) :
    s.nodes = (s.exprs.flatMap Expr.nodes).map .expr ++ s.stmts.flatMap nodes ++ [.stmt s] := by
  cases s <;>
    simp [nodes, exprs, stmts, Expr.nodesList_eq_flatMap, nodesList_eq_flatMap,
      nodesOption_eq_flatMap]

theorem mem_nodes_self (s : Stmt) : .stmt s ∈ s.nodes := by
  rw [nodes_eq]
  simp

theorem mem_nodes_of_mem_exprs {s : Stmt} {e x : Expr} (he : e ∈ s.exprs) (hx : x ∈ e.nodes) :
    .expr x ∈ s.nodes := by
  rw [nodes_eq]
  exact List.mem_append_left _ (List.mem_append_left _
    (List.mem_map_of_mem (List.mem_flatMap.2 ⟨e, he, hx⟩)))

theorem nodes_subset_of_mem_stmts {c s : Stmt} (hc : c ∈ s.stmts) : c.nodes ⊆ s.nodes := by
  intro n hn
  rw [nodes_eq]
  exact List.mem_append_left _ (List.mem_append_right _ (List.mem_flatMap.2 ⟨c, hc, hn⟩))

theorem mem_nodes_of_mem_expr_nodes {s : Stmt} {x y : Expr} (hx : .expr x ∈ s.nodes)
    (hy : y ∈ x.nodes) : .expr y ∈ s.nodes := by
  induction s using induction_stmts with
  | step s ih =>
    rw [nodes_eq] at hx
    simp only [List.mem_append, List.mem_map, List.mem_flatMap, List.mem_singleton,
      reduceCtorEq, or_false] at hx
    rcases hx with ⟨x', ⟨e, he, hx'⟩, hxx⟩ | ⟨c, hc, hxc⟩
    · cases hxx
      exact mem_nodes_of_mem_exprs he (Expr.nodes_subset_of_mem hx' hy)
    · exact nodes_subset_of_mem_stmts hc (ih c hc hxc)

end Stmt

end DatatypeLowering
