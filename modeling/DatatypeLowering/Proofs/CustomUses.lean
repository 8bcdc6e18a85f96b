import DatatypeLowering.Lowering.Residual
import DatatypeLowering.Proofs.PostOrder
/-!
# Custom type uses, node by node

The residual check rewrites a tree with hooks that keep every node and note each one that
carries a registered custom type. So it gives the tree back unchanged and lists, in post-order,
exactly the nodes of the tree that make such a use (`LoweringTable.customTypeUses_eq`): the
expressions of every kind whose own code is registered, and the allocations whose element code
is.
-/

namespace DatatypeLowering

variable {α : Type}

namespace LoweringTable

variable (t : LoweringTable α)

/-- The use of a registered custom type that a node makes, as the residual check reports it:
its own type for an expression, the element type for an allocation, with the node's label. -/
def customUse? : Node → Option CustomTypeUse
  | .expr e => if t.isRegistered e.dtype.code then some ⟨e.dtype, e.label⟩ else none
  | .stmt s@(.allocate _ dtype ..) =>
    if t.isRegistered dtype.code then some ⟨dtype, s.label⟩ else none
  | .stmt _ => none

theorem run_collect_expr (given rebuilt : Expr) (acc : List CustomTypeUse) :
    (t.residualCollector.expr given rebuilt).run acc =
      pure (rebuilt, acc ++ (t.customUse? (.expr given)).toList) := by
  by_cases h : t.isRegistered given.dtype.code <;>
    simp only [residualCollector, customUse?, h, ↓reduceIte, StateT.run_bind, StateT.run_modify,
      StateT.run_pure, pure_bind, Option.toList, List.append_nil, Bool.false_eq_true]

theorem run_collect_stmt (given rebuilt : Stmt) (acc : List CustomTypeUse) :
    (t.residualCollector.stmt given rebuilt).run acc =
      pure (rebuilt, acc ++ (t.customUse? (.stmt given)).toList) := by
  cases given with
  | allocate buffer dtype extents condition newExpr freeFunction body =>
    by_cases h : t.isRegistered dtype.code <;>
      simp only [residualCollector, customUse?, h, ↓reduceIte, StateT.run_bind, StateT.run_modify,
        StateT.run_pure, pure_bind, Option.toList, List.append_nil, Bool.false_eq_true]
  | _ => simp only [residualCollector, customUse?, StateT.run_pure, Option.toList, List.append_nil]

theorem run_collect_rewriteList {es : List Expr}
    (h : ∀ e ∈ es, ∀ acc, (e.rewrite t.residualCollector).run acc =
      pure (e, acc ++ (e.nodes.map .expr).filterMap t.customUse?))
    (acc : List CustomTypeUse) :
    (Expr.rewriteList t.residualCollector es).run acc =
      pure (es, acc ++ ((es.flatMap Expr.nodes).map .expr).filterMap t.customUse?) := by
  induction es generalizing acc with
  | nil => simp [Expr.rewriteList]
  | cons e es ih =>
    have he := h e (by simp) acc
    have hes := ih (fun c hc => h c (by simp [hc]))
    simp [Expr.rewriteList, he, hes]

theorem run_collect_rewriteExpr (e : Expr) (acc : List CustomTypeUse) :
    (e.rewrite t.residualCollector).run acc =
      pure (e, acc ++ (e.nodes.map .expr).filterMap t.customUse?) := by
  induction e using Expr.induction_sources generalizing acc with
  | step e ih =>
    have hsrc := t.run_collect_rewriteList ih acc
    rw [Expr.rewrite_eq, StateT.run_bind, hsrc, pure_bind]
    simp only [Expr.rebuild_sources]
    rw [run_collect_expr, Expr.nodes_eq e]
    simp only [List.map_append, List.filterMap_append, List.append_assoc]
    rfl

theorem run_collect_rewriteStmtList {ss : List Stmt}
    (h : ∀ s ∈ ss, ∀ acc, (s.rewrite t.residualCollector).run acc =
      pure (s, acc ++ s.nodes.filterMap t.customUse?))
    (acc : List CustomTypeUse) :
    (Stmt.rewriteList t.residualCollector ss).run acc =
      pure (ss, acc ++ (ss.flatMap Stmt.nodes).filterMap t.customUse?) := by
  induction ss generalizing acc with
  | nil => simp [Stmt.rewriteList]
  | cons s ss ih =>
    have hs := h s (by simp) acc
    have hss := ih (fun c hc => h c (by simp [hc]))
    simp [Stmt.rewriteList, hs, hss]

theorem run_collect_rewriteStmt (s : Stmt) (acc : List CustomTypeUse) :
    (s.rewrite t.residualCollector).run acc = pure (s, acc ++ s.nodes.filterMap t.customUse?) := by
  induction s using Stmt.induction_stmts generalizing acc with
  | step s ih =>
    have hexprs : (Expr.rewriteList t.residualCollector s.exprs).run acc =
        pure (s.exprs, acc ++ ((s.exprs.flatMap Expr.nodes).map .expr).filterMap t.customUse?) :=
      t.run_collect_rewriteList (fun e _ => t.run_collect_rewriteExpr e) acc
    rw [Stmt.rewrite_eq, StateT.run_bind, hexprs, pure_bind]
    rw [StateT.run_bind, t.run_collect_rewriteStmtList ih, pure_bind]
    simp only [Stmt.rebuild_exprs_stmts]
    rw [run_collect_stmt, Stmt.nodes_eq s]
    simp only [List.filterMap_append, List.append_assoc]
    rfl

/-- The residual check lists, in post-order, exactly the nodes of a statement that carry a
registered custom type. -/
theorem customTypeUses_eq (s : Stmt) : t.customTypeUses s = s.nodes.filterMap t.customUse? := by
  unfold customTypeUses
  rw [run_collect_rewriteStmt]
  rfl

end LoweringTable

end DatatypeLowering
