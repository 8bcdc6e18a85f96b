import DatatypeLowering.Proofs.Journal
import DatatypeLowering.Proofs.CustomUses
import DatatypeLowering.Lowering.Recipe
/-!
# Trees the pass leaves alone

A node is lowered when it is an expression with a trigger (a cast, float immediate, binary
operation or load of a registered code, or a cast from one) or an allocation of a registered
element code. On a tree with no such node both hooks give back what they are handed, so the
rewrite rebuilds every node from the children it already had: the pass returns its input
unchanged and records nothing (`Lowerer.rewriteStmt_eq_pure`).

Having no custom type use is a stronger condition: a cast from a custom type is a use of its
source, and any other lowered node is a use of its own type. The converse fails: a variable or a
call of a custom type is a use that nothing lowers, and verification then rejects the unchanged
tree.
-/

namespace DatatypeLowering

variable {α : Type}

namespace LoweringTable

variable (t : LoweringTable α)

/-- Whether the pass lowers a node: an expression with a trigger, or an allocation whose element
code is registered. -/
def lowers : Node → Bool
  | .expr e => (t.trigger e).isSome
  | .stmt (.allocate _ dtype ..) => t.isRegistered dtype.code
  | .stmt _ => false

variable {t}

theorem trigger_eq_none {x : Expr} (h : ∀ y ∈ x.nodes, t.isRegistered y.dtype.code = false) :
    t.trigger x = none := by
  have hself := h x (Expr.mem_nodes_self x)
  cases x with
  | cast dtype src =>
    have hsrc : t.isRegistered src.dtype.code = false :=
      h src (Expr.mem_nodes_of_mem_sources (by simp [Expr.sources]) (Expr.mem_nodes_self src))
    simp only [Expr.dtype] at hself
    simp [trigger, hself, hsrc]
  | floatImm | binary | load =>
    simp only [Expr.dtype] at hself
    simp [trigger, hself]
  | var | intImm | uintImm | select | broadcast | call => rfl

/-- A statement without custom type uses lowers none of its nodes. -/
theorem lowers_eq_false_of_customUse {s : Stmt} (h : ∀ n ∈ s.nodes, t.customUse? n = none) :
    ∀ n ∈ s.nodes, t.lowers n = false := by
  intro n hn
  cases n with
  | expr x =>
    -- a cast may be lowered for its source's type, so every node below `x` is needed
    have hbelow : ∀ y ∈ x.nodes, t.isRegistered y.dtype.code = false := by
      intro y hy
      have hy' := h (.expr y) (Stmt.mem_nodes_of_mem_expr_nodes hn hy)
      simpa [customUse?] using hy'
    simp [lowers, trigger_eq_none hbelow]
  | stmt c =>
    have hc := h (.stmt c) hn
    cases c with
    | allocate => simpa [customUse?, lowers] using hc
    | _ => rfl

/-- The residual check passes exactly when no expression node has a registered type and no node
is lowered: then the allocations' element types are not registered either. -/
theorem customTypeUses_eq_nil_iff (s : Stmt) :
    t.customTypeUses s = [] ↔
      (∀ x, .expr x ∈ s.nodes → t.isRegistered x.dtype.code = false) ∧
        ∀ n ∈ s.nodes, t.lowers n = false := by
  rw [customTypeUses_eq, List.filterMap_eq_nil_iff]
  constructor
  · intro h
    refine ⟨fun x hx => ?_, lowers_eq_false_of_customUse h⟩
    simpa [customUse?] using h (.expr x) hx
  · rintro ⟨hexprs, hlowers⟩ n hn
    cases n with
    | expr x => simp [customUse?, hexprs x hn]
    | stmt c =>
      have hc := hlowers (.stmt c) hn
      cases c with
      | allocate => simpa [customUse?, lowers] using hc
      | _ => rfl

end LoweringTable

namespace Lowerer

variable (L : Lowerer α)

theorem lowerExprNode_of_trigger_eq_none {given : Expr} (h : L.table.trigger given = none)
    (rebuilt : Expr) : L.rewriter.expr given rebuilt = pure rebuilt := by
  rw [rewriter_expr]
  unfold lowerExprNode
  rw [h]

theorem lowerStmtNode_of_lowers_eq_false {given : Stmt}
    (h : L.table.lowers (.stmt given) = false) (rebuilt : Stmt) :
    L.rewriter.stmt given rebuilt = pure rebuilt := by
  rw [rewriter_stmt]
  cases given with
  | allocate =>
    simp only [LoweringTable.lowers] at h
    simp [lowerStmtNode, h]
  | _ => rfl

variable {L}

/-- An expression none of whose nodes is lowered is rewritten to itself, with no effect. -/
theorem rewriteExpr_eq_pure {e : Expr} (h : ∀ x ∈ e.nodes, L.table.lowers (.expr x) = false) :
    e.rewrite L.rewriter = pure e := by
  induction e using Expr.induction_sources with
  | step e ih =>
    have hsrc : Expr.rewriteList L.rewriter e.sources = pure e.sources := by
      apply Expr.rewriteList_eq_pure
      intro c hc
      exact ih c hc fun x hx => h x (Expr.mem_nodes_of_mem_sources hc hx)
    have hself : L.table.trigger e = none := by
      simpa [LoweringTable.lowers] using h e (Expr.mem_nodes_self e)
    rw [Expr.rewrite_eq, hsrc, pure_bind, Expr.rebuild_sources,
      L.lowerExprNode_of_trigger_eq_none hself]

theorem rewriteStmt_eq_pure {s : Stmt} (h : ∀ n ∈ s.nodes, L.table.lowers n = false) :
    s.rewrite L.rewriter = pure s := by
  induction s using Stmt.induction_stmts with
  | step s ih =>
    have hexprs : Expr.rewriteList L.rewriter s.exprs = pure s.exprs := by
      apply Expr.rewriteList_eq_pure
      intro e he
      exact rewriteExpr_eq_pure fun x hx => h _ (Stmt.mem_nodes_of_mem_exprs he hx)
    have hstmts : Stmt.rewriteList L.rewriter s.stmts = pure s.stmts := by
      apply Stmt.rewriteList_eq_pure
      intro c hc
      exact ih c hc fun n hn => h n (Stmt.nodes_subset_of_mem_stmts hc hn)
    rw [Stmt.rewrite_eq, hexprs, pure_bind, hstmts, pure_bind, Stmt.rebuild_exprs_stmts,
      L.lowerStmtNode_of_lowers_eq_false (h _ (Stmt.mem_nodes_self s))]

theorem runExpr_eq_of_lowers_eq_false {e : Expr}
    (h : ∀ x ∈ e.nodes, L.table.lowers (.expr x) = false) : L.runExpr e = (.ok e, []) := by
  unfold runExpr
  rw [rewriteExpr_eq_pure h]
  rfl

theorem runStmt_eq_of_lowers_eq_false {s : Stmt}
    (h : ∀ n ∈ s.nodes, L.table.lowers n = false) : L.runStmt s = (.ok s, []) := by
  unfold runStmt
  rw [rewriteStmt_eq_pure h]
  rfl

end Lowerer

/-- On a tree where nothing is lowered the pass is the identity and records nothing; the
residual check passes exactly when, besides, no expression node has a registered type; and a
function with such a body comes back unchanged unless verification finds a use, when it fails
on the first one. -/
theorem lowering_fixes_untriggered_trees (L : Lowerer α) (s : Stmt) (e : Expr) (f : Func)
    (config : LowerConfig) :
    ((∀ n ∈ s.nodes, L.table.lowers n = false) →
      (L.lowerStmt s).result = .ok s ∧ (L.lowerStmt s).journal = []) ∧
    ((∀ x ∈ e.nodes, L.table.lowers (.expr x) = false) →
      (L.lowerExpr e).result = .ok e ∧ (L.lowerExpr e).journal = []) ∧
    (L.table.customTypeUses s = [] ↔
      (∀ x, .expr x ∈ s.nodes → L.table.isRegistered x.dtype.code = false) ∧
        ∀ n ∈ s.nodes, L.table.lowers n = false) ∧
    ((∀ n ∈ f.body.nodes, L.table.lowers n = false) →
      (L.lowerFunc config f).result =
        match config.verify, L.table.customTypeUses f.body with
        | true, u :: _ => .error (.unloweredCustomType L.target u.dtype u.node)
        | _, _ => .ok f) := by
  refine ⟨fun hs => ?_, fun he => ?_, L.table.customTypeUses_eq_nil_iff s, fun hf => ?_⟩
  · simp [Lowerer.runStmt_eq_of_lowers_eq_false hs]
  · simp [Lowerer.runExpr_eq_of_lowers_eq_false he]
  · rw [Lowerer.lowerFunc_result, Lowerer.runStmt_eq_of_lowers_eq_false hf]
    cases config.verify <;> cases hu : L.table.customTypeUses f.body <;>
      simp [hu, LoweringTable.verifyLowered, Except.map]

/-- A variable of a custom type under a native addition: nothing is lowered, so the pass gives
the tree back and records nothing, and verification rejects the body at the variable. -/
theorem custom_variable_survives_lowering :
    let L : Lowerer Recipe := ⟨⟨[("posit", ⟨200⟩)], []⟩, "cpu", Recipe.apply⟩
    let x : Expr := .var (.custom ⟨200⟩ 32) "x"
    let e : Expr := .binary .add (.int 32) x (.intImm (.int 32) 1)
    let f : Func := ⟨"f", [], .evaluate e⟩
    (L.lowerStmt f.body).result = .ok f.body ∧ (L.lowerStmt f.body).journal = [] ∧
      (L.lowerExpr e).result = .ok e ∧ (L.lowerExpr e).journal = [] ∧
      (L.lowerFunc ⟨false⟩ f).result = .ok f ∧
      (L.lowerFunc ⟨true⟩ f).result = .error (.unloweredCustomType "cpu" x.dtype x.label) := by
  intro L x e f
  have hbody : ∀ n ∈ f.body.nodes, L.table.lowers n = false := by decide
  have hexpr : ∀ y ∈ e.nodes, L.table.lowers (.expr y) = false := by decide
  obtain ⟨hs, he, -, hoff⟩ := lowering_fixes_untriggered_trees L f.body e f ⟨false⟩
  obtain ⟨-, -, -, hon⟩ := lowering_fixes_untriggered_trees L f.body e f ⟨true⟩
  refine ⟨(hs hbody).1, (hs hbody).2, (he hexpr).1, (he hexpr).2, hoff hbody, ?_⟩
  rw [hon hbody]
  rfl

end DatatypeLowering
