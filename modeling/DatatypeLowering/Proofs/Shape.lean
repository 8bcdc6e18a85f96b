import DatatypeLowering.Proofs.Journal
import DatatypeLowering.Lowering.Recipe
/-!
# What lowering keeps

A successful lowering keeps the shape of the tree. Every statement keeps its head (variables,
buffers, extent counts, free functions, sequence lengths, whether an else branch or an initial
value is present), except that an allocation of a registered element type now holds unsigned
storage of the same width and lanes. Its expressions are what the pass makes of them on their
own, and inside them only three things happen (`Lowerer.LowersTo`): a node that triggers nothing
keeps its head and type over lowered operands; a load of a registered type becomes a load of the
same buffer, of unsigned storage of the same width and one lane; a node lowered by a function is
replaced by the function's output for the node rebuilt over lowered operands.

The proofs read a successful run backwards: through each bind (`LowerM.bind_eq_ok`), then
through each hook by an inversion lemma that lists what the hook can return.
-/

namespace DatatypeLowering

variable {α : Type}

/-- The head a statement has once lowered: an allocation of a registered element type holds
unsigned storage of the same width and lanes; every other head is kept. -/
def LoweringTable.loweredHead (t : LoweringTable α) : Stmt.Head → Stmt.Head
  | .allocate buffer dtype extents hasNewExpr freeFunction =>
    .allocate buffer (if t.isRegistered dtype.code then dtype.storage else dtype) extents
      hasNewExpr freeFunction
  | head => head

namespace Stmt

@[simp] theorem exprs_withAllocateDtype (s : Stmt) (d : DataType) :
    (s.withAllocateDtype d).exprs = s.exprs := by
  cases s <;> rfl

@[simp] theorem stmts_withAllocateDtype (s : Stmt) (d : DataType) :
    (s.withAllocateDtype d).stmts = s.stmts := by
  cases s <;> rfl

theorem head_withAllocateDtype {s : Stmt} {buffer : Var} {dtype d : DataType} {extents : Nat}
    {hasNewExpr : Bool} {freeFunction : Option String}
    (h : s.head = .allocate buffer dtype extents hasNewExpr freeFunction) :
    (s.withAllocateDtype d).head = .allocate buffer d extents hasNewExpr freeFunction := by
  cases s <;> simp_all [head, withAllocateDtype]

end Stmt

namespace Lowerer

/-- How the pass may lower an expression, node by node: a node that triggers nothing keeps its
head and type over lowered operands; a load of a registered type reads the same buffer as unsigned
storage of one lane; a node lowered by a function is replaced by the function's output for the
node rebuilt over lowered operands. -/
inductive LowersTo (L : Lowerer α) : Expr → Expr → Prop where
  | kept {e e' : Expr} (htrigger : L.table.trigger e = none) (hhead : e'.head = e.head)
      (hdtype : e'.dtype = e.dtype) (hsources : List.Forall₂ (LowersTo L) e.sources e'.sources) :
      LowersTo L e e'
  | load {dtype : DataType} {buffer : Var} {index predicate index' predicate' : Expr}
      (hregistered : L.table.isRegistered dtype.code = true) (hindex : LowersTo L index index')
      (hpredicate : LowersTo L predicate predicate') :
      LowersTo L (.load dtype buffer index predicate)
        (.load (.uint dtype.bits) buffer index' predicate')
  | function {e r : Expr} {key : LoweringKey} {fn : α}
      (htrigger : L.table.trigger e = some (.function key))
      (hfn : L.table.lookup? L.target key = some fn) (hhead : r.head = e.head)
      (hdtype : r.dtype = e.dtype) (hsources : List.Forall₂ (LowersTo L) e.sources r.sources) :
      LowersTo L e (L.apply fn r)

/-- How the pass may lower a statement: its head as `LoweringTable.loweredHead` gives it, each
expression as the pass lowers it alone, each nested statement alike. -/
inductive StmtLowersTo (L : Lowerer α) : Stmt → Stmt → Prop where
  | intro {s s' : Stmt} (hhead : s'.head = L.table.loweredHead s.head)
      (hexprs : List.Forall₂ (fun e e' => (L.lowerExpr e).result = .ok e' ∧ L.LowersTo e e')
        s.exprs s'.exprs)
      (hstmts : List.Forall₂ (StmtLowersTo L) s.stmts s'.stmts) :
      StmtLowersTo L s s'

variable (L : Lowerer α)

/-- What the expression hook returns when it succeeds: the rebuilt node, a function's output for
it, or it retyped to unsigned storage of one lane. -/
theorem lowerExprNode_eq_ok {given rebuilt e' : Expr} {j j' : Journal α}
    (h : (L.rewriter.expr given rebuilt).run.run j = (.ok e', j')) :
    (L.table.trigger given = none ∧ e' = rebuilt) ∨
      (∃ key fn, L.table.trigger given = some (.function key) ∧
        L.table.lookup? L.target key = some fn ∧ e' = L.apply fn rebuilt) ∨
      (L.table.trigger given = some .storageLoad ∧
        e' = rebuilt.withDtype (.uint rebuilt.dtype.bits)) := by
  rw [rewriter_expr] at h
  unfold lowerExprNode at h
  split at h
  · next htrigger =>
    rw [LowerM.run_pure] at h
    cases h
    exact .inl ⟨htrigger, rfl⟩
  · next key htrigger =>
    unfold applyFunction at h
    split at h
    · rw [run_record_bind, LowerM.run_throw] at h
      cases h
    · next fn hfn =>
      rw [run_record_bind, run_record_bind, LowerM.run_pure] at h
      cases h
      exact .inr (.inl ⟨key, fn, htrigger, hfn, rfl⟩)
  · next htrigger =>
    rw [run_record_bind, LowerM.run_pure] at h
    cases h
    exact .inr (.inr ⟨htrigger, rfl⟩)

/-- What the statement hook returns: the rebuilt statement, with the lowered head of the given
one and the rebuilt children. -/
theorem lowerStmtNode_eq_ok {given rebuilt s' : Stmt} {j j' : Journal α}
    (hhead : rebuilt.head = given.head)
    (h : (L.rewriter.stmt given rebuilt).run.run j = (.ok s', j')) :
    s'.head = L.table.loweredHead given.head ∧ s'.exprs = rebuilt.exprs ∧
      s'.stmts = rebuilt.stmts := by
  rw [rewriter_stmt] at h
  cases given with
  | allocate buffer dtype extents condition newExpr freeFunction body =>
    change rebuilt.head = .allocate buffer dtype extents.length newExpr.isSome freeFunction
      at hhead
    by_cases hreg : L.table.isRegistered dtype.code
    · simp only [lowerStmtNode, hreg, ↓reduceIte, run_record_bind, LowerM.run_pure] at h
      cases h
      refine ⟨?_, Stmt.exprs_withAllocateDtype _ _, Stmt.stmts_withAllocateDtype _ _⟩
      rw [Stmt.head_withAllocateDtype hhead]
      simp [Stmt.head, LoweringTable.loweredHead, hreg]
    · simp only [lowerStmtNode, hreg, Bool.false_eq_true, ↓reduceIte, LowerM.run_pure] at h
      cases h
      refine ⟨?_, rfl, rfl⟩
      rw [hhead]
      simp [Stmt.head, LoweringTable.loweredHead, hreg]
  | _ =>
    simp only [lowerStmtNode, LowerM.run_pure] at h
    cases h
    exact ⟨hhead, rfl, rfl⟩

variable {L}

theorem forall₂_of_rewriteList {P : Expr → Expr → Prop} {es cs : List Expr} {j j' : Journal α}
    (hP : ∀ e ∈ es, ∀ e', (L.runExpr e).1 = .ok e' → P e e')
    (h : (Expr.rewriteList L.rewriter es).run.run j = (.ok cs, j')) : List.Forall₂ P es cs := by
  induction es generalizing cs j with
  | nil =>
    simp only [Expr.rewriteList, LowerM.run_pure] at h
    cases h
    exact .nil
  | cons e es ih =>
    simp only [Expr.rewriteList] at h
    obtain ⟨c, j₁, hc, h₁⟩ := LowerM.bind_eq_ok h
    obtain ⟨cs', j₂, hcs, h₂⟩ := LowerM.bind_eq_ok h₁
    rw [LowerM.run_pure] at h₂
    cases h₂
    have hrun : (L.runExpr e).1 = .ok c := by
      rw [← L.result_rewriteExpr e j, hc]
    exact .cons (hP e (by simp) c hrun)
      (ih (fun e' he' => hP e' (by simp [he'])) hcs)

theorem forall₂_of_rewriteStmtList {P : Stmt → Stmt → Prop} {ss cs : List Stmt}
    {j j' : Journal α} (hP : ∀ s ∈ ss, ∀ s', (L.runStmt s).1 = .ok s' → P s s')
    (h : (Stmt.rewriteList L.rewriter ss).run.run j = (.ok cs, j')) : List.Forall₂ P ss cs := by
  induction ss generalizing cs j with
  | nil =>
    simp only [Stmt.rewriteList, LowerM.run_pure] at h
    cases h
    exact .nil
  | cons s ss ih =>
    simp only [Stmt.rewriteList] at h
    obtain ⟨c, j₁, hc, h₁⟩ := LowerM.bind_eq_ok h
    obtain ⟨cs', j₂, hcs, h₂⟩ := LowerM.bind_eq_ok h₁
    rw [LowerM.run_pure] at h₂
    cases h₂
    have hrun : (L.runStmt s).1 = .ok c := by
      rw [← L.result_rewriteStmt s j, hc]
    exact .cons (hP s (by simp) c hrun)
      (ih (fun s' hs' => hP s' (by simp [hs'])) hcs)

/-- One node of a successful expression run: the operands succeed in turn, and the hook
succeeds on the node rebuilt over their results. -/
theorem runExpr_eq_ok {P : Expr → Expr → Prop} {e e' : Expr}
    (hP : ∀ c ∈ e.sources, ∀ c', (L.runExpr c).1 = .ok c' → P c c')
    (h : (L.runExpr e).1 = .ok e') :
    ∃ cs, List.Forall₂ P e.sources cs ∧
      ∃ j j', (L.rewriter.expr e (e.rebuild cs)).run.run j = (.ok e', j') := by
  have hrun : (e.rewrite L.rewriter).run.run [] = (.ok e', (L.runExpr e).2) := Prod.ext h rfl
  rw [Expr.rewrite_eq] at hrun
  obtain ⟨cs, j, hcs, hnode⟩ := LowerM.bind_eq_ok hrun
  exact ⟨cs, forall₂_of_rewriteList hP hcs, j, _, hnode⟩

/-- One node of a successful statement run: the lowered head, and expressions and nested
statements that are what their own runs give. -/
theorem runStmt_eq_ok {P : Expr → Expr → Prop} {Q : Stmt → Stmt → Prop} {s s' : Stmt}
    (hP : ∀ e ∈ s.exprs, ∀ e', (L.runExpr e).1 = .ok e' → P e e')
    (hQ : ∀ c ∈ s.stmts, ∀ c', (L.runStmt c).1 = .ok c' → Q c c')
    (h : (L.runStmt s).1 = .ok s') :
    s'.head = L.table.loweredHead s.head ∧ List.Forall₂ P s.exprs s'.exprs ∧
      List.Forall₂ Q s.stmts s'.stmts := by
  have hrun : (s.rewrite L.rewriter).run.run [] = (.ok s', (L.runStmt s).2) := Prod.ext h rfl
  rw [Stmt.rewrite_eq] at hrun
  obtain ⟨es, j₁, hes, h₁⟩ := LowerM.bind_eq_ok hrun
  obtain ⟨ss, j₂, hss, hnode⟩ := LowerM.bind_eq_ok h₁
  have hexprs := forall₂_of_rewriteList hP hes
  have hstmts := forall₂_of_rewriteStmtList hQ hss
  obtain ⟨hes', hss', hhead⟩ :=
    Stmt.rebuild_children hexprs.length_eq.symm hstmts.length_eq.symm
  obtain ⟨hhead', hexprs', hstmts'⟩ := L.lowerStmtNode_eq_ok hhead hnode
  refine ⟨hhead', ?_, ?_⟩
  · rw [hexprs', hes']
    exact hexprs
  · rw [hstmts', hss']
    exact hstmts

/-- A load lowered as storage: the node was a load of a registered type, and becomes a load of
the same buffer, over the lowered operands, of unsigned storage of one lane. -/
theorem lowersTo_of_storageLoad {e : Expr} {cs : List Expr}
    (htrigger : L.table.trigger e = some .storageLoad)
    (hsources : List.Forall₂ L.LowersTo e.sources cs) :
    L.LowersTo e ((e.rebuild cs).withDtype (.uint (e.rebuild cs).dtype.bits)) := by
  cases e with
  | load dtype buffer index predicate =>
    have hreg : L.table.isRegistered dtype.code = true := by
      simpa [LoweringTable.trigger] using htrigger
    rcases hsources with _ | ⟨hindex, _ | ⟨hpredicate, hrest⟩⟩
    cases hrest
    exact .load hreg hindex hpredicate
  | cast | floatImm | binary => simp [LoweringTable.trigger] at htrigger
  | var | intImm | uintImm | select | broadcast | call => simp [LoweringTable.trigger] at htrigger

theorem lowersTo_of_runExpr {e e' : Expr} (h : (L.runExpr e).1 = .ok e') : L.LowersTo e e' := by
  induction e using Expr.induction_sources generalizing e' with
  | step e ih =>
    obtain ⟨cs, hsources, j, j', hnode⟩ := runExpr_eq_ok ih h
    have hsources' : List.Forall₂ L.LowersTo e.sources (e.rebuild cs).sources := by
      rw [Expr.sources_rebuild hsources.length_eq.symm]
      exact hsources
    rcases L.lowerExprNode_eq_ok hnode with ⟨htrigger, rfl⟩ | ⟨key, fn, htrigger, hfn, rfl⟩ |
      ⟨htrigger, rfl⟩
    · exact .kept htrigger (Expr.head_rebuild e cs) (Expr.dtype_rebuild e cs) hsources'
    · exact .function htrigger hfn (Expr.head_rebuild e cs) (Expr.dtype_rebuild e cs) hsources'
    · exact lowersTo_of_storageLoad htrigger hsources

theorem stmtLowersTo_of_runStmt {s s' : Stmt} (h : (L.runStmt s).1 = .ok s') :
    L.StmtLowersTo s s' := by
  induction s using Stmt.induction_stmts generalizing s' with
  | step s ih =>
    have hexpr : ∀ e ∈ s.exprs, ∀ e', (L.runExpr e).1 = .ok e' →
        (L.lowerExpr e).result = .ok e' ∧ L.LowersTo e e' :=
      fun e _ e' he => ⟨by simpa using he, lowersTo_of_runExpr he⟩
    obtain ⟨hhead, hexprs, hstmts⟩ := runStmt_eq_ok hexpr ih h
    exact .intro hhead hexprs hstmts

end Lowerer

/-- A successful lowering keeps the shape of the tree: statement by statement the head, up to
the storage type of a registered allocation, with every expression lowered as on its own; and
inside an expression, node by node, the head and type of what triggers nothing, a one-lane
storage load for a load of a registered type, and a function's output only where a function is
triggered. -/
theorem lowering_keeps_tree_shape (L : Lowerer α) (s s' : Stmt) (e e' : Expr) :
    ((L.lowerStmt s).result = .ok s' → L.StmtLowersTo s s') ∧
      ((L.lowerExpr e).result = .ok e' → L.LowersTo e e') := by
  constructor
  · intro h
    rw [Lowerer.lowerStmt_result] at h
    exact Lowerer.stmtLowersTo_of_runStmt h
  · intro h
    rw [Lowerer.lowerExpr_result] at h
    exact Lowerer.lowersTo_of_runExpr h

/-- An allocation of four-lane custom elements keeps its lanes as storage, while a load from it
becomes a one-lane load of storage. -/
theorem storage_retyping_keeps_allocation_lanes :
    let L : Lowerer Recipe := ⟨⟨[("posit", ⟨200⟩)], []⟩, "cpu", Recipe.apply⟩
    let d : DataType := (DataType.custom ⟨200⟩ 32).withLanes 4
    let x : Expr := .load d ⟨"buf", d⟩ (.intImm (.int 32) 0) (.uintImm .bool 1)
    let x' : Expr := .load (.uint 32) ⟨"buf", d⟩ (.intImm (.int 32) 0) (.uintImm .bool 1)
    let s : Stmt :=
      .allocate ⟨"buf", d⟩ d [.intImm (.int 32) 16] (.uintImm .bool 1) none none (.evaluate x)
    let s' : Stmt :=
      .allocate ⟨"buf", d⟩ ((DataType.uint 32).withLanes 4) [.intImm (.int 32) 16]
        (.uintImm .bool 1) none none (.evaluate x')
    (L.lowerStmt s).result = .ok s' ∧ L.StmtLowersTo s s' ∧
      (L.lowerExpr x).result = .ok x' ∧ L.LowersTo x x' := by
  intro L d x x' s s'
  have hs : (L.lowerStmt s).result = .ok s' := rfl
  have hx : (L.lowerExpr x).result = .ok x' := rfl
  obtain ⟨hshape, hexpr⟩ := lowering_keeps_tree_shape L s s' x x'
  exact ⟨hs, hshape hs, hx, hexpr hx⟩

end DatatypeLowering
