import DatatypeLowering.Lowering.Entry
import DatatypeLowering.Proofs.PostOrder
/-!
# Runs of the lowering pass

The pass runs in `LowerM`: it appends steps to a journal and may stop with a failure. This
module gives the run of each building block from a given journal, and the frame law of the
pass: a computation of the pass appends to the journal it starts on and never reads it
(`LowerM.Appends`). Started on any journal, a rewrite by the pass returns what it returns from
the empty journal, after appending the same steps (`Lowerer.appends_rewriteStmt`); so a
subtree lowered inside a larger tree gives what it gives when lowered alone.
-/

namespace DatatypeLowering

variable {α β γ : Type}

namespace LowerM

@[simp] theorem run_pure (b : β) (j : Journal α) : (pure b : LowerM α β).run.run j = (.ok b, j) :=
  rfl

@[simp] theorem run_throw (e : LowerError) (j : Journal α) :
    (throw e : LowerM α β).run.run j = (.error e, j) :=
  rfl

theorem run_bind (x : LowerM α β) (f : β → LowerM α γ) (j : Journal α) :
    (x >>= f).run.run j =
      match x.run.run j with
      | (.ok b, j') => (f b).run.run j'
      | (.error e, j') => (.error e, j') := by
  simp only [ExceptT.run_bind, StateT.run_bind]
  rcases x.run.run j with ⟨_ | _, _⟩ <;> rfl

/-- A run that succeeds through a bind succeeds in both halves, the second from where the first
stopped. -/
theorem bind_eq_ok {x : LowerM α β} {f : β → LowerM α γ} {j j'' : Journal α} {c : γ}
    (h : (x >>= f).run.run j = (.ok c, j'')) :
    ∃ b j', x.run.run j = (.ok b, j') ∧ (f b).run.run j' = (.ok c, j'') := by
  rw [run_bind] at h
  rcases hx : x.run.run j with ⟨_ | b, j'⟩
  · rw [hx] at h
    cases h
  · rw [hx] at h
    exact ⟨b, j', rfl, h⟩

/-- A computation that only appends to the journal: started on any journal, it returns what it
returns from the empty one, and appends the same steps. -/
def Appends (x : LowerM α β) : Prop :=
  ∀ j, x.run.run j = ((x.run.run []).1, j ++ (x.run.run []).2)

theorem Appends.pure (b : β) : (pure b : LowerM α β).Appends := by
  intro j
  rw [run_pure, run_pure, List.append_nil]

theorem Appends.throw (e : LowerError) : (throw e : LowerM α β).Appends := by
  intro j
  rw [run_throw, run_throw, List.append_nil]

theorem Appends.bind {x : LowerM α β} {f : β → LowerM α γ} (hx : x.Appends)
    (hf : ∀ b, (f b).Appends) : (x >>= f).Appends := by
  intro j
  rw [run_bind, run_bind, hx j]
  rcases x.run.run [] with ⟨_ | b, d⟩
  · rfl
  · simp only
    rw [hf b (j ++ d), hf b d, List.append_assoc]

end LowerM

@[simp] theorem Lowerer.run_record (s : Step α) (j : Journal α) :
    (Lowerer.record s).run.run j = (.ok (), j ++ [s]) :=
  rfl

@[simp] theorem Lowerer.run_record_bind (s : Step α) (f : Unit → LowerM α β) (j : Journal α) :
    (Lowerer.record s >>= f).run.run j = (f ()).run.run (j ++ [s]) :=
  rfl

theorem Lowerer.appends_record (s : Step α) : (Lowerer.record s).Appends := by
  intro j
  rw [run_record, run_record, List.nil_append]

/-! ## Lookups in a journal -/

/-- The lookups of a journal in order: the target, the key, and whether a function was found. -/
def Journal.lookups (j : Journal α) : List (String × LoweringKey × Bool) :=
  j.filterMap fun
    | .lookup target key found => some (target, key, found)
    | _ => none

@[simp] theorem Journal.lookups_append (j j' : Journal α) :
    (j ++ j').lookups = j.lookups ++ j'.lookups := by
  simp [lookups]

@[simp] theorem Journal.lookups_nil : Journal.lookups ([] : Journal α) = [] := rfl

@[simp] theorem Journal.lookups_cons_lookup (target : String) (key : LoweringKey) (found : Bool)
    (j : Journal α) :
    Journal.lookups (.lookup target key found :: j) = (target, key, found) :: j.lookups :=
  rfl

@[simp] theorem Journal.lookups_cons_lowered (key : LoweringKey) (fn : α) (node replacement : Expr)
    (j : Journal α) : Journal.lookups (.lowered key fn node replacement :: j) = j.lookups :=
  rfl

@[simp] theorem Journal.lookups_cons_retypedLoad (before after : DataType) (j : Journal α) :
    Journal.lookups (.retypedLoad before after :: j) = j.lookups :=
  rfl

@[simp] theorem Journal.lookups_cons_retypedAllocation (before after : DataType) (j : Journal α) :
    Journal.lookups (.retypedAllocation before after :: j) = j.lookups :=
  rfl

/-! ## The frame law of the pass -/

namespace Lowerer

variable (L : Lowerer α)

@[simp] theorem rewriter_expr : L.rewriter.expr = L.lowerExprNode := rfl

@[simp] theorem rewriter_stmt : L.rewriter.stmt = L.lowerStmtNode := rfl

theorem appends_applyFunction (key : LoweringKey) (rebuilt : Expr) :
    (L.applyFunction key rebuilt).Appends := by
  unfold applyFunction
  split
  · exact (appends_record _).bind fun _ => .throw _
  · exact (appends_record _).bind fun _ => (appends_record _).bind fun _ => .pure _

theorem appends_lowerExprNode (given rebuilt : Expr) :
    (L.rewriter.expr given rebuilt).Appends := by
  rw [rewriter_expr]
  unfold lowerExprNode
  split
  · exact .pure _
  · exact L.appends_applyFunction _ _
  · exact (appends_record _).bind fun _ => .pure _

theorem appends_lowerStmtNode (given rebuilt : Stmt) :
    (L.rewriter.stmt given rebuilt).Appends := by
  rw [rewriter_stmt]
  unfold lowerStmtNode
  split
  · split
    · exact (appends_record _).bind fun _ => .pure _
    · exact .pure _
  · exact .pure _

theorem appends_rewriteList {es : List Expr} (h : ∀ e ∈ es, (e.rewrite L.rewriter).Appends) :
    (Expr.rewriteList L.rewriter es).Appends := by
  induction es with
  | nil => exact .pure _
  | cons e es ih =>
    simp only [Expr.rewriteList]
    exact (h e (by simp)).bind fun _ =>
      (ih fun c hc => h c (by simp [hc])).bind fun _ => .pure _

theorem appends_rewriteExpr (e : Expr) : (e.rewrite L.rewriter).Appends := by
  induction e using Expr.induction_sources with
  | step e ih =>
    rw [Expr.rewrite_eq]
    exact (L.appends_rewriteList ih).bind fun _ => L.appends_lowerExprNode _ _

theorem appends_rewriteOption (e? : Option Expr) :
    (Expr.rewriteOption L.rewriter e?).Appends := by
  cases e? with
  | none => exact .pure _
  | some e => exact (L.appends_rewriteExpr e).bind fun _ => .pure _

mutual
theorem appends_rewriteStmt : ∀ s : Stmt, (s.rewrite L.rewriter).Appends
  | .letIn _ value body =>
    (L.appends_rewriteExpr value).bind fun _ =>
      (appends_rewriteStmt body).bind fun _ => L.appends_lowerStmtNode _ _
  | .allocate _ _ _ condition newExpr _ body =>
    (L.appends_rewriteList fun e _ => L.appends_rewriteExpr e).bind fun _ =>
      (L.appends_rewriteExpr condition).bind fun _ =>
        (L.appends_rewriteOption newExpr).bind fun _ =>
          (appends_rewriteStmt body).bind fun _ => L.appends_lowerStmtNode _ _
  | .store _ value index predicate =>
    (L.appends_rewriteExpr value).bind fun _ =>
      (L.appends_rewriteExpr index).bind fun _ =>
        (L.appends_rewriteExpr predicate).bind fun _ => L.appends_lowerStmtNode _ _
  | .forLoop _ min extent body =>
    (L.appends_rewriteExpr min).bind fun _ =>
      (L.appends_rewriteExpr extent).bind fun _ =>
        (appends_rewriteStmt body).bind fun _ => L.appends_lowerStmtNode _ _
  | .ifThenElse cond thenCase elseCase =>
    (L.appends_rewriteExpr cond).bind fun _ =>
      (appends_rewriteStmt thenCase).bind fun _ =>
        (appends_rewriteStmtOption elseCase).bind fun _ => L.appends_lowerStmtNode _ _
  | .seq items =>
    (appends_rewriteStmtList items).bind fun _ => L.appends_lowerStmtNode _ _
  | .evaluate value =>
    (L.appends_rewriteExpr value).bind fun _ => L.appends_lowerStmtNode _ _
termination_by structural s => s

theorem appends_rewriteStmtList : ∀ ss : List Stmt, (Stmt.rewriteList L.rewriter ss).Appends
  | [] => .pure _
  | s :: rest =>
    (appends_rewriteStmt s).bind fun _ => (appends_rewriteStmtList rest).bind fun _ => .pure _
termination_by structural ss => ss

theorem appends_rewriteStmtOption : ∀ s? : Option Stmt, (Stmt.rewriteOption L.rewriter s?).Appends
  | none => .pure _
  | some s => (appends_rewriteStmt s).bind fun _ => .pure _
termination_by structural s? => s?
end

/-! ## Entry points -/

@[simp] theorem lowerStmt_result (s : Stmt) : (L.lowerStmt s).result = (L.runStmt s).1 := by
  cases h : L.runStmt s
  simp [lowerStmt, h]

@[simp] theorem lowerStmt_journal (s : Stmt) : (L.lowerStmt s).journal = (L.runStmt s).2 := by
  cases h : L.runStmt s
  simp [lowerStmt, h]

@[simp] theorem lowerExpr_result (e : Expr) : (L.lowerExpr e).result = (L.runExpr e).1 := by
  cases h : L.runExpr e
  simp [lowerExpr, rewriteExpr, h]

@[simp] theorem lowerExpr_journal (e : Expr) : (L.lowerExpr e).journal = (L.runExpr e).2 := by
  cases h : L.runExpr e
  simp [lowerExpr, rewriteExpr, h]

theorem runFunc_eq (f : Func) :
    L.runFunc f = ((L.runStmt f.body).1.map fun body => { f with body := body },
      (L.runStmt f.body).2) := by
  unfold runFunc runStmt Func.rewrite
  rw [LowerM.run_bind]
  rcases (f.body.rewrite L.rewriter).run.run [] with ⟨_ | body, j⟩ <;> rfl

/-- A function's lowering fails where its body's does; otherwise, when asked to, it verifies the
lowered body. -/
theorem lowerFunc_result (config : LowerConfig) (f : Func) :
    (L.lowerFunc config f).result =
      match (L.runStmt f.body).1 with
      | .error err => .error err
      | .ok body =>
        if config.verify then
          (L.table.verifyLowered L.target body).map fun _ => { f with body := body }
        else .ok { f with body := body } := by
  unfold lowerFunc
  rw [runFunc_eq]
  rcases (L.runStmt f.body).1 with err | body
  · rfl
  · cases config.verify
    · rfl
    · dsimp only [Except.map, if_true]
      cases L.table.verifyLowered L.target body <;> rfl

/-- Lowered inside a larger tree, from whatever the journal holds by then, an expression gives
what it gives lowered alone. -/
theorem result_rewriteExpr (e : Expr) (j : Journal α) :
    ((e.rewrite L.rewriter).run.run j).1 = (L.runExpr e).1 := by
  rw [L.appends_rewriteExpr e j]
  rfl

theorem result_rewriteStmt (s : Stmt) (j : Journal α) :
    ((s.rewrite L.rewriter).run.run j).1 = (L.runStmt s).1 := by
  rw [L.appends_rewriteStmt s j]
  rfl

end Lowerer

end DatatypeLowering
