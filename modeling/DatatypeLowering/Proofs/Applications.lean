import DatatypeLowering.Proofs.Lookups
import DatatypeLowering.Proofs.Shape
/-!
# What lowering functions receive

The pass applies a lowering function to a node only after lowering the node's operands, and it
hands the function the node rebuilt over them: the node's head and its own type, still custom,
over operands that are what the pass gives for the operands on their own. The function's output
is then what the pass gives for the node; nothing lowers it further, and the parent receives it as
its operand. The parent's own trigger is read off the parent as given, so off its operands as
they were before lowering.

The journal records every application, so the statement is one about journals: every application
recorded for an expression is made at one of its function-lowered nodes, in the way just said
(`Lowerer.lowered_mem_runExpr`). The proof splits the journal of a node's run into the journals of
its operands and the steps of its own hook (`LowerM.mem_journal_bind`).

Main statement: `lowering_functions_receive_lowered_operands`.
-/

namespace DatatypeLowering

variable {α β γ : Type}

namespace LowerM

/-- A step a bind records from the empty journal is recorded by its first part, or, once that
part succeeds, by the second part run from the empty journal. -/
theorem mem_journal_bind {x : LowerM α β} {f : β → LowerM α γ} (hf : ∀ b, (f b).Appends)
    {s : Step α} (h : s ∈ ((x >>= f).run.run []).2) :
    s ∈ (x.run.run []).2 ∨ ∃ b, (x.run.run []).1 = .ok b ∧ s ∈ ((f b).run.run []).2 := by
  rw [run_bind] at h
  rcases hx : x.run.run [] with ⟨_ | b, d⟩
  · rw [hx] at h
    exact .inl h
  · rw [hx] at h
    dsimp only at h
    rw [hf b d] at h
    rcases List.mem_append.1 h with h | h
    · exact .inl h
    · exact .inr ⟨b, rfl, h⟩

theorem result_bind_of_ok {x : LowerM α β} {f : β → LowerM α γ} (hf : ∀ b, (f b).Appends)
    {b : β} (hx : (x.run.run []).1 = .ok b) : ((x >>= f).run.run []).1 = ((f b).run.run []).1 := by
  rw [run_bind]
  rcases hrun : x.run.run [] with ⟨_ | b', d⟩
  · rw [hrun] at hx
    cases hx
  · rw [hrun] at hx
    cases hx
    dsimp only
    rw [hf b d]

end LowerM

namespace Lowerer

variable (L : Lowerer α)

/-- A function application the expression hook records is that of the key of the node as given,
to the rebuilt node, and the function's output is the hook's answer. -/
theorem lowered_mem_lowerExprNode {given rebuilt arg ret : Expr} {key : LoweringKey} {fn : α}
    (h : Step.lowered key fn arg ret ∈ ((L.lowerExprNode given rebuilt).run.run []).2) :
    L.table.functionKey? given = some key ∧ L.table.lookup? L.target key = some fn ∧
      arg = rebuilt ∧ ret = L.apply fn rebuilt ∧
      ((L.lowerExprNode given rebuilt).run.run []).1 = .ok ret := by
  rw [L.table.functionKey?_eq_bind_trigger]
  cases htrigger : L.table.trigger given with
  | none =>
    simp only [lowerExprNode, htrigger, LowerM.run_pure, List.not_mem_nil] at h
  | some trigger =>
    cases trigger with
    | storageLoad =>
      simp only [lowerExprNode, htrigger, run_record_bind, LowerM.run_pure, List.nil_append,
        List.mem_singleton, reduceCtorEq] at h
    | function key' =>
      cases hfn : L.table.lookup? L.target key' with
      | none =>
        -- a missing function records its lookup and nothing else
        simp only [lowerExprNode, htrigger, applyFunction, hfn, run_record_bind,
          LowerM.run_throw, List.nil_append, List.mem_singleton, reduceCtorEq] at h
      | some fn' =>
        simp only [lowerExprNode, htrigger, applyFunction, hfn, run_record_bind,
          LowerM.run_pure, List.nil_append, List.cons_append, List.mem_cons, List.not_mem_nil,
          reduceCtorEq, false_or, or_false, Step.lowered.injEq] at h
        obtain ⟨rfl, rfl, rfl, rfl⟩ := h
        simp only [lowerExprNode, htrigger, applyFunction, hfn, run_record_bind,
          LowerM.run_pure, Option.bind_some, Trigger.key?, and_self]

theorem appends_rewriteList_cons (c : Expr) (es : List Expr) :
    (Expr.rewriteList L.rewriter es >>= fun cs => pure (c :: cs) : LowerM α _).Appends :=
  (L.appends_rewriteList fun e _ => L.appends_rewriteExpr e).bind fun _ => .pure _

variable {L}

/-- A step the rewrite of operands records is one that some operand's own lowering records. -/
theorem mem_journal_rewriteList {es : List Expr} {s : Step α}
    (h : s ∈ ((Expr.rewriteList L.rewriter es).run.run []).2) :
    ∃ c ∈ es, s ∈ (L.runExpr c).2 := by
  induction es with
  | nil => simp only [Expr.rewriteList, LowerM.run_pure, List.not_mem_nil] at h
  | cons c es ih =>
    simp only [Expr.rewriteList] at h
    rcases LowerM.mem_journal_bind (fun c' => L.appends_rewriteList_cons c' es) h with
      h | ⟨c', -, h⟩
    · exact ⟨c, List.mem_cons_self, h⟩
    · rcases LowerM.mem_journal_bind (fun _ => .pure _) h with h | ⟨_, -, h⟩
      · obtain ⟨c'', hc'', h⟩ := ih h
        exact ⟨c'', List.mem_cons_of_mem c hc'', h⟩
      · simp only [LowerM.run_pure, List.not_mem_nil] at h

theorem result_rewriteList {es cs : List Expr}
    (h : List.Forall₂ (fun c c' => (L.runExpr c).1 = .ok c') es cs) :
    ((Expr.rewriteList L.rewriter es).run.run []).1 = .ok cs := by
  induction h with
  | nil => rfl
  | @cons c c' es cs hc _ ih =>
    simp only [Expr.rewriteList]
    rw [LowerM.result_bind_of_ok (fun c'' => L.appends_rewriteList_cons c'' es) hc,
      LowerM.result_bind_of_ok (fun _ => .pure _) ih]
    rfl

/-- The pass lowers a node by its hook, on the node as given and the node rebuilt over what the
pass gives for its operands. -/
theorem runExpr_eq_lowerExprNode {n : Expr} {cs : List Expr}
    (hcs : List.Forall₂ (fun c c' => (L.runExpr c).1 = .ok c') n.sources cs) :
    (L.runExpr n).1 = ((L.lowerExprNode n (n.rebuild cs)).run.run []).1 := by
  rw [runExpr, Expr.rewrite_eq,
    LowerM.result_bind_of_ok (fun cs => L.appends_lowerExprNode n (n.rebuild cs))
      (result_rewriteList hcs)]
  rfl

/-- Every function application recorded while lowering an expression is made at one of its
function-lowered nodes, to the node rebuilt over what the pass gives for its operands, and the
function's output is what the pass gives for that node. -/
theorem lowered_mem_runExpr {e arg ret : Expr} {key : LoweringKey} {fn : α}
    (h : Step.lowered key fn arg ret ∈ (L.runExpr e).2) :
    ∃ n ∈ e.nodes, ∃ cs, L.table.functionKey? n = some key ∧
      L.table.lookup? L.target key = some fn ∧
      List.Forall₂ (fun c c' => (L.runExpr c).1 = .ok c') n.sources cs ∧
      arg = n.rebuild cs ∧ ret = L.apply fn arg ∧ (L.runExpr n).1 = .ok ret := by
  induction e using Expr.induction_sources with
  | step e ih =>
    rw [runExpr, Expr.rewrite_eq] at h
    rcases LowerM.mem_journal_bind (fun cs => L.appends_lowerExprNode e (e.rebuild cs)) h with
      h | ⟨cs, hcs, h⟩
    · obtain ⟨c, hc, h⟩ := mem_journal_rewriteList h
      obtain ⟨n, hn, rest⟩ := ih c hc h
      exact ⟨n, Expr.mem_nodes_of_mem_sources hc hn, rest⟩
    · have hsources : List.Forall₂ (fun c c' => (L.runExpr c).1 = .ok c') e.sources cs :=
        forall₂_of_rewriteList (fun _ _ _ hc => hc) (Prod.ext hcs rfl)
      obtain ⟨hkey, hfn, rfl, rfl, hret⟩ := L.lowered_mem_lowerExprNode h
      exact ⟨e, Expr.mem_nodes_self e, cs, hkey, hfn, hsources, rfl, rfl,
        (runExpr_eq_lowerExprNode hsources).trans hret⟩

end Lowerer

/-- Every lowering function the pass applies while lowering an expression is applied at a
function-lowered node of it, whose key it is registered under, to the node rebuilt over what the
pass gives for its operands: the node's head and its own type, still custom, over the lowered
operands. The function's output is what the pass gives for that node, as it is. And any node is
lowered by the hook on the node as given, which decides its trigger, and the node rebuilt over
what the pass gives for its operands: a parent receives a lowered operand's output, while its own
trigger reads its operands as they were given. -/
theorem lowering_functions_receive_lowered_operands (L : Lowerer α) (e : Expr) :
    (∀ key fn arg ret, Step.lowered key fn arg ret ∈ (L.lowerExpr e).journal →
      ∃ n ∈ e.nodes, ∃ cs, L.table.functionKey? n = some key ∧
        L.table.lookup? L.target key = some fn ∧
        List.Forall₂ (fun c c' => (L.lowerExpr c).result = .ok c') n.sources cs ∧
        arg = n.rebuild cs ∧ arg.head = n.head ∧ arg.dtype = n.dtype ∧ arg.sources = cs ∧
        ret = L.apply fn arg ∧ (L.lowerExpr n).result = .ok ret) ∧
      (∀ n cs, List.Forall₂ (fun c c' => (L.lowerExpr c).result = .ok c') n.sources cs →
        (L.lowerExpr n).result = ((L.lowerExprNode n (n.rebuild cs)).run.run []).1) := by
  simp only [Lowerer.lowerExpr_journal, Lowerer.lowerExpr_result]
  refine ⟨fun key fn arg ret h => ?_, fun n cs hcs => Lowerer.runExpr_eq_lowerExprNode hcs⟩
  obtain ⟨n, hn, cs, hkey, hfn, hcs, rfl, rfl, hret⟩ := Lowerer.lowered_mem_runExpr h
  exact ⟨n, hn, cs, hkey, hfn, hcs, rfl, Expr.head_rebuild n cs, Expr.dtype_rebuild n cs,
    Expr.sources_rebuild hcs.length_eq.symm, rfl, hret⟩

/-- The function for a custom addition of two custom loads is applied once, to the addition over
the loads already retyped to their unsigned storage, still of the custom type; the call it
returns is what the pass gives for the addition. -/
theorem custom_addition_receives_retyped_loads :
    let L : Lowerer Recipe :=
      ⟨⟨[("posit", ⟨200⟩)], [⟨"cpu", .binary .add ⟨200⟩, .call "posit_add" .storage⟩]⟩, "cpu",
        Recipe.apply⟩
    let c : DataType := .custom ⟨200⟩ 32
    let x : Expr := .load c ⟨"buf", c⟩ (.intImm (.int 32) 0) (.uintImm .bool 1)
    let e : Expr := .binary .add c x x
    let x' : Expr := .load (.uint 32) ⟨"buf", c⟩ (.intImm (.int 32) 0) (.uintImm .bool 1)
    let arg : Expr := .binary .add c x' x'
    let ret : Expr := .call c.storage "posit_add" [x', x']
    Step.lowered (.binary .add ⟨200⟩) (.call "posit_add" .storage) arg ret ∈
        (L.lowerExpr e).journal ∧
      ∃ n ∈ e.nodes, ∃ cs, L.table.functionKey? n = some (.binary .add ⟨200⟩) ∧
        List.Forall₂ (fun c c' => (L.lowerExpr c).result = .ok c') n.sources cs ∧
        arg = n.rebuild cs ∧ arg.dtype = n.dtype ∧ ret = L.apply (.call "posit_add" .storage) arg ∧
        (L.lowerExpr n).result = .ok ret := by
  intro L c x e x' arg ret
  have hjournal : (L.lowerExpr e).journal = [.retypedLoad c (.uint 32), .retypedLoad c (.uint 32),
      .lookup "cpu" (.binary .add ⟨200⟩) true,
      .lowered (.binary .add ⟨200⟩) (.call "posit_add" .storage) arg ret] := rfl
  have hmem : Step.lowered (.binary .add ⟨200⟩) (.call "posit_add" .storage) arg ret ∈
      (L.lowerExpr e).journal := by
    rw [hjournal]
    simp
  obtain ⟨n, hn, cs, hkey, -, hcs, harg, -, hdtype, -, hret, hresult⟩ :=
    (lowering_functions_receive_lowered_operands L e).1 _ _ _ _ hmem
  exact ⟨hmem, n, hn, cs, hkey, hcs, harg, hdtype, hret, hresult⟩

end DatatypeLowering
