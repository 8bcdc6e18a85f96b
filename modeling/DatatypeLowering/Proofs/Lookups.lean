import DatatypeLowering.Proofs.Journal
/-!
# What the pass looks up

A node is lowered by a registered function when it is a cast whose own code or whose source's
code is registered, a float immediate whose code is, or a binary operation whose result code is.
Its key is read off the node as it is given to the pass, before its operands are lowered
(`LoweringTable.functionKey?`): a cast whose source is itself lowered is still keyed by the
source's original code.

The pass looks up these keys in post-order and stops at the first one the table has no function
for. So its lookups are the keys up to that one, that one included (`Lowerer.lookupsFor`), and it
fails with `missingFunction` for that key, or succeeds when there is none
(`Lowerer.outcomeFor`). The argument is a small logic of runs: `Lowerer.Performs x ks` says that
`x` behaves so for the keys `ks`, it composes along `bind` by concatenating the keys, and each
hook performs the key of its node.
-/

namespace DatatypeLowering

variable {α β γ : Type}

def Trigger.key? : Trigger → Option LoweringKey
  | .function key => some key
  | .storageLoad => none

namespace LoweringTable

variable (t : LoweringTable α)

/-- The key of the function that lowers an expression node as given to the pass, if one does:
a cast whose own code or whose source's code is registered, under both codes; a float immediate
whose code is registered; a binary operation whose result code is registered, under the
operator and that code. -/
def functionKey? : Expr → Option LoweringKey
  | .cast dtype src =>
    if t.isRegistered dtype.code || t.isRegistered src.dtype.code then
      some (.cast dtype.code src.dtype.code)
    else none
  | .floatImm dtype _ => if t.isRegistered dtype.code then some (.floatImm dtype.code) else none
  | .binary op dtype _ _ =>
    if t.isRegistered dtype.code then some (.binary op dtype.code) else none
  | _ => none

def nodeKey? : Node → Option LoweringKey
  | .expr e => t.functionKey? e
  | .stmt _ => none

/-- The keys of the function-lowered nodes of an expression, in post-order. -/
def exprKeys (e : Expr) : List LoweringKey := e.nodes.filterMap t.functionKey?

def stmtKeys (s : Stmt) : List LoweringKey := s.nodes.filterMap t.nodeKey?

/-- The pass's trigger lowers a node by a function exactly under the node's key. -/
theorem functionKey?_eq_bind_trigger (e : Expr) :
    t.functionKey? e = (t.trigger e).bind Trigger.key? := by
  cases e with
  | cast dtype src =>
    simp only [functionKey?, trigger]
    split <;> rfl
  | floatImm dtype value =>
    simp only [functionKey?, trigger]
    split <;> rfl
  | binary op dtype lhs rhs =>
    simp only [functionKey?, trigger]
    split <;> rfl
  | load dtype buffer index predicate =>
    simp only [functionKey?, trigger]
    split <;> rfl
  | _ => rfl

@[simp] theorem filterMap_nodeKey?_map_expr (es : List Expr) :
    (es.map Node.expr).filterMap t.nodeKey? = es.filterMap t.functionKey? := by
  simp [List.filterMap_map, Function.comp_def, nodeKey?]

theorem stmtKeys_eq (s : Stmt) :
    t.stmtKeys s = s.exprs.flatMap t.exprKeys ++ s.stmts.flatMap t.stmtKeys := by
  rw [stmtKeys, Stmt.nodes_eq, List.filterMap_append, List.filterMap_append,
    filterMap_nodeKey?_map_expr, List.filterMap_flatMap, List.filterMap_flatMap]
  have hself : [Node.stmt s].filterMap t.nodeKey? = [] := rfl
  rw [hself, List.append_nil]
  rfl

theorem exprKeys_eq (e : Expr) :
    t.exprKeys e = e.sources.flatMap t.exprKeys ++ (t.functionKey? e).toList := by
  rw [exprKeys, Expr.nodes_eq, List.filterMap_append, List.filterMap_flatMap]
  congr 1

end LoweringTable

namespace Lowerer

variable (L : Lowerer α)

def provides (key : LoweringKey) : Bool := (L.table.lookup? L.target key).isSome

/-- The lookups of a run whose function-lowered nodes have the keys `ks`, in order: every key up
to the first one the table has no function for, that one included, each with whether a function
was found. -/
def lookupsFor (ks : List LoweringKey) : List (String × LoweringKey × Bool) :=
  (ks.takeWhile L.provides ++ (ks.find? (!L.provides ·)).toList).map fun k =>
    (L.target, k, L.provides k)

/-- How a run whose function-lowered nodes have the keys `ks` ends: it fails with
`missingFunction` for the first key the table has no function for, and succeeds if there is
none. -/
def outcomeFor (ks : List LoweringKey) : Except LowerError Unit :=
  match ks.find? (!L.provides ·) with
  | some key => .error (.missingFunction L.target key)
  | none => .ok ()

theorem lookupsFor_append_of_provides {ks : List LoweringKey} (h : ∀ k ∈ ks, L.provides k)
    (ks' : List LoweringKey) : L.lookupsFor (ks ++ ks') = L.lookupsFor ks ++ L.lookupsFor ks' := by
  have hnone : ks.find? (!L.provides ·) = none := by simpa using h
  have hself : ks.takeWhile L.provides = ks := by
    have happ := @List.takeWhile_append_of_pos _ L.provides ks [] h
    simpa using happ
  simp [lookupsFor, List.takeWhile_append_of_pos h, hnone, hself]

theorem lookupsFor_append_of_missing {ks : List LoweringKey} {key : LoweringKey}
    (h : ks.find? (!L.provides ·) = some key) (ks' : List LoweringKey) :
    L.lookupsFor (ks ++ ks') = L.lookupsFor ks := by
  obtain ⟨hkey, pre, post, rfl, hpre⟩ := List.find?_eq_some_iff_append.1 h
  have hpre' : ∀ k ∈ pre, L.provides k := by simpa using hpre
  have hnone : pre.find? (!L.provides ·) = none := by simpa using hpre'
  simp only [Bool.not_eq_eq_eq_not, Bool.not_true] at hkey
  simp [lookupsFor, List.find?_append, hnone, List.takeWhile_append_of_pos hpre', hkey]

theorem outcomeFor_append_of_provides {ks : List LoweringKey} (h : ∀ k ∈ ks, L.provides k)
    (ks' : List LoweringKey) : L.outcomeFor (ks ++ ks') = L.outcomeFor ks' := by
  have hnone : ks.find? (!L.provides ·) = none := by simpa using h
  simp [outcomeFor, List.find?_append, hnone]

theorem outcomeFor_append_of_missing {ks : List LoweringKey} {key : LoweringKey}
    (h : ks.find? (!L.provides ·) = some key) (ks' : List LoweringKey) :
    L.outcomeFor (ks ++ ks') = L.outcomeFor ks := by
  simp [outcomeFor, List.find?_append, h]

/-- `x`, started on any journal, appends steps whose lookups are those of `lookupsFor ks`, and
ends as `outcomeFor ks` says. -/
def Performs (x : LowerM α β) (ks : List LoweringKey) : Prop :=
  ∀ j, ∃ d, (x.run.run j).2 = j ++ d ∧ d.lookups = L.lookupsFor ks ∧
    (x.run.run j).1.map (fun _ => ()) = L.outcomeFor ks

section Performs

variable {L}

theorem Performs.pure (b : β) : L.Performs (pure b) [] := by
  intro j
  exact ⟨[], by rw [LowerM.run_pure, List.append_nil], rfl, rfl⟩

/-- Runs compose along `bind`: the keys of the second part follow those of the first, and a
failure of the first part stops the run before the second looks anything up. -/
theorem Performs.bind {x : LowerM α β} {f : β → LowerM α γ} {ks ks' : List LoweringKey}
    (hx : L.Performs x ks) (hf : ∀ b, L.Performs (f b) ks') : L.Performs (x >>= f) (ks ++ ks') := by
  intro j
  obtain ⟨d, hd, hl, ho⟩ := hx j
  rw [LowerM.run_bind]
  rcases hr : x.run.run j with ⟨_ | b, j'⟩
  · rw [hr] at hd ho
    cases hk : ks.find? (!L.provides ·) with
    | none => simp [outcomeFor, hk, Except.map] at ho
    | some key =>
      refine ⟨d, hd, ?_, ?_⟩
      · rw [hl, L.lookupsFor_append_of_missing hk]
      · rw [L.outcomeFor_append_of_missing hk, ← ho]
        rfl
  · rw [hr] at hd ho
    have hall : ∀ k ∈ ks, L.provides k := by
      cases hk : ks.find? (!L.provides ·) with
      | none => simpa using hk
      | some key => simp [outcomeFor, hk, Except.map] at ho
    obtain ⟨d', hd', hl', ho'⟩ := hf b j'
    refine ⟨d ++ d', ?_, ?_, ?_⟩
    · simp only at hd ⊢
      rw [hd', hd, List.append_assoc]
    · rw [Journal.lookups_append, hl, hl', L.lookupsFor_append_of_provides hall]
    · rw [L.outcomeFor_append_of_provides hall]
      exact ho'

theorem Performs.of_eq {x : LowerM α β} {ks ks' : List LoweringKey} (h : L.Performs x ks)
    (e : ks = ks') : L.Performs x ks' :=
  e ▸ h

theorem performs_record (s : Step α) (hs : Journal.lookups [s] = []) :
    L.Performs (record s) [] := by
  intro j
  exact ⟨[s], rfl, hs, rfl⟩

end Performs

/-- Applying the function of a key looks that key up, and fails exactly when it is missing. -/
theorem performs_applyFunction (key : LoweringKey) (rebuilt : Expr) :
    L.Performs (L.applyFunction key rebuilt) [key] := by
  unfold applyFunction
  cases h : L.table.lookup? L.target key with
  | none =>
    have hp : L.provides key = false := by simp [provides, h]
    intro j
    refine ⟨[.lookup L.target key false], rfl, ?_, ?_⟩
    · simp [lookupsFor, hp]
    · simp [outcomeFor, hp]
      rfl
  | some fn =>
    have hp : L.provides key = true := by simp [provides, h]
    intro j
    refine ⟨[.lookup L.target key true, .lowered key fn rebuilt (L.apply fn rebuilt)], ?_, ?_, ?_⟩
    · rw [run_record_bind, run_record_bind, LowerM.run_pure, List.append_assoc]
      rfl
    · simp [lookupsFor, hp]
    · simp [outcomeFor, hp]
      rfl

theorem performs_lowerExprNode (given rebuilt : Expr) :
    L.Performs (L.rewriter.expr given rebuilt) (L.table.functionKey? given).toList := by
  rw [rewriter_expr, L.table.functionKey?_eq_bind_trigger]
  unfold lowerExprNode
  cases L.table.trigger given with
  | none => exact .pure _
  | some trigger =>
    cases trigger with
    | function key => exact L.performs_applyFunction key rebuilt
    | storageLoad => exact (performs_record _ rfl).bind fun _ => .pure _

theorem performs_lowerStmtNode (given rebuilt : Stmt) :
    L.Performs (L.rewriter.stmt given rebuilt) [] := by
  rw [rewriter_stmt]
  unfold lowerStmtNode
  split
  · split
    · exact (performs_record _ rfl).bind fun _ => .pure _
    · exact .pure _
  · exact .pure _

theorem performs_rewriteList {es : List Expr}
    (h : ∀ e ∈ es, L.Performs (e.rewrite L.rewriter) (L.table.exprKeys e)) :
    L.Performs (Expr.rewriteList L.rewriter es) (es.flatMap L.table.exprKeys) := by
  induction es with
  | nil => exact .pure _
  | cons e es ih =>
    simp only [Expr.rewriteList]
    refine ((h e (by simp)).bind fun _ =>
      (ih fun c hc => h c (by simp [hc])).bind fun _ => .pure _).of_eq ?_
    simp

theorem performs_rewriteExpr (e : Expr) :
    L.Performs (e.rewrite L.rewriter) (L.table.exprKeys e) := by
  induction e using Expr.induction_sources with
  | step e ih =>
    rw [Expr.rewrite_eq, L.table.exprKeys_eq]
    exact (L.performs_rewriteList ih).bind fun cs => L.performs_lowerExprNode e (e.rebuild cs)

theorem performs_rewriteOption (e? : Option Expr) :
    L.Performs (Expr.rewriteOption L.rewriter e?) (e?.toList.flatMap L.table.exprKeys) := by
  cases e? with
  | none => exact .pure _
  | some e => exact ((L.performs_rewriteExpr e).bind fun _ => .pure _).of_eq (by simp)

mutual
theorem performs_rewriteStmt : ∀ s : Stmt, L.Performs (s.rewrite L.rewriter) (L.table.stmtKeys s)
  | .letIn _ value body =>
    ((L.performs_rewriteExpr value).bind fun _ =>
      (performs_rewriteStmt body).bind fun _ => L.performs_lowerStmtNode _ _).of_eq
      (by simp [LoweringTable.stmtKeys_eq, Stmt.exprs, Stmt.stmts])
  | .allocate _ _ extents condition newExpr _ body =>
    ((L.performs_rewriteList fun e _ => L.performs_rewriteExpr e).bind fun _ =>
      (L.performs_rewriteExpr condition).bind fun _ =>
        (L.performs_rewriteOption newExpr).bind fun _ =>
          (performs_rewriteStmt body).bind fun _ => L.performs_lowerStmtNode _ _).of_eq
      (by simp [LoweringTable.stmtKeys_eq, Stmt.exprs, Stmt.stmts])
  | .store _ value index predicate =>
    ((L.performs_rewriteExpr value).bind fun _ =>
      (L.performs_rewriteExpr index).bind fun _ =>
        (L.performs_rewriteExpr predicate).bind fun _ => L.performs_lowerStmtNode _ _).of_eq
      (by simp [LoweringTable.stmtKeys_eq, Stmt.exprs, Stmt.stmts])
  | .forLoop _ min extent body =>
    ((L.performs_rewriteExpr min).bind fun _ =>
      (L.performs_rewriteExpr extent).bind fun _ =>
        (performs_rewriteStmt body).bind fun _ => L.performs_lowerStmtNode _ _).of_eq
      (by simp [LoweringTable.stmtKeys_eq, Stmt.exprs, Stmt.stmts])
  | .ifThenElse cond thenCase elseCase =>
    ((L.performs_rewriteExpr cond).bind fun _ =>
      (performs_rewriteStmt thenCase).bind fun _ =>
        (performs_rewriteStmtOption elseCase).bind fun _ => L.performs_lowerStmtNode _ _).of_eq
      (by simp [LoweringTable.stmtKeys_eq, Stmt.exprs, Stmt.stmts])
  | .seq items =>
    ((performs_rewriteStmtList items).bind fun _ => L.performs_lowerStmtNode _ _).of_eq
      (by simp [LoweringTable.stmtKeys_eq, Stmt.exprs, Stmt.stmts])
  | .evaluate value =>
    ((L.performs_rewriteExpr value).bind fun _ => L.performs_lowerStmtNode _ _).of_eq
      (by simp [LoweringTable.stmtKeys_eq, Stmt.exprs, Stmt.stmts])
termination_by structural s => s

theorem performs_rewriteStmtList :
    ∀ ss : List Stmt, L.Performs (Stmt.rewriteList L.rewriter ss) (ss.flatMap L.table.stmtKeys)
  | [] => .pure _
  | s :: rest =>
    ((performs_rewriteStmt s).bind fun _ =>
      (performs_rewriteStmtList rest).bind fun _ => .pure _).of_eq (by simp)
termination_by structural ss => ss

theorem performs_rewriteStmtOption : ∀ s? : Option Stmt,
    L.Performs (Stmt.rewriteOption L.rewriter s?) (s?.toList.flatMap L.table.stmtKeys)
  | none => .pure _
  | some s => ((performs_rewriteStmt s).bind fun _ => .pure _).of_eq (by simp)
termination_by structural s? => s?
end

/-- The pass fails only for a missing function. -/
theorem runStmt_error {s : Stmt} {err : LowerError} (h : (L.runStmt s).1 = .error err) :
    ∃ key, err = .missingFunction L.target key := by
  obtain ⟨-, -, -, houtcome⟩ := L.performs_rewriteStmt s []
  change (L.runStmt s).1.map (fun _ => ()) = L.outcomeFor (L.table.stmtKeys s) at houtcome
  rw [h] at houtcome
  unfold outcomeFor at houtcome
  split at houtcome
  · next key _ =>
    cases houtcome
    exact ⟨key, rfl⟩
  · cases houtcome

end Lowerer

/-- Lowering looks up the keys of the function-lowered nodes in post-order, each read off the
node before its operands are lowered, up to and including the first key the table has no
function for; it then fails with `missingFunction` for that key, and it succeeds exactly when
every key has a function. This holds of a statement and of an expression lowered alone. -/
theorem lowering_looks_up_keys_in_postorder (L : Lowerer α) (s : Stmt) (e : Expr) :
    (L.lowerStmt s).journal.lookups = L.lookupsFor (L.table.stmtKeys s) ∧
      (L.lowerStmt s).result.map (fun _ => ()) = L.outcomeFor (L.table.stmtKeys s) ∧
      (L.lowerExpr e).journal.lookups = L.lookupsFor (L.table.exprKeys e) ∧
      (L.lowerExpr e).result.map (fun _ => ()) = L.outcomeFor (L.table.exprKeys e) := by
  obtain ⟨d, hd, hl, ho⟩ := L.performs_rewriteStmt s []
  obtain ⟨d', hd', hl', ho'⟩ := L.performs_rewriteExpr e []
  simp only [Lowerer.lowerStmt_journal, Lowerer.lowerStmt_result, Lowerer.lowerExpr_journal,
    Lowerer.lowerExpr_result, Lowerer.runStmt, Lowerer.runExpr]
  rw [hd, hd', List.nil_append, List.nil_append]
  exact ⟨hl, ho, hl', ho'⟩

end DatatypeLowering
