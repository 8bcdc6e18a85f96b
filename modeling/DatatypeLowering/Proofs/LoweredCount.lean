import DatatypeLowering.Proofs.Identity
import DatatypeLowering.Proofs.Lookups
import DatatypeLowering.Proofs.Traversal
/-!
# How many nodes the pass lowers

The pass counts the nodes it lowers (`Journal.loweredCount`): a node replaced by a function's
output, once the lookup of the function has succeeded; a load retyped to storage; an allocation
retyped to storage. Each counts once, whatever the function returns, and a lookup that finds
nothing counts for nothing.

The count is read off the post-order walk of the rewrite (`Rewriter.walk`), one visit per node.
The pass gets past a node unless the node is lowered by a function that the table lacks for the
target (`Lowerer.passes`), and it stops at the first node it cannot get past. So it lowers the
nodes that trigger lowering among those before that node (`Lowerer.loweredCountFor`): every such
node of the tree when it succeeds, and when it fails, those strictly before the node it fails at.
The argument is a small logic of runs, `LowerM.Counts x k ok`: `x` lowers `k` nodes and succeeds
exactly when `ok` holds; it composes along `bind`, each visit obeys it, and so does the walk.

Main statement: `lowered_count_counts_lowered_nodes`.
-/

namespace DatatypeLowering

variable {α β γ : Type}

namespace Journal

@[simp] theorem loweredCount_nil : loweredCount ([] : Journal α) = 0 := rfl

@[simp] theorem loweredCount_append (j j' : Journal α) :
    (j ++ j').loweredCount = j.loweredCount + j'.loweredCount := by
  simp [loweredCount]

end Journal

namespace LowerM

/-- `x`, started on any journal, appends steps of which `k` lower a node, and it succeeds
exactly when `ok` holds. -/
def Counts (x : LowerM α β) (k : Nat) (ok : Bool) : Prop :=
  ∀ j, ∃ d, (x.run.run j).2 = j ++ d ∧ d.loweredCount = k ∧ (x.run.run j).1.toBool = ok

theorem Counts.pure (b : β) : Counts (pure b : LowerM α β) 0 true := by
  intro j
  exact ⟨[], by rw [LowerM.run_pure, List.append_nil], rfl, rfl⟩

theorem Counts.of_eq {x : LowerM α β} {k k' : Nat} {ok ok' : Bool} (h : Counts x k ok)
    (hk : k = k') (hok : ok = ok') : Counts x k' ok' :=
  hk ▸ hok ▸ h

/-- Runs compose along `bind`: the second part's nodes are counted only when the first part
succeeds, since otherwise it never runs. -/
theorem Counts.bind {x : LowerM α β} {f : β → LowerM α γ} {k k' : Nat} {ok ok' : Bool}
    (hx : Counts x k ok) (hf : ∀ b, Counts (f b) k' ok') :
    Counts (x >>= f) (if ok then k + k' else k) (ok && ok') := by
  intro j
  obtain ⟨d, hd, hk, hok⟩ := hx j
  rw [LowerM.run_bind]
  rcases hr : x.run.run j with ⟨_ | b, j'⟩
  · rw [hr] at hd hok
    obtain rfl : ok = false := hok.symm
    exact ⟨d, hd, hk, rfl⟩
  · rw [hr] at hd hok
    obtain rfl : ok = true := hok.symm
    obtain ⟨d', hd', hk', hok'⟩ := hf b j'
    refine ⟨d ++ d', ?_, ?_, hok'⟩
    · rw [hd', show j' = j ++ d from hd, List.append_assoc]
    · rw [Journal.loweredCount_append, hk, hk']
      rfl

theorem Counts.map {x : LowerM α β} {k : Nat} {ok : Bool} (h : Counts x k ok) (g : β → γ) :
    Counts (g <$> x) k ok := by
  rw [← bind_pure_comp]
  exact (h.bind fun b => Counts.pure (g b)).of_eq (by cases ok <;> rfl) (by cases ok <;> rfl)

theorem Counts.of_map {x : LowerM α β} {g : β → γ} {k : Nat} {ok : Bool}
    (h : Counts (g <$> x) k ok) : Counts x k ok := by
  intro j
  obtain ⟨d, hd, hk, hok⟩ := h j
  have hrun : (g <$> x).run.run j = ((x.run.run j).1.map g, (x.run.run j).2) := by
    rw [← bind_pure_comp, LowerM.run_bind]
    rcases x.run.run j with ⟨_ | b, j'⟩ <;> rfl
  rw [hrun] at hd hok
  refine ⟨d, hd, hk, ?_⟩
  rcases hx : (x.run.run j).1 with err | b <;> rw [hx] at hok <;> exact hok

end LowerM

namespace Lowerer

variable (L : Lowerer α)

/-- Whether the pass gets past a node: the node is lowered by no function, or the table has the
function of its key for the target. -/
def passes (n : Node) : Bool := (L.table.nodeKey? n).all L.provides

/-- The number of nodes the pass lowers on a walk over nodes in order: the nodes that trigger
lowering among those before the first node it cannot get past. -/
def loweredCountFor (ns : List Node) : Nat :=
  ((ns.takeWhile L.passes).filter L.table.lowers).length

/-- Applying the function of a key counts one node when the table has the function, and fails,
counting nothing, when it lacks it. -/
theorem counts_applyFunction (key : LoweringKey) (rebuilt : Expr) :
    LowerM.Counts (L.applyFunction key rebuilt) (if L.provides key then 1 else 0)
      (L.provides key) := by
  unfold applyFunction
  cases h : L.table.lookup? L.target key with
  | none =>
    have hp : L.provides key = false := by simp [provides, h]
    rw [hp]
    intro j
    exact ⟨[.lookup L.target key false], rfl, rfl, rfl⟩
  | some fn =>
    have hp : L.provides key = true := by simp [provides, h]
    rw [hp]
    intro j
    refine ⟨[.lookup L.target key true, .lowered key fn rebuilt (L.apply fn rebuilt)], ?_, rfl, rfl⟩
    rw [run_record_bind, run_record_bind, LowerM.run_pure, List.append_assoc]
    rfl

/-- The expression hook counts its node when the node triggers lowering and the pass gets past
it, and it succeeds exactly when the pass gets past the node. -/
theorem counts_lowerExprNode (given rebuilt : Expr) :
    LowerM.Counts (L.rewriter.expr given rebuilt)
      (if L.passes (.expr given) && L.table.lowers (.expr given) then 1 else 0)
      (L.passes (.expr given)) := by
  have hkey := L.table.functionKey?_eq_bind_trigger given
  rw [rewriter_expr]
  unfold lowerExprNode
  cases htrigger : L.table.trigger given with
  | none =>
    have hp : L.passes (.expr given) = true := by
      simp [passes, LoweringTable.nodeKey?, hkey, htrigger]
    have hl : L.table.lowers (.expr given) = false := by simp [LoweringTable.lowers, htrigger]
    rw [hp, hl]
    exact LowerM.Counts.pure _
  | some trigger =>
    have hl : L.table.lowers (.expr given) = true := by simp [LoweringTable.lowers, htrigger]
    cases trigger with
    | function key =>
      have hp : L.passes (.expr given) = L.provides key := by
        simp [passes, LoweringTable.nodeKey?, hkey, htrigger, Trigger.key?]
      rw [hp, hl, Bool.and_true]
      exact L.counts_applyFunction key rebuilt
    | storageLoad =>
      -- a load is retyped without a lookup, so the pass always gets past it
      have hp : L.passes (.expr given) = true := by
        simp [passes, LoweringTable.nodeKey?, hkey, htrigger, Trigger.key?]
      rw [hp, hl]
      intro j
      exact ⟨[.retypedLoad rebuilt.dtype (.uint rebuilt.dtype.bits)], rfl, rfl, rfl⟩

theorem counts_lowerStmtNode (given rebuilt : Stmt) :
    LowerM.Counts (L.rewriter.stmt given rebuilt) (if L.table.lowers (.stmt given) then 1 else 0)
      true := by
  rw [rewriter_stmt]
  cases given with
  | allocate buffer dtype extents condition newExpr freeFunction body =>
    have hl : L.table.lowers
        (.stmt (.allocate buffer dtype extents condition newExpr freeFunction body)) =
          L.table.isRegistered dtype.code := rfl
    rw [hl]
    cases h : L.table.isRegistered dtype.code
    · simp only [lowerStmtNode, h, Bool.false_eq_true, ↓reduceIte]
      exact LowerM.Counts.pure _
    · simp only [lowerStmtNode, h, ↓reduceIte]
      intro j
      exact ⟨[.retypedAllocation dtype dtype.storage], rfl, rfl, rfl⟩
  | _ => exact LowerM.Counts.pure _

theorem counts_visit (st : Stacks) (n : Node) :
    LowerM.Counts (L.rewriter.visit st n) (if L.passes n && L.table.lowers n then 1 else 0)
      (L.passes n) := by
  cases n with
  | expr e =>
    simp only [Rewriter.visit, bind_pure_comp]
    exact (L.counts_lowerExprNode _ _).map _
  | stmt s =>
    simp only [Rewriter.visit, bind_pure_comp]
    have hp : L.passes (.stmt s) = true := rfl
    rw [hp, Bool.true_and]
    exact (L.counts_lowerStmtNode _ _).map _

theorem loweredCountFor_cons (n : Node) (ns : List Node) :
    L.loweredCountFor (n :: ns) =
      if L.passes n then (if L.table.lowers n then 1 else 0) + L.loweredCountFor ns else 0 := by
  cases hp : L.passes n <;> cases hl : L.table.lowers n <;>
    simp [loweredCountFor, hp, hl, Nat.add_comm]

/-- A walk over nodes counts the nodes that trigger lowering before the first one the pass cannot
get past, and it succeeds exactly when it gets past them all. -/
theorem counts_walk (ns : List Node) (st : Stacks) :
    LowerM.Counts (L.rewriter.walk ns st) (L.loweredCountFor ns) (ns.all L.passes) := by
  induction ns generalizing st with
  | nil => exact LowerM.Counts.pure st
  | cons n ns ih =>
    rw [Rewriter.walk_cons]
    refine ((L.counts_visit st n).bind ih).of_eq ?_ (by rw [List.all_cons])
    rw [loweredCountFor_cons]
    cases L.passes n <;> simp

/-- Lowering a statement counts the nodes that trigger lowering before the first one the pass
cannot get past, in post-order, and it succeeds exactly when it gets past them all. -/
theorem counts_rewriteStmt (s : Stmt) :
    LowerM.Counts (s.rewrite L.rewriter) (L.loweredCountFor s.nodes) (s.nodes.all L.passes) := by
  have h := L.counts_walk s.nodes ⟨[], []⟩
  rw [Rewriter.walk_stmtNodes] at h
  exact h.of_map

/-- The first key among some nodes' keys that the table lacks is the key of the first node the
pass cannot get past. -/
theorem find?_filterMap_nodeKey? (ns : List Node) :
    (ns.filterMap L.table.nodeKey?).find? (!L.provides ·) =
      (ns.find? (!L.passes ·)).bind L.table.nodeKey? := by
  induction ns with
  | nil => rfl
  | cons n ns ih =>
    cases hk : L.table.nodeKey? n with
    | none => simp [hk, passes, ih]
    | some key => cases hp : L.provides key <;> simp [hk, hp, passes, ih]

/-- Before the node where a walk stops, it gets past every node. -/
theorem takeWhile_passes_of_split {pre post : List Node} {n : Node}
    (hpre : ∀ m ∈ pre, L.passes m = true) (hn : L.passes n = false) :
    (pre ++ n :: post).takeWhile L.passes = pre := by
  rw [List.takeWhile_append_of_pos hpre, List.takeWhile_cons_of_neg (by simp [hn]),
    List.append_nil]

/-- A pass that fails does so at the first node it cannot get past: the node's key has no
function, and that key is the failure's. -/
theorem runStmt_error_at_node {s : Stmt} {err : LowerError} (h : (L.runStmt s).1 = .error err) :
    ∃ key pre n post, err = .missingFunction L.target key ∧ s.nodes = pre ++ n :: post ∧
      (∀ m ∈ pre, L.passes m = true) ∧ L.table.nodeKey? n = some key ∧ L.provides key = false := by
  obtain ⟨-, -, -, houtcome⟩ := L.performs_rewriteStmt s []
  change (L.runStmt s).1.map (fun _ => ()) = L.outcomeFor (L.table.stmtKeys s) at houtcome
  rw [h] at houtcome
  unfold outcomeFor LoweringTable.stmtKeys at houtcome
  rw [find?_filterMap_nodeKey?] at houtcome
  cases hfind : s.nodes.find? (!L.passes ·) with
  | none => simp [hfind, Except.map] at houtcome
  | some n =>
    obtain ⟨hn, pre, post, hnodes, hpre⟩ := List.find?_eq_some_iff_append.1 hfind
    cases hkey : L.table.nodeKey? n with
    | none => simp [passes, hkey] at hn
    | some key =>
      simp only [hfind, hkey, Option.bind_some] at houtcome
      have hp : L.provides key = false := by simpa [passes, hkey] using hn
      refine ⟨key, pre, n, post, ?_, hnodes, fun m hm => by simpa using hpre m hm, hkey, hp⟩
      cases houtcome
      rfl

theorem lowerStmt_log_getLast? {s s' : Stmt} (h : (L.runStmt s).1 = .ok s') :
    (L.lowerStmt s).log.getLast? =
      some (.debug "after custom datatype lowering"
        [("body.lowered", s'.tree), ("lowered_nodes", toString (L.runStmt s).2.loweredCount)]) := by
  rcases hrun : L.runStmt s with ⟨result, journal⟩
  rw [hrun] at h
  simp only at h
  simp only [lowerStmt, hrun, h, List.append_assoc, List.cons_append, List.getLast?_cons,
    List.getLast?_append, List.getLast?_nil, Option.getD_none, Option.getD_some, Option.some_or]

theorem passes_eq_false {n : Node} {key : LoweringKey} (hkey : L.table.nodeKey? n = some key)
    (hp : L.provides key = false) : L.passes n = false := by
  simp [passes, hkey, hp]

/-- The journal of a pass over a statement counts the nodes that trigger lowering before the first
one the pass cannot get past, and the pass succeeds exactly when it gets past them all. -/
theorem runStmt_loweredCount (s : Stmt) :
    (L.runStmt s).2.loweredCount = L.loweredCountFor s.nodes ∧
      (L.runStmt s).1.toBool = s.nodes.all L.passes := by
  obtain ⟨d, hd, hcount, hok⟩ := L.counts_rewriteStmt s []
  rw [List.nil_append] at hd
  exact ⟨by rw [show (L.runStmt s).2 = d from hd, hcount], hok⟩

/-- A pass that succeeds counts every node that triggers lowering, and logs that count last. -/
theorem lowerStmt_of_ok {s s' : Stmt} (h : (L.runStmt s).1 = .ok s') :
    (L.lowerStmt s).journal.loweredCount = (s.nodes.filter L.table.lowers).length ∧
      (L.lowerStmt s).log.getLast? =
        some (.debug "after custom datatype lowering"
          [("body.lowered", s'.tree),
            ("lowered_nodes", toString (s.nodes.filter L.table.lowers).length)]) := by
  obtain ⟨hcount, hok⟩ := L.runStmt_loweredCount s
  have hall : s.nodes.all L.passes = true := by
    rw [← hok, h]
    rfl
  have htake : s.nodes.takeWhile L.passes = s.nodes :=
    List.takeWhile_eq_self_iff.2 fun n hn => List.all_eq_true.1 hall n hn
  have hcount' : (L.runStmt s).2.loweredCount = (s.nodes.filter L.table.lowers).length := by
    rw [hcount, loweredCountFor, htake]
  refine ⟨by rw [lowerStmt_journal, hcount'], ?_⟩
  rw [L.lowerStmt_log_getLast? h, hcount']

/-- A pass that fails does so at the first node it cannot get past, having counted the nodes that
trigger lowering before that one. -/
theorem lowerStmt_of_error {s : Stmt} {err : LowerError} (h : (L.runStmt s).1 = .error err) :
    ∃ key pre n post, err = .missingFunction L.target key ∧ s.nodes = pre ++ n :: post ∧
      (∀ m ∈ pre, L.passes m = true) ∧ L.table.nodeKey? n = some key ∧
      L.provides key = false ∧
      (L.lowerStmt s).journal.loweredCount = (pre.filter L.table.lowers).length := by
  obtain ⟨key, pre, n, post, herr, hnodes, hpre, hkey, hp⟩ := L.runStmt_error_at_node h
  refine ⟨key, pre, n, post, herr, hnodes, hpre, hkey, hp, ?_⟩
  rw [lowerStmt_journal, (L.runStmt_loweredCount s).1, loweredCountFor, hnodes,
    L.takeWhile_passes_of_split hpre (L.passes_eq_false hkey hp)]

end Lowerer

/-- Lowering a statement counts, once each and whatever the functions return, the nodes that
trigger lowering: casts, float immediates and binary operations lowered by a function, loads of a
registered type and allocations of a registered element type. When it succeeds it has counted
every such node of the statement, and it logs that number; when it fails, which it does for a
missing function at the first node in post-order whose function the table lacks, it has counted
those strictly before that node. -/
theorem lowered_count_counts_lowered_nodes (L : Lowerer α) (s : Stmt) :
    (∀ s', (L.lowerStmt s).result = .ok s' →
      (L.lowerStmt s).journal.loweredCount = (s.nodes.filter L.table.lowers).length ∧
      (L.lowerStmt s).log.getLast? =
        some (.debug "after custom datatype lowering"
          [("body.lowered", s'.tree),
            ("lowered_nodes", toString (s.nodes.filter L.table.lowers).length)])) ∧
    (∀ err, (L.lowerStmt s).result = .error err →
      ∃ key pre n post, err = .missingFunction L.target key ∧ s.nodes = pre ++ n :: post ∧
        (∀ m ∈ pre, L.passes m = true) ∧ L.table.nodeKey? n = some key ∧
        L.provides key = false ∧
        (L.lowerStmt s).journal.loweredCount = (pre.filter L.table.lowers).length) :=
  ⟨fun _ h => L.lowerStmt_of_ok (by rwa [Lowerer.lowerStmt_result] at h),
    fun _ h => L.lowerStmt_of_error (by rwa [Lowerer.lowerStmt_result] at h)⟩

/-- An addition of two loads, inside the allocation they load from, all of a custom type: with a
function for the addition the pass lowers the two loads, the addition and the allocation; without
one it fails at the addition, having lowered the two loads before it but not the allocation,
which comes after it in post-order. -/
theorem loads_counted_before_missing_addition :
    let c : DataType := .custom ⟨200⟩ 32
    let x : Expr := .load c ⟨"buf", c⟩ (.intImm (.int 32) 0) (.uintImm .bool 1)
    let s : Stmt := .allocate ⟨"buf", c⟩ c [.intImm (.int 32) 16] (.uintImm .bool 1) none none
      (.evaluate (.binary .add c x x))
    let L : Lowerer Recipe :=
      ⟨⟨[("posit", ⟨200⟩)], [⟨"cpu", .binary .add ⟨200⟩, .call "posit_add" .storage⟩]⟩, "cpu",
        Recipe.apply⟩
    let L' : Lowerer Recipe := ⟨⟨[("posit", ⟨200⟩)], []⟩, "cpu", Recipe.apply⟩
    (L.lowerStmt s).journal.loweredCount = 4 ∧
      (L'.lowerStmt s).result = .error (.missingFunction "cpu" (.binary .add ⟨200⟩)) ∧
      (L'.lowerStmt s).journal.loweredCount = 2 := by
  intro c x s L L'
  obtain ⟨hok, -⟩ := lowered_count_counts_lowered_nodes L s
  obtain ⟨-, herr⟩ := lowered_count_counts_lowered_nodes L' s
  obtain ⟨s', hs'⟩ : ∃ s', (L.lowerStmt s).result = .ok s' := ⟨_, rfl⟩
  have hfail : (L'.lowerStmt s).result = .error (.missingFunction "cpu" (.binary .add ⟨200⟩)) := rfl
  obtain ⟨key, pre, n, post, -, hnodes, hpre, hkey, hp, hcount⟩ := herr _ hfail
  have htake : s.nodes.takeWhile L'.passes = pre := by
    rw [hnodes]
    exact L'.takeWhile_passes_of_split hpre (L'.passes_eq_false hkey hp)
  refine ⟨(hok s' hs').1.trans (by decide), hfail, ?_⟩
  rw [hcount, ← htake]
  decide

end DatatypeLowering
