import DatatypeLowering.Proofs.PostOrder
/-!
# The rewrite as a post-order walk

A rewrite calls its hooks once per node, in post-order, each on the node as given and on the node
rebuilt over what the hooks answered for its children. This module proves it by a second,
iterative reading of the rewrite: walk the nodes of the tree in post-order (`Expr.nodes`,
`Stmt.nodes`) and keep the answers that no parent has taken yet on two stacks, one of expressions
and one of statements. At each node the latest answers are those of its children: the walk pops
them, hands the hook the node and the node rebuilt over them, and pushes the hook's answer
(`Rewriter.visit`). Walking the nodes of a tree pushes exactly what the rewrite returns, in any
monad (`Rewriter.walk_exprNodes`, `Rewriter.walk_stmtNodes`).

With hooks that keep a state and may fail, a walk that fails does so at its first failing visit,
every node before it visited with success and the state left as that visit left it
(`Rewriter.walk_run_eq_error`). Hooks that keep the rebuilt node give back the input tree, and an
expression has as many nodes as its node count.

Main statement: `rewrite_calls_hooks_in_postorder`.
-/

namespace DatatypeLowering

/-- The answers of a post-order walk that no parent has taken yet, the latest first. -/
structure Stacks where
  exprs : List Expr
  stmts : List Stmt

namespace Rewriter

variable {m : Type → Type} [Monad m]

/-- One node of a post-order walk. The latest answers, as many as the node has children of each
kind, are those of its children: the hook gets the node and the node rebuilt over them, and its
answer takes their place. -/
def visit (r : Rewriter m) (st : Stacks) : Node → m Stacks
  | .expr e => do
    let k := e.sources.length
    let e' ← r.expr e (e.rebuild (st.exprs.take k).reverse)
    pure ⟨e' :: st.exprs.drop k, st.stmts⟩
  | .stmt s => do
    let k := s.exprs.length
    let n := s.stmts.length
    let s' ← r.stmt s (s.rebuild (st.exprs.take k).reverse (st.stmts.take n).reverse)
    pure ⟨st.exprs.drop k, s' :: st.stmts.drop n⟩

def walk (r : Rewriter m) (ns : List Node) (st : Stacks) : m Stacks := ns.foldlM r.visit st

theorem walk_cons (r : Rewriter m) (n : Node) (ns : List Node) (st : Stacks) :
    r.walk (n :: ns) st = r.visit st n >>= r.walk ns :=
  List.foldlM_cons

end Rewriter

section Lawful

variable {m : Type → Type} [Monad m] [LawfulMonad m] (r : Rewriter m)

/-- A list rewrite answers as many expressions as it is given, so what follows it may assume so. -/
theorem Expr.rewriteList_bind_congr {β : Type} {es : List Expr} {f g : List Expr → m β}
    (h : ∀ cs, cs.length = es.length → f cs = g cs) :
    rewriteList r es >>= f = rewriteList r es >>= g := by
  induction es generalizing f g with
  | nil => simp [rewriteList, h [] rfl]
  | cons e es ih =>
    simp only [rewriteList, bind_assoc, pure_bind]
    exact bind_congr fun c => ih fun cs hcs => h (c :: cs) (by simp [hcs])

theorem Stmt.rewriteList_bind_congr {β : Type} {ss : List Stmt} {f g : List Stmt → m β}
    (h : ∀ cs, cs.length = ss.length → f cs = g cs) :
    rewriteList r ss >>= f = rewriteList r ss >>= g := by
  induction ss generalizing f g with
  | nil => simp [rewriteList, h [] rfl]
  | cons s ss ih =>
    simp only [rewriteList, bind_assoc, pure_bind]
    exact bind_congr fun c => ih fun cs hcs => h (c :: cs) (by simp [hcs])

namespace Rewriter

theorem walk_append (ns ns' : List Node) (st : Stacks) :
    r.walk (ns ++ ns') st = r.walk ns st >>= r.walk ns' :=
  List.foldlM_append

theorem walk_singleton (n : Node) (st : Stacks) : r.walk [n] st = r.visit st n := by
  simp [walk]

theorem walk_flatMap_exprNodes {es : List Expr}
    (h : ∀ e ∈ es, ∀ st : Stacks,
      r.walk (e.nodes.map .expr) st = (fun e' => ⟨e' :: st.exprs, st.stmts⟩) <$> e.rewrite r)
    (st : Stacks) :
    r.walk ((es.flatMap Expr.nodes).map .expr) st =
      (fun cs => ⟨cs.reverse ++ st.exprs, st.stmts⟩) <$> Expr.rewriteList r es := by
  induction es generalizing st with
  | nil => simp [walk, Expr.rewriteList]
  | cons e es ih =>
    rw [List.flatMap_cons, List.map_append, walk_append, h e (by simp)]
    simp only [Expr.rewriteList, bind_map_left, map_bind, map_pure]
    refine bind_congr fun c => ?_
    rw [ih (fun e' he' => h e' (by simp [he']))]
    simp

/-- Walking the nodes of an expression pushes what its rewrite answers. -/
theorem walk_exprNodes (e : Expr) (st : Stacks) :
    r.walk (e.nodes.map .expr) st = (fun e' => ⟨e' :: st.exprs, st.stmts⟩) <$> e.rewrite r := by
  induction e using Expr.induction_sources generalizing st with
  | step e ih =>
    rw [Expr.nodes_eq, List.map_append, walk_append, walk_flatMap_exprNodes r ih,
      Expr.rewrite_eq, bind_map_left, map_bind]
    refine Expr.rewriteList_bind_congr r fun cs hcs => ?_
    have htake : (cs.reverse ++ st.exprs).take e.sources.length = cs.reverse :=
      List.take_left' (by simp [hcs])
    have hdrop : (cs.reverse ++ st.exprs).drop e.sources.length = st.exprs :=
      List.drop_left' (by simp [hcs])
    simp [walk_singleton, visit, htake, hdrop]

theorem walk_flatMap_stmtNodes {ss : List Stmt}
    (h : ∀ s ∈ ss, ∀ st : Stacks,
      r.walk s.nodes st = (fun s' => ⟨st.exprs, s' :: st.stmts⟩) <$> s.rewrite r)
    (st : Stacks) :
    r.walk (ss.flatMap Stmt.nodes) st =
      (fun cs => ⟨st.exprs, cs.reverse ++ st.stmts⟩) <$> Stmt.rewriteList r ss := by
  induction ss generalizing st with
  | nil => simp [walk, Stmt.rewriteList]
  | cons s ss ih =>
    rw [List.flatMap_cons, walk_append, h s (by simp)]
    simp only [Stmt.rewriteList, bind_map_left, map_bind, map_pure]
    refine bind_congr fun c => ?_
    rw [ih (fun s' hs' => h s' (by simp [hs']))]
    simp

theorem walk_stmtNodes (s : Stmt) (st : Stacks) :
    r.walk s.nodes st = (fun s' => ⟨st.exprs, s' :: st.stmts⟩) <$> s.rewrite r := by
  induction s using Stmt.induction_stmts generalizing st with
  | step s ih =>
    rw [Stmt.nodes_eq, walk_append, walk_append,
      walk_flatMap_exprNodes r (fun e _ => walk_exprNodes r e), bind_map_left, bind_assoc,
      Stmt.rewrite_eq, map_bind]
    refine Expr.rewriteList_bind_congr r fun es hes => ?_
    rw [walk_flatMap_stmtNodes r ih, bind_map_left, map_bind]
    refine Stmt.rewriteList_bind_congr r fun ss hss => ?_
    have hetake : (es.reverse ++ st.exprs).take s.exprs.length = es.reverse :=
      List.take_left' (by simp [hes])
    have hedrop : (es.reverse ++ st.exprs).drop s.exprs.length = st.exprs :=
      List.drop_left' (by simp [hes])
    have hstake : (ss.reverse ++ st.stmts).take s.stmts.length = ss.reverse :=
      List.take_left' (by simp [hss])
    have hsdrop : (ss.reverse ++ st.stmts).drop s.stmts.length = st.stmts :=
      List.drop_left' (by simp [hss])
    simp [walk_singleton, visit, hetake, hedrop, hstake, hsdrop]

end Rewriter

theorem Expr.rewrite_keep (e : Expr) : e.rewrite (Rewriter.keep : Rewriter m) = pure e := by
  induction e using Expr.induction_sources with
  | step e ih =>
    rw [Expr.rewrite_eq, Expr.rewriteList_eq_pure ih, pure_bind, Expr.rebuild_sources]
    rfl

theorem Stmt.rewrite_keep (s : Stmt) : s.rewrite (Rewriter.keep : Rewriter m) = pure s := by
  induction s using Stmt.induction_stmts with
  | step s ih =>
    rw [Stmt.rewrite_eq, Expr.rewriteList_eq_pure fun e _ => Expr.rewrite_keep e, pure_bind,
      Stmt.rewriteList_eq_pure ih, pure_bind, Stmt.rebuild_exprs_stmts]
    rfl

end Lawful

theorem Expr.nodeCountList_eq_sum (es : List Expr) :
    nodeCountList es = (es.map nodeCount).sum := by
  induction es with
  | nil => rfl
  | cons e es ih => simp [nodeCountList, ih]

theorem Expr.nodeCount_eq (e : Expr) : e.nodeCount = (e.sources.map nodeCount).sum + 1 := by
  cases e <;> simp [nodeCount, sources, nodeCountList_eq_sum] <;> omega

/-- The post-order list of an expression's nodes has one entry per node. -/
theorem Expr.length_nodes (e : Expr) : e.nodes.length = e.nodeCount := by
  induction e using Expr.induction_sources with
  | step e ih =>
    rw [nodes_eq, nodeCount_eq, List.length_append, List.length_flatMap, List.length_singleton,
      List.map_congr_left ih]

section Fallible

variable {σ ε β γ : Type}

theorem exceptState_run_bind (x : ExceptT ε (StateM σ) β) (f : β → ExceptT ε (StateM σ) γ)
    (s : σ) :
    (x >>= f).run.run s =
      match x.run.run s with
      | (.ok b, s') => (f b).run.run s'
      | (.error e, s') => (.error e, s') := by
  simp only [ExceptT.run_bind, StateT.run_bind]
  rcases x.run.run s with ⟨_ | _, _⟩ <;> rfl

theorem exceptState_run_map_of_error {x : ExceptT ε (StateM σ) β} {f : β → γ} {s s' : σ}
    {err : ε} (h : x.run.run s = (.error err, s')) : (f <$> x).run.run s = (.error err, s') := by
  rw [← bind_pure_comp, exceptState_run_bind, h]

/-- With hooks that keep a state and may fail, a failed walk failed at its first failing visit:
the nodes before it were visited with success, and the state is the one that visit left, so no
later node was visited. -/
theorem Rewriter.walk_run_eq_error {r : Rewriter (ExceptT ε (StateM σ))} {ns : List Node}
    {st : Stacks} {s₀ s₁ : σ} {err : ε}
    (h : (r.walk ns st).run.run s₀ = (.error err, s₁)) :
    ∃ pre n post st' s', ns = pre ++ n :: post ∧
      (r.walk pre st).run.run s₀ = (.ok st', s') ∧
      (r.visit st' n).run.run s' = (.error err, s₁) := by
  induction ns generalizing st s₀ with
  | nil => cases h
  | cons n ns ih =>
    rw [Rewriter.walk_cons, exceptState_run_bind] at h
    rcases hn : (r.visit st n).run.run s₀ with ⟨_ | st₁, s₂⟩
    · rw [hn] at h
      cases h
      exact ⟨[], n, ns, st, s₀, rfl, rfl, hn⟩
    · rw [hn] at h
      obtain ⟨pre, n', post, st', s', rfl, hpre, hn'⟩ := ih h
      refine ⟨n :: pre, n', post, st', s', rfl, ?_, hn'⟩
      rw [Rewriter.walk_cons, exceptState_run_bind, hn]
      exact hpre

end Fallible

/-- A rewrite whose hooks keep a state and may fail rewrites the children of a node in order (a
statement's expressions, then its nested statements) and hands the hook the node as given and
the node rebuilt over the children's answers; the hook's answer is the node's. So it calls the
hooks once per node, in post-order, and returns the answer for the root. If a hook fails, the
rewrite fails with the first failure in that order, and no later hook runs. Hooks that keep the
rebuilt node give the tree back, and the expression hook runs once for each of an expression's
nodes. -/
theorem rewrite_calls_hooks_in_postorder {σ ε : Type} (r : Rewriter (ExceptT ε (StateM σ)))
    (e : Expr) (s : Stmt) :
    e.rewrite r = Expr.rewriteList r e.sources >>= (fun cs => r.expr e (e.rebuild cs)) ∧
      s.rewrite r = Expr.rewriteList r s.exprs >>= (fun es =>
        Stmt.rewriteList r s.stmts >>= fun ss => r.stmt s (s.rebuild es ss)) ∧
      r.walk (e.nodes.map .expr) ⟨[], []⟩ = (fun e' => ⟨[e'], []⟩) <$> e.rewrite r ∧
      r.walk s.nodes ⟨[], []⟩ = (fun s' => ⟨[], [s']⟩) <$> s.rewrite r ∧
      (∀ s₀ s₁ err, (e.rewrite r).run.run s₀ = (.error err, s₁) →
        ∃ pre n post st s', e.nodes.map .expr = pre ++ n :: post ∧
          (r.walk pre ⟨[], []⟩).run.run s₀ = (.ok st, s') ∧
          (r.visit st n).run.run s' = (.error err, s₁)) ∧
      (∀ s₀ s₁ err, (s.rewrite r).run.run s₀ = (.error err, s₁) →
        ∃ pre n post st s', s.nodes = pre ++ n :: post ∧
          (r.walk pre ⟨[], []⟩).run.run s₀ = (.ok st, s') ∧
          (r.visit st n).run.run s' = (.error err, s₁)) ∧
      e.rewrite Rewriter.keep = (pure e : ExceptT ε (StateM σ) Expr) ∧
      s.rewrite Rewriter.keep = (pure s : ExceptT ε (StateM σ) Stmt) ∧
      e.nodes.length = e.nodeCount := by
  have he := r.walk_exprNodes e ⟨[], []⟩
  have hs := r.walk_stmtNodes s ⟨[], []⟩
  refine ⟨Expr.rewrite_eq r e, Stmt.rewrite_eq r s, he, hs, ?_, ?_, Expr.rewrite_keep e,
    Stmt.rewrite_keep s, Expr.length_nodes e⟩
  · intro s₀ s₁ err h
    apply Rewriter.walk_run_eq_error
    rw [he]
    exact exceptState_run_map_of_error h
  · intro s₀ s₁ err h
    apply Rewriter.walk_run_eq_error
    rw [hs]
    exact exceptState_run_map_of_error h

end DatatypeLowering
