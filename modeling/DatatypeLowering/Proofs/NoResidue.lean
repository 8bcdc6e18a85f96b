import DatatypeLowering.Proofs.Identity
import DatatypeLowering.Proofs.Lookups
import DatatypeLowering.Proofs.Shape
/-!
# No custom type survives lowering

Three conditions make the pass remove every registered custom type. No native code is
registered, so the unsigned storage that loads and allocations are retyped to is native. Every
expression node of a registered type is of a kind the pass lowers: a cast, a float immediate, a
binary operation or a load (`Expr.isLowerable`); a variable or a call of a custom type is left as
it is. And every lowering function maps a node whose operands are free of custom types to a tree
free of them (`LoweringTable.CustomFree`).

Then a run that does not stop on a missing function returns a tree with no custom type use, so
verification passes, and lowering that tree again changes nothing and looks nothing up. The
invariant is carried bottom-up: each operand comes back free of custom types, and the hook keeps
that for its node (`Lowerer.customFree_of_runExpr`, `Lowerer.customUse_eq_none_of_runStmt`).
-/

namespace DatatypeLowering

variable {α : Type}

/-- Whether a node is of a kind the pass lowers when its type is registered: a cast, a float
immediate, a binary operation or a load. -/
def Expr.isLowerable : Expr → Bool
  | .cast .. | .floatImm .. | .binary .. | .load .. => true
  | _ => false

theorem Expr.sources_withDtype (e : Expr) (t : DataType) :
    (e.withDtype t).sources = e.sources := by
  cases e <;> rfl

theorem Expr.dtype_withDtype (e : Expr) (t : DataType) : (e.withDtype t).dtype = t := by
  cases e <;> rfl

theorem TypeCode.isNative_ofNativeKind (k : NativeKind) :
    (TypeCode.ofNativeKind k).isNative = true := by
  cases k <;> rfl

theorem forall_mem_of_forall₂ {β γ : Type} {Q : γ → Prop} {l : List β} {u : List γ}
    (h : List.Forall₂ (fun _ b => Q b) l u) : ∀ b ∈ u, Q b := by
  induction h with
  | nil => simp
  | cons hb _ ih =>
    intro b hmem
    rcases List.mem_cons.1 hmem with rfl | hmem
    · exact hb
    · exact ih b hmem

namespace LoweringTable

variable (t : LoweringTable α)

/-- An expression none of whose nodes has a registered type. -/
def CustomFree (e : Expr) : Prop := ∀ x ∈ e.nodes, t.isRegistered x.dtype.code = false

variable {t}

theorem customFree_of_sources {e : Expr} (hsources : ∀ c ∈ e.sources, t.CustomFree c)
    (hself : t.isRegistered e.dtype.code = false) : t.CustomFree e := by
  intro x hx
  rw [Expr.nodes_eq] at hx
  rcases List.mem_append.1 hx with hx | hx
  · obtain ⟨c, hc, hxc⟩ := List.mem_flatMap.1 hx
    exact hsources c hc x hxc
  · rw [List.mem_singleton.1 hx]
    exact hself

theorem isRegistered_eq_false_of_trigger {x : Expr}
    (hkind : t.isRegistered x.dtype.code = true → x.isLowerable = true)
    (htrigger : t.trigger x = none) : t.isRegistered x.dtype.code = false := by
  cases hreg : t.isRegistered x.dtype.code
  · rfl
  · have hlower := hkind hreg
    cases x <;> simp_all [trigger, Expr.isLowerable, Expr.dtype]

/-- A statement whose head is the lowered head of another uses no custom type itself, when no
native code is registered: a retyped allocation holds native storage. -/
theorem customUse_stmt_eq_none {s s' : Stmt}
    (hnative : ∀ code : TypeCode, code.isNative = true → t.isRegistered code = false)
    (hhead : s'.head = t.loweredHead s.head) : t.customUse? (.stmt s') = none := by
  cases s' with
  | allocate buffer dtype extents condition newExpr freeFunction body =>
    cases s <;> simp only [Stmt.head, loweredHead, reduceCtorEq] at hhead
    case allocate buffer₀ dtype₀ extents₀ condition₀ newExpr₀ freeFunction₀ body₀ =>
    obtain ⟨-, rfl, -⟩ := Stmt.Head.allocate.inj hhead
    by_cases hreg : t.isRegistered dtype₀.code
    · have hstorage : t.isRegistered dtype₀.storage.code = false :=
        hnative _ (TypeCode.isNative_ofNativeKind .uint)
      simp [customUse?, hreg, hstorage]
    · simp [customUse?, hreg]
  | _ => rfl

end LoweringTable

namespace Lowerer

variable {L : Lowerer α}

section Invariant

variable (hnative : ∀ code : TypeCode, code.isNative = true → L.table.isRegistered code = false)
  (hfn : ∀ key fn, L.table.lookup? L.target key = some fn →
    ∀ n : Expr, (∀ c ∈ n.sources, L.table.CustomFree c) → L.table.CustomFree (L.apply fn n))
include hnative hfn

/-- An expression whose registered nodes are all lowerable is lowered to one free of custom
types. -/
theorem customFree_of_runExpr {e e' : Expr}
    (hkinds : ∀ x ∈ e.nodes, L.table.isRegistered x.dtype.code = true → x.isLowerable = true)
    (h : (L.runExpr e).1 = .ok e') : L.table.CustomFree e' := by
  induction e using Expr.induction_sources generalizing e' with
  | step e ih =>
    have hsource : ∀ c ∈ e.sources, ∀ c', (L.runExpr c).1 = .ok c' → L.table.CustomFree c' :=
      fun c hc c' hc' => ih c hc (fun x hx => hkinds x (Expr.mem_nodes_of_mem_sources hc hx)) hc'
    obtain ⟨cs, hsources, j, j', hnode⟩ := runExpr_eq_ok hsource h
    have hfree : ∀ c ∈ (e.rebuild cs).sources, L.table.CustomFree c := by
      rw [Expr.sources_rebuild hsources.length_eq.symm]
      exact forall_mem_of_forall₂ hsources
    rcases L.lowerExprNode_eq_ok hnode with ⟨htrigger, rfl⟩ | ⟨key, fn, -, hkey, rfl⟩ |
      ⟨-, rfl⟩
    · apply LoweringTable.customFree_of_sources hfree
      rw [Expr.dtype_rebuild]
      exact LoweringTable.isRegistered_eq_false_of_trigger (hkinds e (Expr.mem_nodes_self e))
        htrigger
    · exact hfn key fn hkey _ hfree
    · apply LoweringTable.customFree_of_sources
      · rw [Expr.sources_withDtype]
        exact hfree
      · rw [Expr.dtype_withDtype]
        exact hnative _ (TypeCode.isNative_ofNativeKind .uint)

/-- A statement whose registered expression nodes are all lowerable is lowered to one whose nodes
use no custom type. -/
theorem customUse_eq_none_of_runStmt {s s' : Stmt}
    (hkinds : ∀ x, .expr x ∈ s.nodes →
      L.table.isRegistered x.dtype.code = true → x.isLowerable = true)
    (h : (L.runStmt s).1 = .ok s') : ∀ n ∈ s'.nodes, L.table.customUse? n = none := by
  induction s using Stmt.induction_stmts generalizing s' with
  | step s ih =>
    have hexpr : ∀ e ∈ s.exprs, ∀ e', (L.runExpr e).1 = .ok e' → L.table.CustomFree e' :=
      fun e he e' he' => customFree_of_runExpr hnative hfn
        (fun x hx => hkinds x (Stmt.mem_nodes_of_mem_exprs he hx)) he'
    have hstmt : ∀ c ∈ s.stmts, ∀ c', (L.runStmt c).1 = .ok c' →
        ∀ n ∈ c'.nodes, L.table.customUse? n = none :=
      fun c hc c' hc' =>
        ih c hc (fun x hx => hkinds x (Stmt.nodes_subset_of_mem_stmts hc hx)) hc'
    obtain ⟨hhead, hexprs, hstmts⟩ := runStmt_eq_ok hexpr hstmt h
    intro n hn
    rw [Stmt.nodes_eq] at hn
    rcases List.mem_append.1 hn with hn | hn
    · rcases List.mem_append.1 hn with hn | hn
      · obtain ⟨x, hx, rfl⟩ := List.mem_map.1 hn
        obtain ⟨e', he', hxe'⟩ := List.mem_flatMap.1 hx
        simp [LoweringTable.customUse?, forall_mem_of_forall₂ hexprs e' he' x hxe']
      · obtain ⟨c', hc', hnc'⟩ := List.mem_flatMap.1 hn
        exact forall_mem_of_forall₂ hstmts c' hc' n hnc'
    · rw [List.mem_singleton.1 hn]
      exact LoweringTable.customUse_stmt_eq_none hnative hhead

theorem customTypeUses_eq_nil_of_runStmt {s s' : Stmt}
    (hkinds : ∀ x, .expr x ∈ s.nodes →
      L.table.isRegistered x.dtype.code = true → x.isLowerable = true)
    (h : (L.runStmt s).1 = .ok s') : L.table.customTypeUses s' = [] := by
  rw [LoweringTable.customTypeUses_eq, List.filterMap_eq_nil_iff]
  exact customUse_eq_none_of_runStmt hnative hfn hkinds h

end Invariant

end Lowerer

/-- When no native code is registered, every expression node of a registered type is a cast,
float immediate, binary operation or load, and every lowering function turns a node over
operands free of custom types into a tree free of them, the pass either stops on a missing
function or returns a tree with no custom type use, which it then leaves unchanged without a
lookup; so verification after lowering never fails. -/
theorem lowering_leaves_no_custom_types (L : Lowerer α) (s : Stmt) (f : Func)
    (hnative : ∀ code : TypeCode, code.isNative = true → L.table.isRegistered code = false)
    (hkinds : ∀ x, .expr x ∈ s.nodes →
      L.table.isRegistered x.dtype.code = true → x.isLowerable = true)
    (hfn : ∀ key fn, L.table.lookup? L.target key = some fn →
      ∀ n : Expr, (∀ c ∈ n.sources, L.table.CustomFree c) → L.table.CustomFree (L.apply fn n)) :
    ((∃ key, (L.lowerStmt s).result = .error (.missingFunction L.target key)) ∨
      ∃ s', (L.lowerStmt s).result = .ok s' ∧ L.table.customTypeUses s' = [] ∧
        (L.lowerStmt s').result = .ok s' ∧ (L.lowerStmt s').journal = []) ∧
    (f.body = s → ∀ target dtype node,
      (L.lowerFunc ⟨true⟩ f).result ≠ .error (.unloweredCustomType target dtype node)) := by
  constructor
  · rw [Lowerer.lowerStmt_result]
    cases hrun : (L.runStmt s).1 with
    | error err =>
      obtain ⟨key, rfl⟩ := L.runStmt_error hrun
      exact .inl ⟨key, rfl⟩
    | ok s' =>
      have huses := Lowerer.customTypeUses_eq_nil_of_runStmt hnative hfn hkinds hrun
      have hagain := Lowerer.runStmt_eq_of_lowers_eq_false
        ((L.table.customTypeUses_eq_nil_iff s').1 huses).2
      exact .inr ⟨s', rfl, huses, by simp [hagain], by simp [hagain]⟩
  · rintro rfl target dtype node
    rw [Lowerer.lowerFunc_result]
    cases hrun : (L.runStmt f.body).1 with
    | error err =>
      obtain ⟨key, rfl⟩ := L.runStmt_error hrun
      simp
    | ok s' =>
      have huses := Lowerer.customTypeUses_eq_nil_of_runStmt hnative hfn hkinds hrun
      simp [LoweringTable.verifyLowered, huses, Except.map]

/-- A table with one custom type and a call for its addition: an addition of two loads of the
type meets the three conditions, so its lowering leaves no custom type behind. -/
theorem custom_addition_lowered_without_residue :
    let L : Lowerer Recipe :=
      ⟨⟨[("posit", ⟨200⟩)], [⟨"cpu", .binary .add ⟨200⟩, .call "posit_add" .storage⟩]⟩, "cpu",
        Recipe.apply⟩
    let c : DataType := .custom ⟨200⟩ 32
    let x : Expr := .load c ⟨"buf", c⟩ (.intImm (.int 32) 0) (.uintImm .bool 1)
    let s : Stmt := .evaluate (.binary .add c x x)
    let f : Func := ⟨"f", [], s⟩
    ((∃ key, (L.lowerStmt s).result = .error (.missingFunction L.target key)) ∨
      ∃ s', (L.lowerStmt s).result = .ok s' ∧ L.table.customTypeUses s' = [] ∧
        (L.lowerStmt s').result = .ok s' ∧ (L.lowerStmt s').journal = []) ∧
    (f.body = s → ∀ target dtype node,
      (L.lowerFunc ⟨true⟩ f).result ≠ .error (.unloweredCustomType target dtype node)) := by
  intro L c x s f
  have hnative : ∀ code : TypeCode, code.isNative = true → L.table.isRegistered code = false := by
    intro code hcode
    cases code with
    | mk v =>
      simp [L, LoweringTable.isRegistered]
      intro hv
      subst hv
      simp [TypeCode.isNative, TypeCode.toNat] at hcode
  have hkinds : ∀ y, .expr y ∈ s.nodes →
      L.table.isRegistered y.dtype.code = true → y.isLowerable = true := by
    intro y hy hreg
    simp only [s, x, Stmt.nodes, Expr.nodes, List.map_append, List.map_cons, List.map_nil,
      List.mem_append, List.mem_cons, Node.expr.injEq, reduceCtorEq, List.not_mem_nil,
      or_false, or_assoc] at hy
    rcases hy with rfl | rfl | rfl | rfl | rfl | rfl | rfl <;> revert hreg <;> decide
  have hfn : ∀ key fn, L.table.lookup? L.target key = some fn →
      ∀ n : Expr, (∀ c ∈ n.sources, L.table.CustomFree c) → L.table.CustomFree (L.apply fn n) := by
    intro key fn hkey n hsources
    have hcall : fn = .call "posit_add" .storage := by
      simp only [L, LoweringTable.lookup?, List.find?, Option.map_eq_some_iff] at hkey
      obtain ⟨entry, hentry, rfl⟩ := hkey
      split at hentry <;> cases hentry
      rfl
    subst hcall
    show L.table.CustomFree (.call n.dtype.storage "posit_add" n.sources)
    apply LoweringTable.customFree_of_sources
    · exact hsources
    · exact hnative _ (TypeCode.isNative_ofNativeKind .uint)
  exact lowering_leaves_no_custom_types L s f hnative hkinds hfn

end DatatypeLowering
