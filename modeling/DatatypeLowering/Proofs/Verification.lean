import DatatypeLowering.Proofs.Lookups
import DatatypeLowering.Proofs.CustomUses
import DatatypeLowering.Lowering.Recipe
/-!
# Verification after lowering

The residual check walks a tree as a rewrite with hooks that change nothing, so it sees the nodes
in post-order, and it notes every expression, of any kind, whose own type is a registered custom
type, and every allocation whose element type is (`LoweringTable.customTypeUses_eq`).
Verification fails with the first node noted and passes when there is none: it reports the first
node of the tree, in post-order, that makes a custom type use (`LoweringTable.verifyLowered_eq`).

Lowering a function runs the pass over its body. When the pass fails, which it does only for a
missing function, lowering reports that failure; otherwise, with verification on, the first
residual use of the lowered body, if any; otherwise the function over the lowered body.

Main statement: `verification_reports_first_residual_use`.
-/

namespace DatatypeLowering

variable {α : Type}

namespace LoweringTable

variable (t : LoweringTable α)

/-- Verification fails at the first node of the tree, in post-order, that uses a registered
custom type, and passes when no node does. -/
theorem verifyLowered_eq (target : String) (s : Stmt) :
    t.verifyLowered target s =
      match s.nodes.findSome? t.customUse? with
      | none => .ok ()
      | some u => .error (.unloweredCustomType target u.dtype u.node) := by
  rw [← List.head?_filterMap, ← customTypeUses_eq]
  unfold verifyLowered
  cases t.customTypeUses s <;> rfl

end LoweringTable

namespace Lowerer

variable (L : Lowerer α) (config : LowerConfig) (f : Func)

/-- When the pass fails on a function's body, lowering the function fails the same way, for a
missing function. -/
theorem lowerFunc_result_of_error {err : LowerError} (h : (L.runStmt f.body).1 = .error err) :
    (L.lowerFunc config f).result = .error err ∧ ∃ key, err = .missingFunction L.target key := by
  refine ⟨?_, L.runStmt_error h⟩
  rw [lowerFunc_result, h]

/-- When the pass lowers a function's body, lowering the function returns it over the lowered
body, unless verification is on and finds a residual use, the first of which it reports. -/
theorem lowerFunc_result_of_ok {body : Stmt} (h : (L.runStmt f.body).1 = .ok body) :
    (L.lowerFunc config f).result =
      match config.verify, body.nodes.findSome? L.table.customUse? with
      | true, some u => .error (.unloweredCustomType L.target u.dtype u.node)
      | _, _ => .ok { f with body := body } := by
  rw [lowerFunc_result, h]
  dsimp only
  rw [L.table.verifyLowered_eq]
  cases config.verify <;> cases body.nodes.findSome? L.table.customUse? <;> rfl

end Lowerer

/-- The residual check lists, in post-order, exactly the nodes of a statement that use a
registered custom type: expressions of every kind by their own type, allocations by their element
type, each with its label. Verification fails with the first of them and passes when there is
none. Lowering a function fails with the pass's failure, a missing function, when the pass fails;
otherwise it fails, with verification on, at the first residual use of the lowered body, and
returns the function over the lowered body when nothing is left to report. -/
theorem verification_reports_first_residual_use (L : Lowerer α) (t : LoweringTable α)
    (target : String) (s : Stmt) (config : LowerConfig) (f : Func) :
    t.customTypeUses s = s.nodes.filterMap t.customUse? ∧
      t.verifyLowered target s =
        (match s.nodes.findSome? t.customUse? with
        | none => .ok ()
        | some u => .error (.unloweredCustomType target u.dtype u.node)) ∧
      (∀ err, (L.runStmt f.body).1 = .error err →
        (L.lowerFunc config f).result = .error err ∧ ∃ key, err = .missingFunction L.target key) ∧
      (∀ body, (L.runStmt f.body).1 = .ok body →
        (L.lowerFunc config f).result =
          match config.verify, body.nodes.findSome? L.table.customUse? with
          | true, some u => .error (.unloweredCustomType L.target u.dtype u.node)
          | _, _ => .ok { f with body := body }) :=
  ⟨t.customTypeUses_eq s, t.verifyLowered_eq target s,
    fun _ h => L.lowerFunc_result_of_error config f h,
    fun _ h => L.lowerFunc_result_of_ok config f h⟩

/-- A variable of a custom type under a native addition survives the pass, which looks nothing
up, and verification reports it; with a float immediate of the type and no function for it, the
pass fails instead, and so does lowering the function. -/
theorem residual_variable_reported_by_verification :
    let L : Lowerer Recipe := ⟨⟨[("posit", ⟨200⟩)], []⟩, "cpu", Recipe.apply⟩
    let x : Expr := .var (.custom ⟨200⟩ 32) "x"
    let f : Func := ⟨"f", [], .evaluate (.binary .add (.int 32) x (.intImm (.int 32) 1))⟩
    let g : Func := ⟨"g", [], .evaluate (.floatImm (.custom ⟨200⟩ 32) .zero)⟩
    (L.runStmt f.body).1 = .ok f.body ∧
      (L.lowerFunc ⟨true⟩ f).result = .error (.unloweredCustomType "cpu" x.dtype x.label) ∧
      (L.runStmt g.body).1 = .error (.missingFunction "cpu" (.floatImm ⟨200⟩)) ∧
      (L.lowerFunc ⟨true⟩ g).result = .error (.missingFunction "cpu" (.floatImm ⟨200⟩)) := by
  intro L x f g
  have hf : (L.runStmt f.body).1 = .ok f.body := rfl
  have hg : (L.runStmt g.body).1 = .error (.missingFunction "cpu" (.floatImm ⟨200⟩)) := rfl
  obtain ⟨-, -, -, hok⟩ :=
    verification_reports_first_residual_use L L.table "cpu" f.body ⟨true⟩ f
  obtain ⟨-, -, herr, -⟩ :=
    verification_reports_first_residual_use L L.table "cpu" g.body ⟨true⟩ g
  refine ⟨hf, ?_, hg, (herr _ hg).1⟩
  rw [hok f.body hf]
  rfl

end DatatypeLowering
