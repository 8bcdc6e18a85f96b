import DatatypeLowering.Ir.Label
/-!
# Rebuilding nodes over new children

Child access and rebuilding are inverse on every node shape. An expression rebuilt over new
operands keeps its head and type and has exactly the new operands, and it can be rebuilt only
over as many operands as it has: otherwise rebuilding fails with `source count mismatch`. A
statement is rebuilt the same way over new expressions and statements, refusing a wrong number
of expressions first (`expression count mismatch`), then a wrong number of statements
(`statement count mismatch`); it keeps its head, hence its label. Rebuilding any node over its
own children gives it back.

Main statement: `children_withChildren_inverse`.
-/

namespace DatatypeLowering

/-- Mapping the value and the error of a result commute. -/
theorem except_map_mapError {ε ε' α β : Type} (f : α → β) (g : ε → ε') (x : Except ε α) :
    (x.mapError g).map f = (x.map f).mapError g := by
  cases x <;> rfl

/-- Child access and rebuilding are inverse, and a wrong count fails with its message. -/
theorem children_withChildren_inverse (e : Expr) (cs : List Expr) (s : Stmt) (es : List Expr)
    (ss : List Stmt) :
    ((e.withSources cs).mapError ArityError.message).map
        (fun e' => (e'.sources, e'.head, e'.dtype)) =
      (if cs.length = e.sources.length then .ok (cs, e.head, e.dtype)
        else .error "source count mismatch") ∧
    e.withSources e.sources = .ok e ∧
    ((s.withChildren es ss).mapError ArityError.message).map
        (fun s' => (s'.exprs, s'.stmts, s'.head, s'.label)) =
      (if es.length ≠ s.exprs.length then .error "expression count mismatch"
        else if ss.length ≠ s.stmts.length then .error "statement count mismatch"
        else .ok (es, ss, s.head, s.label)) ∧
    s.withChildren s.exprs s.stmts = .ok s := by
  refine ⟨?_, Expr.withSources_sources e, ?_, Stmt.withChildren_exprs_stmts s⟩
  · rw [except_map_mapError, Expr.withSources_map]
    split <;> rfl
  · have h : (s.withChildren es ss).map (fun s' => (s'.exprs, s'.stmts, s'.head, s'.label)) =
        ((s.withChildren es ss).map (fun s' => (s'.exprs, s'.stmts, s'.head))).map
          (fun p => (p.1, p.2.1, p.2.2, p.2.2.label)) := by
      cases s.withChildren es ss <;> rfl
    rw [except_map_mapError, h, Stmt.withChildren_map]
    split
    · rfl
    · split <;> rfl

end DatatypeLowering
