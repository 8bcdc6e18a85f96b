import DatatypeLowering.Ir.Tree
import DatatypeLowering.Lowering.Log
import DatatypeLowering.Lowering.Residual
/-!
# Entry points of lowering

The pass can run as bare hooks over an expression or a statement (`rewriteExpr`,
`rewriteStmt`), or through an entry point that also reports what it does:

* `lowerExpr` lowers an expression and opens no span;
* `lowerStmt` opens the span `lower_stmt` with the target, logs the tree drawing of the input
  before and of the output after, with the number of nodes lowered;
* `lowerFunc` opens the span `lower_custom_datatypes_with_config` with the function's name and
  the target, logs the number of nodes lowered, and then, if the configuration asks for it,
  verifies that no registered custom type is left in the body.

Each returns an `Outcome`: the result or the first failure, the journal, and the log.
-/

namespace DatatypeLowering

/-- Settings of a lowering run. -/
structure LowerConfig where
  verify : Bool
deriving DecidableEq, Repr

/-- The configuration given by a verification setting: no setting, or the setting `0`, turns
verification off; any other value turns it on. -/
def LowerConfig.ofVerifySetting : Option String → LowerConfig
  | none => ⟨false⟩
  | some v => ⟨v != "0"⟩

/-- What a lowering run gives back. -/
structure Outcome (α β : Type) where
  result : Except LowerError β
  journal : Journal α
  log : List LogRecord

namespace Lowerer

variable {α : Type}

/-- The log entries that end a run's log: the failure's event, if any. -/
def failureLog {β : Type} : Except LowerError β → List LogRecord
  | .ok _ => []
  | .error e => [e.logRecord]

def rewriteExpr (L : Lowerer α) (e : Expr) : Outcome α Expr :=
  let (result, journal) := L.runExpr e
  ⟨result, journal, journal.log ++ failureLog result⟩

def rewriteStmt (L : Lowerer α) (s : Stmt) : Outcome α Stmt :=
  let (result, journal) := L.runStmt s
  ⟨result, journal, journal.log ++ failureLog result⟩

/-- Lowers an expression; no span is opened. -/
def lowerExpr (L : Lowerer α) (e : Expr) : Outcome α Expr := L.rewriteExpr e

/-- Lowers a statement in the span `lower_stmt`, logging the trees before and after. -/
def lowerStmt (L : Lowerer α) (s : Stmt) : Outcome α Stmt :=
  let (result, journal) := L.runStmt s
  let opening :=
    [LogRecord.span "lower_stmt" [("lowering.target", L.target)],
      LogRecord.debug "before custom datatype lowering" [("body.initial", s.tree)]]
  let closing :=
    match result with
    | .ok lowered =>
      [LogRecord.debug "after custom datatype lowering"
        [("body.lowered", lowered.tree), ("lowered_nodes", toString journal.loweredCount)]]
    | .error e => [e.logRecord]
  ⟨result, journal, opening ++ journal.log ++ closing⟩

/-- Lowers a function's body, then verifies it when the configuration asks for it. -/
def lowerFunc (L : Lowerer α) (config : LowerConfig) (f : Func) : Outcome α Func :=
  let (result, journal) := L.runFunc f
  let opening :=
    [LogRecord.span "lower_custom_datatypes_with_config"
      [("func.name", f.name), ("lowering.target", L.target)]]
  match result with
  | .error e => ⟨.error e, journal, opening ++ journal.log ++ [e.logRecord]⟩
  | .ok lowered =>
    let done :=
      LogRecord.debug "lowered custom datatypes" [("lowered_nodes", toString journal.loweredCount)]
    let verified :=
      if config.verify then L.table.verifyLowered L.target lowered.body else .ok ()
    match verified with
    | .ok () => ⟨.ok lowered, journal, opening ++ journal.log ++ [done]⟩
    | .error e => ⟨.error e, journal, opening ++ journal.log ++ [done, e.logRecord]⟩

end Lowerer

end DatatypeLowering
