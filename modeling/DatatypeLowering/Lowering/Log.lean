import DatatypeLowering.Lowering.Pass
/-!
# Log records

What a lowering run reports as it goes. A span names a region of work with its fields; an event
has a level and fields, the first of which is its message. Every field value is text.

Each lowering step of the journal is one debug event: `lowered custom datatype node` with the
function's kind and the types before and after, `lowered custom datatype load` and
`lowered custom datatype allocation` with the types before and after. A failure is one error
event.
-/

namespace DatatypeLowering

/-- The level of an event. -/
inductive LogLevel where
  | debug
  | error
deriving DecidableEq, Repr

def LogLevel.name : LogLevel → String
  | .debug => "DEBUG"
  | .error => "ERROR"

/-- A span or an event, with its fields in order. -/
inductive LogRecord where
  | span (name : String) (fields : List (String × String))
  | event (level : LogLevel) (fields : List (String × String))
deriving DecidableEq, Repr

def LogRecord.debug (message : String) (fields : List (String × String)) : LogRecord :=
  .event .debug (("message", message) :: fields)

/-- The event of a lowering step; lookups have none. -/
def Step.logRecord? {α : Type} : Step α → Option LogRecord
  | .lookup .. => none
  | .lowered key _ node replacement =>
    some (.debug "lowered custom datatype node"
      [("lowering.kind", key.kind), ("from", node.dtype.display),
        ("to", replacement.dtype.display)])
  | .retypedLoad before after =>
    some (.debug "lowered custom datatype load" [("from", before.display), ("to", after.display)])
  | .retypedAllocation before after =>
    some (.debug "lowered custom datatype allocation"
      [("from", before.display), ("to", after.display)])

def Journal.log {α : Type} (j : Journal α) : List LogRecord := j.filterMap Step.logRecord?

def LowerError.logRecord (e : LowerError) : LogRecord :=
  match e with
  | .missingFunction target _ =>
    .event .error
      [("message", "cannot lower custom datatype"), ("lowering.target", target),
        ("error", e.message)]
  | .unloweredCustomType .. =>
    .event .error [("message", "lowering left a custom datatype behind"), ("error", e.message)]

end DatatypeLowering
