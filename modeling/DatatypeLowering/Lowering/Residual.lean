import DatatypeLowering.Lowering.Pass
/-!
# Residual custom types

After lowering, no node should still carry a registered custom code in its own type. A lowering
function that returns a replacement of a custom type breaks this silently; the residual check
finds such nodes. It lists, in post-order, every expression whose own code is registered and
every allocation whose element code is, the allocation after its children, each with its type
and label. Verification fails with the first of them.
-/

namespace DatatypeLowering

/-- A node that still carries a custom type: the type (the node's own, or an allocation's
element type) and the node's label. -/
structure CustomTypeUse where
  dtype : DataType
  node : String
deriving DecidableEq, Repr

namespace LoweringTable

variable {α : Type}

/-- Hooks that keep every node and record those of a registered custom type. -/
def residualCollector (t : LoweringTable α) : Rewriter (StateM (List CustomTypeUse)) where
  expr given rebuilt := do
    if t.isRegistered given.dtype.code then
      modify (· ++ [⟨given.dtype, given.label⟩])
    pure rebuilt
  stmt given rebuilt := do
    match given with
    | .allocate _ dtype .. =>
      if t.isRegistered dtype.code then modify (· ++ [⟨dtype, given.label⟩])
    | _ => pure ()
    pure rebuilt

/-- The nodes of a statement that carry a registered custom type, in post-order. -/
def customTypeUses (t : LoweringTable α) (s : Stmt) : List CustomTypeUse :=
  ((s.rewrite t.residualCollector).run []).2

/-- Fails with the first node of a statement that carries a registered custom type. -/
def verifyLowered (t : LoweringTable α) (target : String) (s : Stmt) : Except LowerError Unit :=
  match t.customTypeUses s with
  | [] => .ok ()
  | u :: _ => .error (.unloweredCustomType target u.dtype u.node)

end LoweringTable

end DatatypeLowering
