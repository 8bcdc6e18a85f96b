import DatatypeLowering.DataType
import DatatypeLowering.Ieee.Format
import DatatypeLowering.Ieee.Binary64
import DatatypeLowering.Ieee.Shortest
import DatatypeLowering.Ieee.Text
import DatatypeLowering.Ieee.Read
import DatatypeLowering.Ieee.Arith
import DatatypeLowering.Json.Value
import DatatypeLowering.Json.Error
import DatatypeLowering.Json.Numeral
import DatatypeLowering.Json.Read
import DatatypeLowering.Ir.BinaryOp
import DatatypeLowering.Ir.Error
import DatatypeLowering.Ir.Expr
import DatatypeLowering.Ir.Stmt
import DatatypeLowering.Ir.Label
import DatatypeLowering.Ir.Literal
import DatatypeLowering.Ir.Tree
import DatatypeLowering.Ir.Rewrite
import DatatypeLowering.Lowering.Key
import DatatypeLowering.Lowering.Table
import DatatypeLowering.Lowering.Recipe
import DatatypeLowering.Lowering.Pass
import DatatypeLowering.Lowering.Residual
import DatatypeLowering.Lowering.Log
import DatatypeLowering.Lowering.Entry
import DatatypeLowering.Proofs.Rebuild
import DatatypeLowering.Proofs.PostOrder
import DatatypeLowering.Proofs.Journal
import DatatypeLowering.Proofs.Lookups
import DatatypeLowering.Proofs.CustomUses
import DatatypeLowering.Proofs.Identity
import DatatypeLowering.Proofs.Shape
import DatatypeLowering.Proofs.NoResidue
import DatatypeLowering.Proofs.Traversal
import DatatypeLowering.Proofs.Registry
import DatatypeLowering.Proofs.Applications
import DatatypeLowering.Proofs.Verification
import DatatypeLowering.Proofs.LoweredCount
import DatatypeLowering.Proofs.FunctionLookup
import DatatypeLowering.Proofs.FunctionLookup
import DatatypeLowering.Proofs.Display
import DatatypeLowering.Proofs.TreeDrawing
