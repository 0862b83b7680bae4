import FormulaShader.Binary.Format
import FormulaShader.Binary.Double
import FormulaShader.Binary.Single
import FormulaShader.Decimal.Shortest
import FormulaShader.Decimal.Layout
import FormulaShader.Decimal.Reading
import FormulaShader.Json.Value
import FormulaShader.Json.Error
import FormulaShader.Json.Cursor
import FormulaShader.Json.Number
import FormulaShader.Json.Reader
import FormulaShader.Expr.Basic
import FormulaShader.Expr.MathJson
import FormulaShader.NameMap
import FormulaShader.Text.WhiteSpace
import FormulaShader.Text.Utf8
import FormulaShader.Template.Basic
import FormulaShader.Template.Parse
import FormulaShader.Library.Rule
import FormulaShader.Library.Table
import FormulaShader.Bindings.Basic
import FormulaShader.Bindings.Mode
import FormulaShader.Compile.Literal
import FormulaShader.Compile.Error
import FormulaShader.Compile.Basic
import FormulaShader.Compile.Fallback
import FormulaShader.Shader.Function
import FormulaShader.Shader.Gradient
import FormulaShader.Shader.Sampler
import FormulaShader.Text.Printable
import FormulaShader.Text.GraphemeExtend
import FormulaShader.Text.Quoted
import FormulaShader.Json.Typed
import FormulaShader.Bindings.Json
import FormulaShader.Dump
import FormulaShader.Cli.Options
import FormulaShader.Cli.Report
import FormulaShader.Cli.Help
import FormulaShader.Cli.Run
import FormulaShader.Cli.System
import FormulaShader.Cli.Workspace
import FormulaShader.Main
import FormulaShader.Proofs.Compile.FirstFault
import FormulaShader.Proofs.Compile.Success
import FormulaShader.Proofs.Binary.DoubleFields
import FormulaShader.Proofs.Expr.JsonRoundTrip
import FormulaShader.Proofs.Text.Lexical
import FormulaShader.Proofs.Compile.LexicalSafety
import FormulaShader.Proofs.Wgsl.Token
import FormulaShader.Proofs.Wgsl.Term
import FormulaShader.Proofs.Wgsl.Parser
import FormulaShader.Proofs.Compile.LiteralValue
import FormulaShader.Proofs.Compile.Reference
import FormulaShader.Proofs.Compile.TextReads
import FormulaShader.Proofs.Compile.RuleReads
import FormulaShader.Proofs.Compile.MeaningPreserved
import FormulaShader.Proofs.Compile.DepthGuard
import FormulaShader.Proofs.Template.Reading
import FormulaShader.Proofs.Compile.OperandCoverage
import FormulaShader.Proofs.Template.Printing
import FormulaShader.Proofs.Compile.BindingsFrame
import FormulaShader.Proofs.Bindings.Union
import FormulaShader.Proofs.Expr.DecodeDepth
import FormulaShader.Proofs.Binary.SingleDoubling
import FormulaShader.Proofs.Shader.GradientText
import FormulaShader.Proofs.Compile.PrecedenceTags
