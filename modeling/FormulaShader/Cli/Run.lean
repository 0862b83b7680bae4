import FormulaShader.Cli.Options
import FormulaShader.Cli.Report
import FormulaShader.Cli.Help
import FormulaShader.Bindings.Json
import FormulaShader.Compile.Fallback
import FormulaShader.Shader.Function
import FormulaShader.Shader.Sampler

/-!
# Running the command

A run reads what its output needs and nothing more: the fragment and the two function forms
read the bindings file, if one is named, before the formula, which comes from the input file
or from standard input; the gradient and the sampler read nothing. The bindings file is laid
over the mode's starting table. In strict mode a formula that cannot be read or compiled is a
failure; otherwise it is drawn as zero.

Reading goes through a `Host`, so that the same run can be carried out on a real system or
on a table of files.

Results:
* `execute`: the exit status and the texts a list of arguments produces.
-/

namespace FormulaShader

namespace Cli

/-- Why a file could not be read. -/
inductive ReadError where
  | notFound
  | isDirectory
  | notDirectory
  | nameTooLong
  | noDevice
  | invalidUtf8
  | other (text : String)
  deriving Repr

def ReadError.message : ReadError → String
  | .notFound => "No such file or directory (os error 2)"
  | .isDirectory => "Is a directory (os error 21)"
  | .notDirectory => "Not a directory (os error 20)"
  | .nameTooLong => "File name too long (os error 36)"
  | .noDevice => "No such device or address (os error 6)"
  | .invalidUtf8 => "stream did not contain valid UTF-8"
  | .other text => text

/-- Where a run reads its files and its standard input. -/
structure Host (m : Type → Type) where
  readFile : String → m (Except ReadError ByteArray)
  readStdin : m (Except ReadError ByteArray)

/-- The exit status and texts of a run. -/
structure Outcome where
  exit : Nat
  stdout : String
  stderr : String
  deriving Repr

def versionText : String := "mathwgsl-cli 0.1.0\n"

variable {m : Type → Type} [Monad m]

/-- Bytes as text, which they must be in UTF-8. -/
def decodeText (bytes : ByteArray) : Except ReadError String :=
  match String.fromUTF8? bytes with
  | some s => .ok s
  | none => .error .invalidUtf8

/-- Reads a named file as text; a failure names the file. -/
def readText (host : Host m) (path : String) : ExceptT Failure m String := do
  match (← host.readFile path) >>= decodeText with
  | .ok s => pure s
  | .error e => throw ⟨"failed to read " ++ path, [e.message]⟩

def readInput (host : Host m) (o : Options) : ExceptT Failure m String := do
  match o.input with
  | some path => readText host path
  | none =>
    match (← host.readStdin) >>= decodeText with
    | .ok s => pure s
    | .error e => throw ⟨"failed to read stdin", [e.message]⟩

/-- The mode's table with the bindings file laid over it. -/
def loadBindings (host : Host m) (o : Options) : ExceptT Failure m Bindings := do
  let start := o.mode.bindings
  match o.bindings with
  | none => pure start
  | some path =>
    let text ← readText host path
    match Bindings.ofJson text with
    | .ok extra => pure (start.merge extra)
    | .error e => throw ⟨"invalid bindings in " ++ path, [e.message]⟩

/-- Compiles the formula strictly, or falling back to zero. -/
def compileInput (host : Host m) (o : Options) (b : Bindings) : ExceptT Failure m String := do
  let text ← readInput host o
  if o.strict then
    match Expr.parse text with
    | .error (.json e) =>
      throw ⟨"invalid MathJSON", [(ParseError.json e).message, e.message]⟩
    | .ok e =>
      match compile e b with
      | .ok code => pure code
      | .error err => throw ⟨"cannot compile " ++ e.display, [err.message]⟩
  else pure (compileOrZero (parseOrZero text) b).fragment

def produce (host : Host m) (o : Options) : ExceptT Failure m String := do
  let domain := o.mode.domain
  match o.output with
  | .fragment => compileInput host o (← loadBindings host o)
  | .function => pure (functionModule (← compileInput host o (← loadBindings host o)) domain .standalone)
  | .linked => pure (functionModule (← compileInput host o (← loadBindings host o)) domain .linked)
  | .gradient => pure ((Gradient.mk o.gradient o.step).module domain .linked)
  | .sampler => pure (samplerModule domain (if o.normals then .normals else .values))

/-- Runs the command on a list of arguments. -/
def execute (host : Host m) (args : List String) : m Outcome := do
  match Command.parse args with
  | .usage e => pure ⟨2, "", e.message ++ "\n"⟩
  | .version => pure ⟨0, versionText, ""⟩
  | .help long => pure ⟨0, helpText long, ""⟩
  | .run o =>
    match ← (produce host o).run with
    | .ok out => pure ⟨0, out ++ "\n", ""⟩
    | .error f => pure ⟨1, "", "Error: " ++ f.report ++ "\n"⟩

end Cli

end FormulaShader
