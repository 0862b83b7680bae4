import FormulaShader.Bindings.Mode
import FormulaShader.Shader.Gradient
import FormulaShader.Decimal.Reading

/-!
# Command-line options

The command reads its options left to right. An option with a value takes it attached
(`--emit=fragment`, `-efragment`, `-e=fragment`) or from the next argument, unless that
argument looks like an option itself: it starts with `-` and is more than `-`. Such an
argument, `--` included, leaves the waiting option without a value, which is an error before
the argument itself is read, so `-i -h` and `-i -- name` are misuses and not a request for
help or a value. The command takes no plain arguments, so every argument after `--` is an
error. A value is checked as soon as it is complete: an unknown choice, a step that is no
number and an empty path are errors. Giving an option twice, an unknown option, a value for a
switch and an argument that belongs to no option are errors at once, as is an option whose
value never came once all arguments are read. `--help`, `-h`, `--version` and `-V` act where
they stand, so an error in a later argument is never seen.

Results:
* `Command.parse`: what a list of arguments asks for.
-/

namespace FormulaShader

namespace Cli

/-- What the command prints. -/
inductive Output where
  | fragment
  | function
  | linked
  | gradient
  | sampler
  deriving Repr, DecidableEq, Inhabited

/-- The options of one run. -/
structure Options where
  input : Option String := none
  mode : PlotMode := .implicit
  bindings : Option String := none
  output : Output := .linked
  gradient : GradientMode := .unbalanced
  step : Binary32 := Gradient.defaultStep
  normals : Bool := false
  strict : Bool := false
  deriving Repr

/-- An option and the name it is known by. -/
inductive Flag where
  | input
  | mode
  | bindings
  | emit
  | gradient
  | step
  | normals
  | strict
  | help
  | version
  deriving Repr, DecidableEq, Inhabited

namespace Flag

def long : Flag → String
  | .input => "input"
  | .mode => "mode"
  | .bindings => "bindings"
  | .emit => "emit"
  | .gradient => "gradient"
  | .step => "step"
  | .normals => "normals"
  | .strict => "strict"
  | .help => "help"
  | .version => "version"

def all : List Flag :=
  [.input, .mode, .bindings, .emit, .gradient, .step, .normals, .strict, .help, .version]

def ofLong? (name : String) : Option Flag := all.find? (·.long = name)

def ofShort? : Char → Option Flag
  | 'i' => some .input
  | 'm' => some .mode
  | 'b' => some .bindings
  | 'e' => some .emit
  | 'h' => some .help
  | 'V' => some .version
  | _ => none

def takesValue : Flag → Bool
  | .input | .mode | .bindings | .emit | .gradient | .step => true
  | _ => false

def valueName (f : Flag) : String := f.long.toUpper

def display (f : Flag) : String :=
  "--" ++ f.long ++ (if f.takesValue then " <" ++ f.valueName ++ ">" else "")

end Flag

/-- A misuse of the command line. -/
inductive UsageError where
  | unexpectedArgument (arg : String)
  | repeated (flag : Flag)
  | invalidValue (flag : Flag) (value : String)
  | unexpectedValue (flag : Flag) (value : String)
  | missingValue (flag : Flag)
  deriving Repr

def UsageError.message : UsageError → String
  | .unexpectedArgument a => "error: unexpected argument '" ++ a ++ "' found"
  | .repeated f => "error: the argument '" ++ f.display ++ "' cannot be used multiple times"
  | .invalidValue f v => "error: invalid value '" ++ v ++ "' for '" ++ f.display ++ "'"
  | .unexpectedValue f v =>
    "error: unexpected value '" ++ v ++ "' for '" ++ f.display ++ "' found; no more were expected"
  | .missingValue f => "error: a value is required for '" ++ f.display ++ "' but none was supplied"

/-- What the arguments ask for. -/
inductive Command where
  | run (options : Options)
  | help (long : Bool)
  | version
  | usage (error : UsageError)
  deriving Repr

/-- Where the reading of the arguments stands. -/
structure Reading where
  options : Options := {}
  seen : List Flag := []
  pending : Option Flag := none
  escaped : Bool := false

abbrev ReadStep := Except Command Reading

def applyValue (o : Options) (f : Flag) (v : String) : Except UsageError Options :=
  let bad := Except.error (UsageError.invalidValue f v)
  match f with
  | .input => if v.isEmpty then .error (.missingValue f) else .ok { o with input := some v }
  | .bindings => if v.isEmpty then .error (.missingValue f) else .ok { o with bindings := some v }
  | .mode =>
    match v with
    | "surface" => .ok { o with mode := .surface }
    | "implicit" => .ok { o with mode := .implicit }
    | _ => bad
  | .emit =>
    match v with
    | "fragment" => .ok { o with output := .fragment }
    | "function" => .ok { o with output := .function }
    | "linked" => .ok { o with output := .linked }
    | "gradient" => .ok { o with output := .gradient }
    | "sampler" => .ok { o with output := .sampler }
    | _ => bad
  | .gradient =>
    match v with
    | "unbalanced" => .ok { o with gradient := .unbalanced }
    | "central" => .ok { o with gradient := .central }
    | _ => bad
  | .step =>
    match DecimalText.parse? v with
    | some t => .ok { o with step := t.toBinary32 }
    | none => bad
  | _ => .error (.unexpectedValue f v)

/-- Records an option as given; a second time is an error. -/
def mark (r : Reading) (f : Flag) : ReadStep :=
  if r.seen.contains f then .error (.usage (.repeated f)) else .ok { r with seen := f :: r.seen }

def giveValue (r : Reading) (f : Flag) (v : String) : ReadStep := do
  let r ← mark r f
  match applyValue r.options f v with
  | .ok o => pure { r with options := o }
  | .error e => .error (.usage e)

def giveSwitch (r : Reading) (f : Flag) : ReadStep :=
  match f with
  | .help => .error (.help false)
  | .version => .error .version
  | .normals => do let r ← mark r f; pure { r with options := { r.options with normals := true } }
  | .strict => do let r ← mark r f; pure { r with options := { r.options with strict := true } }
  | _ => pure r

/-- Reads an option written `--name` or `--name=value`. -/
def readLong (r : Reading) (body : String) : ReadStep :=
  let (name, value) := match body.splitOn "=" with
    | [n] => (n, none)
    | n :: rest => (n, some ("=".intercalate rest))
    | [] => (body, none)
  match Flag.ofLong? name with
  | none => .error (.usage (.unexpectedArgument ("--" ++ body)))
  | some f =>
    if f.takesValue then
      match value with
      | some v => giveValue r f v
      | none => .ok { r with pending := some f }
    else
      match value with
      | some v => .error (.usage (.unexpectedValue f v))
      | none => if f = .help then .error (.help true) else giveSwitch r f

/-- Reads a cluster of short options written after one `-`. -/
def readShort (r : Reading) (arg : String) : List Char → ReadStep
  | [] => .ok r
  | c :: rest =>
    match Flag.ofShort? c with
    | none => .error (.usage (.unexpectedArgument arg))
    | some f =>
      if f.takesValue then
        match rest with
        | [] => .ok { r with pending := some f }
        | '=' :: v => giveValue r f (String.ofList v)
        | v => giveValue r f (String.ofList v)
      else do
        let r ← giveSwitch r f
        readShort r arg rest

/-- Whether an argument is read as an option: one that starts with `-` and is more than `-`,
such as `--`. -/
def looksLikeOption (arg : String) : Bool := arg.startsWith "-" && arg ≠ "-"

def readArg (r : Reading) (arg : String) : ReadStep :=
  if r.escaped then .error (.usage (.unexpectedArgument arg))
  else if looksLikeOption arg then
    match r.pending with
    | some f => .error (.usage (.missingValue f))
    | none =>
      if arg = "--" then .ok { r with escaped := true }
      else if arg.startsWith "--" then readLong r (arg.drop 2).toString
      else readShort r arg (arg.toList.drop 1)
  else
    match r.pending with
    | some f => giveValue { r with pending := none } f arg
    | none => .error (.usage (.unexpectedArgument arg))

/-- What a list of arguments asks for. -/
def Command.parse (args : List String) : Command :=
  match args.foldlM readArg {} with
  | .error c => c
  | .ok r =>
    match r.pending with
    | some f => .usage (.missingValue f)
    | none => .run r.options

end Cli

end FormulaShader
