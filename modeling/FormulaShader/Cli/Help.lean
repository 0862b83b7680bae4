/-!
# The help text

The help lists every option with its description, its default and its choices. The short
form (`-h`) gives one line per option, descriptions aligned in one column; the long form
(`--help`) gives each description on its own indented lines, with a line per choice where
the choices are described.

Both forms open with the program's one-line description and its usage line.

Results:
* `helpText`: the short or the long help.
-/

namespace FormulaShader

namespace Cli

/-- An option as listed in the help. -/
structure HelpEntry where
  short : Option Char
  long : String
  summary : String
  detail : Option String := none
  default : Option String := none
  choices : List (String × Option String) := []

def helpEntries : List HelpEntry := [
  { short := some 'i', long := "--input <INPUT>", summary := "MathJSON input file (stdin if omitted)" },
  { short := some 'm', long := "--mode <MODE>", summary := "How the formula is drawn",
    default := some "implicit", choices := [("surface", none), ("implicit", none)] },
  { short := some 'b', long := "--bindings <BINDINGS>",
    summary := "JSON bindings file, merged over the mode's defaults" },
  { short := some 'e', long := "--emit <EMIT>", summary := "What to print", default := some "linked",
    choices := [("fragment", some "Bare WGSL expression"), ("function", some "Plain `fn f(pos)`"),
      ("linked", some "`fn f(pos)` with `@link`/`@export` declarations"),
      ("gradient", some "Finite-difference `fn df(pos)`"),
      ("sampler", some "Grid sampling entry point")] },
  { short := none, long := "--gradient <GRADIENT>",
    summary := "Finite-difference formula for `--emit gradient`", default := some "unbalanced",
    choices := [("unbalanced", none), ("central", none)] },
  { short := none, long := "--step <STEP>", summary := "Finite-difference step for `--emit gradient`",
    default := some "0.0001" },
  { short := none, long := "--normals",
    summary := "Sample gradients instead of values for `--emit sampler`" },
  { short := none, long := "--strict",
    summary := "Fail on bad input instead of drawing the zero expression" },
  { short := some 'h', long := "--help", summary := "Print help (see more with '--help')",
    detail := some "Print help (see a summary with '-h')" },
  { short := some 'V', long := "--version", summary := "Print version" }]

def spaces (n : Nat) : String := String.ofList (List.replicate n ' ')

namespace HelpEntry

def describesChoices (e : HelpEntry) : Bool := e.choices.any fun c => c.2.isSome

/-- The names of the option: `-s, --long <VALUE>` or `    --long`. -/
def names (e : HelpEntry) : String :=
  (match e.short with
    | some c => "-" ++ String.singleton c ++ ", "
    | none => "    ") ++ e.long

/-- The notes after a description: the default, and the choices when they are not listed
one per line. -/
def notes (e : HelpEntry) (long : Bool) : List String :=
  (e.default.map fun d => "[default: " ++ d ++ "]").toList ++
  (if e.choices.isEmpty || (long && e.describesChoices) then []
   else ["[possible values: " ++ ", ".intercalate (e.choices.map Prod.fst) ++ "]"])

def shortLine (e : HelpEntry) (column : Nat) : String :=
  "  " ++ e.names ++ spaces (column - 2 - e.names.length) ++ " ".intercalate (e.summary :: e.notes false)

/-- The lines of an option in the long help: the description, the choices one per line when
they are described, and then the notes, every line indented. -/
def longLines (e : HelpEntry) : String :=
  let indent := spaces 10
  let newline := "\n" ++ indent
  let notes := e.notes true
  let body := newline.intercalate ((e.detail.getD e.summary).splitOn "\n")
  let width := (e.choices.map fun c => c.1.length).foldl max 0
  let choices :=
    if e.describesChoices then
      "\n\n" ++ indent ++ "Possible values:" ++ String.join (e.choices.map fun (name, d) =>
        newline ++ "- " ++ name ++
          (match d with
            | some d => ": " ++ spaces (width - name.length) ++ d
            | none => ""))
    else ""
  let tail := if notes.isEmpty then "" else newline ++ newline ++ newline.intercalate notes
  "  " ++ e.names ++ newline ++ body ++ choices ++ tail

end HelpEntry

def helpColumn : Nat := 2 + (helpEntries.map fun e => e.names.length).foldl max 0 + 2

/-- The help text. -/
def helpText (long : Bool) : String :=
  let entries :=
    if long then "\n\n".intercalate (helpEntries.map HelpEntry.longLines)
    else "\n".intercalate (helpEntries.map fun e => e.shortLine helpColumn)
  "Command-line front end for the mathwgsl shader compiler\n\nUsage: mathwgsl [OPTIONS]\n\nOptions:\n" ++ entries ++ "\n"

end Cli

end FormulaShader
