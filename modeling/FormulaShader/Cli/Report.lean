/-!
# Failure reports

A failed run is reported as what was being done and the chain of causes under it:

```text
Error: invalid MathJSON

Caused by:
    0: invalid MathJSON: EOF while parsing a list at line 1 column 11
    1: EOF while parsing a list at line 1 column 11
```

A single cause is indented by four spaces and not numbered; several are numbered from zero,
the number right-aligned in five columns. A cause of several lines keeps its later lines
under its first.

Results:
* `Failure.report`: the text of a failure, without the leading `Error: `.
-/

namespace FormulaShader

namespace Cli

/-- What was being done when the run failed, and why, outermost cause first. -/
structure Failure where
  context : String
  causes : List String
  deriving Repr

def padLeft (width : Nat) (s : String) : String :=
  String.ofList (List.replicate (width - s.length) ' ') ++ s

/-- One cause, its first line after `lead` and its later lines after `indent`. -/
def indentCause (lead indent : String) (cause : String) : String :=
  match cause.splitOn "\n" with
  | [] => lead
  | first :: rest => lead ++ first ++ String.join (rest.map fun line => "\n" ++ indent ++ line)

/-- The text of a failure. -/
def Failure.report (f : Failure) : String :=
  match f.causes with
  | [] => f.context
  | [cause] => f.context ++ "\n\nCaused by:\n" ++ indentCause "    " "    " cause
  | causes =>
    f.context ++ "\n\nCaused by:" ++ String.join (causes.zipIdx.map fun (cause, n) =>
      "\n" ++ indentCause (padLeft 5 (toString n) ++ ": ") "       " cause)

end Cli

end FormulaShader
