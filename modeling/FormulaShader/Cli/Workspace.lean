import FormulaShader.Cli.Run
import FormulaShader.Cli.System

/-!
# A run on a table of files

A workspace is the working directory of a run, holding the given files named by relative
paths, together with the run's standard input, a pipe, and the program's installation in the
system around it (see `Cli.System`). The working directory lies in `workingDirectoryParent`.

A path is followed part by part, the way the system resolves it: an empty part (from
repeated slashes) and `.` stay where they are, `..` goes up, and a name goes down, through a
link to where it leads. A path that starts with `/` starts at the root, any other at the
working directory. Inside the working directory a directory exists when some file lies below
it. Any part after a file or a device, even `.` or a trailing slash, is an error, for it is no
directory. A path of `maxPath` bytes or more, or a name of more than `maxName` bytes looked
up in a directory, is too long.

A path that ends at a directory cannot be read as a file. The null device reads as nothing;
the standard input device reads the pipe of standard input, which is then used up, so that a
later read of standard input finds it empty; the terminal cannot be opened, for a run with
piped input and output has none.

Results:
* `Workspace.resolve`: what a path leads to.
* `Workspace.host`: the `Host` that reads from a workspace, the unread standard input its
  state.
* `Workspace.run`: the outcome of the command on a workspace.
-/

namespace FormulaShader

namespace Cli

/-- The working directory's files by relative path, the bytes of standard input, and the
entries of the program's installation. -/
structure Workspace where
  files : List (String × ByteArray)
  stdin : ByteArray
  installation : List (SystemPath × Entry)

def pathParts (p : String) : List String := (p.splitOn "/").filter fun s => s ≠ "" && s ≠ "."

/-- The length in bytes from which a whole path is too long. -/
def maxPath : Nat := 4096

/-- The longest name, in bytes, of one part of a path. -/
def maxName : Nat := 255

namespace Workspace

/-- Where a path has led so far. -/
inductive Place where
  | system (path : SystemPath)
  | directory (parts : List String)
  | thread (parts : List String)
  | file (contents : ByteArray)
  | device (d : Device)

/-- The error of a name that is not found in a directory: too long, or missing. -/
def missing (name : String) : ReadError :=
  if name.utf8ByteSize > maxName then .nameTooLong else .notFound

def Place.ofEntry (here : Place) : Entry → Place
  | .directory => here
  | .link target => .system target
  | .workingDirectory => .directory []
  | .threadDirectory => .thread []
  | .text contents => .file contents.toUTF8
  | .executable => .file executableImage
  | .device d => .device d

def step (w : Workspace) : Place → String → Except ReadError Place
  | .file _, _ => .error .notDirectory
  | .device _, _ => .error .notDirectory
  | p, "" => .ok p
  | p, "." => .ok p
  | .system ds, ".." => .ok (.system ds.dropLast)
  | .system ds, name =>
    let path := ds ++ [name]
    match systemEntry w.installation path with
    | some e => .ok (Place.ofEntry (.system path) e)
    | none => .error (missing name)
  | .thread [], ".." => .ok (.system threadDirectoryParent)
  | .thread ds, ".." => .ok (.thread ds.dropLast)
  | .thread ds, name =>
    let parts := ds ++ [name]
    match threadEntry parts with
    | some e => .ok (Place.ofEntry (.thread parts) e)
    | none => .error (missing name)
  | .directory [], ".." => .ok (.system workingDirectoryParent)
  | .directory ds, ".." => .ok (.directory ds.dropLast)
  | .directory ds, name =>
    let parts := ds ++ [name]
    match w.files.find? fun (n, _) => pathParts n = parts with
    | some (_, contents) => .ok (.file contents)
    | none =>
      if name.utf8ByteSize ≤ maxName && w.files.any fun (n, _) => parts.isPrefixOf (pathParts n)
      then .ok (.directory parts)
      else .error (missing name)

/-- What a path leads to, from the root for a path that starts with `/` and from the
working directory otherwise. -/
def resolve (w : Workspace) (path : String) : Except ReadError Place :=
  if path.isEmpty then .error .notFound
  else if path.utf8ByteSize ≥ maxPath then .error .nameTooLong
  else
    let start := if path.startsWith "/" then Place.system [] else .directory []
    (path.splitOn "/").foldlM w.step start

/-- Reads what is left of standard input, which leaves none. -/
def takeStdin : StateM ByteArray (Except ReadError ByteArray) :=
  modifyGet fun rest => (.ok rest, ByteArray.empty)

def readFile (w : Workspace) (path : String) : StateM ByteArray (Except ReadError ByteArray) :=
  match w.resolve path with
  | .error e => pure (.error e)
  | .ok (.file contents) => pure (.ok contents)
  | .ok (.device .null) => pure (.ok ByteArray.empty)
  | .ok (.device .stdin) => takeStdin
  | .ok (.device .terminal) => pure (.error .noDevice)
  | .ok _ => pure (.error .isDirectory)

/-- The host that reads from the workspace; its state is the unread standard input. -/
def host (w : Workspace) : Host (StateM ByteArray) := ⟨w.readFile, takeStdin⟩

/-- Runs the command on the workspace. -/
def run (w : Workspace) (args : List String) : Outcome :=
  (Id.run ((execute w.host args).run w.stdin)).1

end Workspace

end Cli

end FormulaShader
