import FormulaShader.Cli.Run

/-!
# The command

Reads its arguments, its files and standard input from the system, runs the command, prints
what the run printed and exits with its status.
-/

section

open FormulaShader Cli

def readErrorOf : IO.Error → ReadError
  | .noFileOrDirectory .. => .notFound
  | .inappropriateType _ 21 _ => .isDirectory
  | .inappropriateType _ 20 _ => .notDirectory
  | .otherError 21 _ => .isDirectory
  | .otherError 20 _ => .notDirectory
  | .invalidArgument _ 36 _ => .nameTooLong
  | .otherError 36 _ => .nameTooLong
  | .noSuchThing _ 6 _ => .noDevice
  | .otherError 6 _ => .noDevice
  | .permissionDenied _ 13 _ => .other "Permission denied (os error 13)"
  | e => .other (toString e)

partial def readAll (stream : IO.FS.Stream) (acc : ByteArray) : IO ByteArray := do
  let chunk ← stream.read 65536
  if chunk.isEmpty then pure acc else readAll stream (acc ++ chunk)

def systemHost : Host IO where
  readFile path := do
    try pure (.ok (← IO.FS.readBinFile path))
    catch e => pure (.error (readErrorOf e))
  readStdin := do
    try pure (.ok (← readAll (← IO.getStdin) ByteArray.empty))
    catch e => pure (.error (readErrorOf e))

def main (args : List String) : IO UInt32 := do
  let out ← execute systemHost args
  let stdout ← IO.getStdout
  stdout.putStr out.stdout
  stdout.flush
  let stderr ← IO.getStderr
  stderr.putStr out.stderr
  stderr.flush
  pure out.exit.toUInt32

end
