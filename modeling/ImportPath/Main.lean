import ImportPath.Command

/-!
# The tool

Reads the arguments, the project listing on standard input when the command needs
one, and the working directory from the environment; prints what the command gives.
Exit status: 0 on success, 1 when the command fails, 2 when the arguments are wrong.
-/

open ImportPath

/-- Reads a stream to its end. -/
partial def readAll (stream : IO.FS.Stream) (acc : String) : IO String := do
  let chunk ← stream.getLine
  if chunk.isEmpty then pure acc else readAll stream (acc ++ chunk)

/-- Runs the tool. -/
def main (args : List String) : IO UInt32 := do
  match Invocation.parse args with
  | .error msg =>
    IO.eprintln ("error: " ++ msg)
    pure 2
  | .ok inv =>
    let cwd := (← IO.getEnv "PWD").getD "/"
    let listing ← if inv.needsTree then readAll (← IO.getStdin) "" else pure ""
    match inv.run listing ⟨cwd⟩ with
    | .ok out =>
      IO.eprint out.err
      IO.print out.out
      pure 0
    | .error msg =>
      IO.eprintln ("Error: " ++ msg)
      pure 1
