import TypeAnnotation.Command.Run

/-! # The program

Reads the files that the arguments name, runs and writes what is to be seen.
-/
namespace TypeAnnotation

/-- What there is under a path. A directory can be opened but not read. -/
def lookAt (path : String) : IO Command.Entry := do
  try
    return .file (← IO.FS.readFile path)
  catch
    | .inappropriateType none .. => return .directory
    | _ => return .missing

end TypeAnnotation

def main (arguments : List String) : IO UInt32 := do
  let entries ← arguments.mapM fun path => return (path, ← TypeAnnotation.lookAt path)
  let outcome := TypeAnnotation.Command.run
    { entry := fun path => (entries.lookup path).getD .missing
      format := ← IO.getEnv "TYPENORM_FORMAT" }
    arguments
  IO.print outcome.stdout
  IO.eprint outcome.stderr
  match outcome.escaped with
  | some fault => IO.eprintln (fault.title ++ ": " ++ fault.message)
  | none => pure ()
  return outcome.exit.toUInt32
