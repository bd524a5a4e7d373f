import Junction.CommandLine

/-! # The program

The settings are the variables of the environment. The report goes to the standard output, and a
failure to the standard error output.
-/

namespace Junction.CommandLine

def environment : IO (List (String × String)) := do
  let found ← keys.mapM fun key => do return (key, ← IO.getEnv key)
  return found.filterMap fun (key, text) => text.map fun t => (key, t)

/-- The text of a file, or why it cannot be read. -/
def fileText (path : String) : IO (Except String String) := do
  try
    return .ok (← IO.FS.readFile path)
  catch e =>
    return .error (toString e)

def namedFiles (find : Settings.Lookup) : IO (List (String × Except String String)) :=
  (fileKeys.filterMap find).mapM fun path => do return (path, ← fileText path)

end Junction.CommandLine

def main : IO UInt32 := do
  let texts ← Junction.CommandLine.environment
  let find := fun key => texts.lookup key
  let files ← Junction.CommandLine.namedFiles find
  let read := fun path => (files.lookup path).getD (.error "file not read")
  match Junction.CommandLine.run find read with
  | .ok report =>
    IO.println (Junction.CommandLine.print report)
    return 0
  | .error failure =>
    IO.eprintln s!"Error: {failure.message}"
    return 1
