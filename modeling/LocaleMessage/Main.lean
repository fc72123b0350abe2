import LocaleMessage.CommandLine.Run

/-!
The program.
-/

open LocaleMessage.CommandLine

/-- Reads the files that the arguments may name, as far as they can be read. -/
def readFiles (names : List String) : IO (List (String × String)) := do
  let mut files := []
  for name in names do
    try
      files := (name, ← IO.FS.readFile name) :: files
    catch _ =>
      pure ()
  return files

def main (args : List String) : IO UInt32 := do
  let files ← match readArguments args with
    | .ok ⟨.check names _, _⟩ => readFiles names
    | _ => pure []
  let outcome := run ⟨fun name => files.lookup name, ← IO.getEnv "MSGFORMAT_LOCALE"⟩ args
  IO.print outcome.output
  IO.eprint outcome.errors
  return UInt32.ofNat outcome.code
