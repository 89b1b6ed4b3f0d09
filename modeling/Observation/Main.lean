import Observation.Run

/-!
# The program

Reads the arguments and the files they name, runs the command, and shows what it leaves behind.
-/

open Observation

/-- The reason why a file could not be read.  The code of an error may have its sign reversed. -/
def fileErrorOf : IO.Error → FileError
  | .noFileOrDirectory _ _ _ => .notFound
  | .inappropriateType _ code _ =>
    if code = 20 ∨ 0 - code = 20 then .notADirectory else .isADirectory
  | .permissionDenied _ _ _ => .other "Permission denied (os error 13)"
  | e => .other (toString e)

/-- The content of a file. -/
def readFileContent (name : String) : IO FileContent := do
  try
    return .ok (← IO.FS.readBinFile name)
  catch e =>
    return .error (fileErrorOf e)

/-- Shows a notice on the error stream. -/
def showNotice (profile : Log.Profile) (elapsed : Nat) : Notice → IO Unit
  | .line s => IO.eprintln s
  | .logged r =>
    match profile with
    | .production => IO.eprintln (r.toValue elapsed).compact
    | _ => IO.eprintln (r.line (toString elapsed))

/-- Runs the program. -/
def main (arguments : List String) : IO UInt32 := do
  match Invocation.parse arguments with
  | .error e =>
    IO.eprintln ("error: " ++ e.message)
    return 2
  | .ok invocation =>
    let started ← IO.monoMsNow
    let contents ← invocation.command.files.mapM fun name => do
      return (name, ← readFileContent name)
    let content (name : String) : FileContent :=
      ((contents.find? fun c => c.1 == name).map (·.2)).getD (.error .notFound)
    let outcome := invocation.command.run content
    IO.print outcome.output
    let elapsed := (← IO.monoMsNow) - started
    for notice in outcome.shown invocation.profile (← IO.getEnv "RUST_LOG") do
      showNotice invocation.profile elapsed notice
    return UInt32.ofNat outcome.exitCode
