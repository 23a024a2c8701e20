import ClusterConnect.CommandLine.Inspection

/-!
# The program

Runs the command that inspects a URL. The configuration files are the user's own and the one in the
working directory. The program has no connector of its own, so every attempt to open a link is
refused.
-/

namespace ClusterConnect.Program

/-- The configuration files, of which the first counts most. -/
def configurationFiles (home : Option String) : List String :=
  (home.map fun h => h ++ "/.config/pgaws/driverconfig.toml").toList ++ ["driverconfig.toml"]

/-- Puts a file of the operating system into a file tree, if it can be read. -/
def addFile (files : FileTree) (name : String) : IO FileTree := do
  try
    let bytes ← IO.FS.readBinFile name
    return files.install (Path.ofText name) bytes.toList
  catch _ => return files

/-- The files that the command may read, seen from the working directory. -/
def initialFiles (names : List String) : IO FileTree := do
  let here := Path.ofText (← IO.currentDir).toString
  let empty : FileTree := { here := here.parts }
  names.foldlM addFile (empty.makeDirectories here).2

/-- The name that the user is logged in with. -/
def loginName : IO (Option String) := do
  for key in ["LOGNAME", "USER", "LNAME", "USERNAME"] do
    match ← IO.getEnv key with
    | some name => if !name.isEmpty then return some name
    | none => pure ()
  return none

/-- Extends the log files that the command has written. -/
def flushLogs (before after : FileTree) : IO Unit := do
  for (location, entry) in after.entries do
    match entry, before.entry? location with
    | .file bytes, none =>
      let log ← IO.FS.Handle.mk (Path.text (.ofLocation location)) .append
      log.write ⟨bytes.toArray⟩
    | _, _ => pure ()

/-- What is shown when the arguments break the grammar or ask for help. -/
def usageText : String :=
  "usage: pgaws [-h] [-s KEY=VALUE] [--strict] [--connect] [--query QUERY] url"

/-- Runs the command and gives its exit code. -/
def run (inspection : Inspection) : IO UInt32 := do
  let names := configurationFiles (← IO.getEnv "HOME")
  let start : Environment Float :=
    { now := 0, files := ← initialFiles names, login := ← loginName }
  let driver : Driver := { configFiles := names.map Path.ofText }
  let (result, env) := (inspection.run driver 0).runFrom start
  flushLogs start.files env.files
  IO.print env.output
  IO.eprint env.errorOutput
  match result with
  | .ok code => return UInt32.ofNat code
  | .error f =>
    IO.eprintln f.text
    return 1

end ClusterConnect.Program

open ClusterConnect in
/-- The command that inspects a URL. -/
def main (arguments : List String) : IO UInt32 :=
  match Inspection.read arguments with
  | .ok inspection => Program.run inspection
  | .error e => do
    IO.println Program.usageText
    return UInt32.ofNat (e.exitCode)
