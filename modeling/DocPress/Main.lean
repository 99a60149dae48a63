import DocPress.Command.Run
import Std.Time.DateTime.Timestamp

/-!
# The program

The program looks at the files and variables that a run may need, lets `DocPress.Command.run` decide
what comes of them, and then prints and writes that.

Specification: section 10.1, the composition root.
-/

namespace DocPress.Main

open DocPress.Files

/-- What is at a path of the file system: a file's bytes, an empty directory, or nothing. -/
def look (path : String) : IO (Option Node) := do
  try
    let place := (← IO.currentDir) / path
    if ← place.isDir then return some (.directory [])
    return some (.file (← IO.FS.readBinFile path).toList)
  catch _ => return none

/-- Notes what is at each step of a path, unless it is noted already. -/
def noteSteps (disk : Disk) : String → List Name → List (List Char) → IO Disk
  | _, _, [] => pure disk
  | path, place, piece :: rest => do
    if isVoid piece then noteSteps disk path place rest
    else
      let path := path ++ "/" ++ String.ofList piece
      if piece = ['.', '.'] then noteSteps disk path place.dropLast rest
      else
        let place := place ++ [Text.Utf8.encode piece]
        match disk.root.find? place, ← look path with
        | none, some node =>
          noteSteps { disk with root := disk.root.put node place } path place rest
        | _, _ => noteSteps disk path place rest

/-- Notes what a path leads to. -/
def note (disk : Disk) (path : String) : IO Disk :=
  if path.isEmpty then pure disk else noteSteps disk "" [] (disk.pieces path)

/-- Notes the entries of a directory. -/
def noteEntries (disk : Disk) (dir : String) : IO Disk := do
  try
    let entries ← ((← IO.currentDir) / dir).readDir
    entries.foldlM (fun d entry => note d (join dir entry.fileName)) (← note disk dir)
  catch _ => note disk dir

/-- The values of variables that are set. -/
def lookupFor (names : List String) : IO Settings.Lookup := do
  let known ← names.filterMapM fun name => do
    return (← IO.getEnv name).map fun value => (name, value)
  return fun name => known.lookup name

/-- The first second of 1970, which system time is counted from. -/
def epoch : Time.Instant := ⟨Time.dayNumber ⟨1970, 1, 1⟩, 0, 0⟩

/-- The present time. -/
def now : IO Time.Instant := do
  let nanos := (← Std.Time.Timestamp.now).toNanosecondsSinceUnixEpoch.val
  let seconds := nanos / 1000000000
  return ⟨epoch.day + seconds / 86400, (seconds % 86400).toNat, (nanos % 1000000000).toNat⟩

/-- The configuration file and the overrides of a request. -/
def configuration : Command.Request → Option String × Settings.Overrides
  | .render r => (r.config, r.overrides)
  | .check r => (r.config, { templatesDir := r.templates })
  | _ => (none, {})

/-- The files of a request besides configuration and templates. -/
def filesOf : Command.Request → List String
  | .render r => r.data :: r.output.toList
  | _ => []

/-- Everything that a request may look at. -/
def world (request : Command.Request) : IO Command.World := do
  let current := (← IO.currentDir).toString
  let (config, overrides) := configuration request
  let candidates := (ancestors current).map fun dir => join dir Settings.configFileName
  let disk ← (config.toList ++ candidates ++ filesOf request).foldlM note ⟨.directory [], current⟩
  let file := config.orElse fun _ => Settings.discover? disk
  let lookup ← lookupFor ((file.map (Settings.namesInFile disk)).getD [])
  let disk ← match Settings.load disk lookup config overrides with
    | .ok settings => noteEntries disk settings.templatesDir
    | .error _ => pure disk
  return ⟨disk, lookup, ← now⟩

/-- Writes the file that a request asks for, as it is after the run. -/
def keep (disk : Disk) : Command.Request → IO Unit
  | .render r =>
    match r.output with
    | some path =>
      match disk.read path with
      | .ok bytes => IO.FS.writeBinFile path bytes.toByteArray
      | .error _ => pure ()
    | none => pure ()
  | _ => pure ()

/-- Runs the program. -/
def program (args : List String) : IO UInt32 := do
  let request := Command.request (← IO.getEnv Command.templatesVariable) args
  let outcome := Command.run (← world request) request
  if outcome.exit = 0 then keep outcome.disk request
  (← IO.getStdout).write outcome.stdout.toByteArray
  for line in outcome.stderr do
    IO.eprintln line
  return outcome.exit.toUInt32

end DocPress.Main

/-- The entry point of the program. -/
def main (args : List String) : IO UInt32 := DocPress.Main.program args
