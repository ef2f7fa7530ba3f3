import LocaleText.Command.Run

/-!
# The program

Reads from the disk what the command line refers to, runs the command on what has been found, prints
what it leaves and ends with its status.
-/

namespace LocaleText.Program

/-- Reads a file as text. -/
def readFile (path : Text) : IO Reading := do
  if !Path.isUsable path then return .notReadable
  try
    let bytes ← IO.FS.readBinFile (String.ofList path)
    match String.fromUTF8? bytes with
    | some text => return .text text.toList
    | none => return .notReadable
  catch
    | .noFileOrDirectory .. => return .missing
    | _ => return .notReadable

/-- Examines an entry of a directory. -/
def examine (found : IO.FS.DirEntry) : IO DirectoryItem := do
  let name := found.fileName.toList
  try
    let metadata ← found.path.symlinkMetadata
    return .entry { name, isFile := metadata.type == .file }
  catch _ => return .unexaminable name

/-- Lists a directory. All of it is listed at once or not at all, so no listing breaks off. -/
def readDirectory (path : Text) : IO Listing := do
  if path.isEmpty then return .missing
  if !Path.isUsable path then return .notListable
  try
    let here ← IO.currentDir
    let found ← (here / String.ofList path).readDir
    return .items (← found.toList.mapM examine)
  catch
    | .noFileOrDirectory .. => return .missing
    | _ => return .notListable

/-- A disk on which the given files and directories have been found. -/
def found (files : List (Text × Reading)) (directories : List (Text × Listing)) : Disk where
  file path := (files.lookup path).getD .missing
  directory path := (directories.lookup path).getD .missing

/-- Reads files, each with its path. -/
def readFiles (paths : List Text) : IO (List (Text × Reading)) :=
  paths.mapM fun path => return (path, ← readFile path)

/-- Reads what a command line refers to. -/
def readDisk (invocation : Command.Invocation) : IO Disk := do
  let configFiles ← readFiles invocation.config.toList
  match Command.loadConfig (found configFiles []) invocation.config with
  | .error _ => return found configFiles []
  | .ok (config, base) =>
    let paths := (invocation.action.settings config).directories base
    let directories ← paths.mapM fun path => return (path, ← readDirectory path)
    let packs := directories.flatMap fun (path, listing) =>
      (Pack.paths path listing).toOption.getD []
    let packFiles ← readFiles packs
    let referenceFiles ← readFiles invocation.action.referencePath?.toList
    return found (configFiles ++ packFiles ++ referenceFiles) directories

end LocaleText.Program

open LocaleText in
/-- Runs the command with the arguments of the program. -/
def main (arguments : List String) : IO UInt32 := do
  let arguments := arguments.map String.toList
  let disk ←
    match Command.Invocation.ofArguments arguments with
    | .ok invocation => Program.readDisk invocation
    | .error _ => pure Disk.blank
  let outcome := Command.run Reason.text disk arguments
  IO.print (String.ofList outcome.output)
  IO.eprint (String.ofList outcome.complaints)
  return outcome.status.toUInt32
