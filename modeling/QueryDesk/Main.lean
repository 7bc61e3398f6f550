/-
**The command line.**

The files that a command line names are read, the program is run on them, and what it prints and
writes is carried out.
-/

import QueryDesk.Cli.Program

namespace QueryDesk.Cli

/-- Why the system does not open a file, and whether it shows that something stands there. -/
def faultOf : IO.Error → FileFault × Bool
  | .noFileOrDirectory .. => (.missing, false)
  | .permissionDenied .. => (.system 13 "Permission denied", true)
  | .invalidArgument .. => (.nameTooLong, false)
  | .userError problem => (.noText problem, true)
  | other => (.system 5 other.toString, true)

/-- A folder with what stands under one more path. -/
def addEntry (folder : Folder) (path : String) : IO Folder := do
  try
    return folder.put path (← IO.FS.readFile path)
  catch
    | .inappropriateType .. => return { folder with folders := path :: folder.folders }
    | failure =>
      let (fault, isSeen) := faultOf failure
      if fault = .missing then return folder
      else return { folder with unreadable := (path, fault, isSeen) :: folder.unreadable }

/-- A path and the paths of the folders around it. -/
def withFolders (path : String) : List String :=
  let slashes := (List.range path.length).filter fun place => path.toList[place]? = some '/'
  path :: (slashes.map fun place => String.ofList (path.toList.take place)).filter fun outer =>
    outer ≠ ""

/-- All that is put in from here on. -/
partial def readInput (stream : IO.FS.Stream) : IO String := do
  let line ← stream.getLine
  if line.isEmpty then return ""
  return line ++ (← readInput stream)

/-- The surroundings of an invocation. -/
def surroundings (invocation : Invocation) : IO Machine := do
  let variableText ← IO.getEnv LogConfig.variableName
  let paths := invocation.paths ++ variableText.toList
  let places := (paths.filter (· != inputPath)).flatMap withFolders
  let folder ← places.foldlM addEntry (.ofFiles [])
  let input ← if paths.contains inputPath then readInput (← IO.getStdin) else pure ""
  let environment := (variableText.map fun text => (LogConfig.variableName, text)).toList
  return ⟨folder, .ok input, environment, .whole, .standard⟩

/-- Writes the files of a folder that are new or have other contents than before. -/
def writeChanges (before later : Folder) : IO Unit :=
  later.files.forM fun (path, content) =>
    if before.files.lookup path == some content then pure () else IO.FS.writeFile path content

/-- Runs the program on a command line; the result is the exit status. -/
def runInConsole (arguments : List String) : IO UInt32 := do
  let machine ← match Invocation.read arguments with
    | .ok invocation => surroundings invocation
    | .error _ => pure ⟨.ofFiles [], .ok "", [], .whole, .standard⟩
  match run machine arguments with
  | .ok outcome =>
    IO.print outcome.printed
    IO.eprint outcome.complaint
    writeChanges machine.folder outcome.folder
    return outcome.status.toUInt32
  | .error failure =>
    IO.eprint (complaintOf failure)
    return 1

end QueryDesk.Cli

/-- The program. -/
def main (arguments : List String) : IO UInt32 := QueryDesk.Cli.runInConsole arguments
