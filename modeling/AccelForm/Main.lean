import AccelForm.Command.Run
import AccelForm.Command.Usage
/-
  The program

  What a run does is a function of its arguments, the environment, the files
  and the server. What is left to do here is to look at the files, to print
  and to end with the exit code. No transport comes with the program: every
  request finds the server out of reach.
-/

namespace AccelForm.Program

def look (path : String) : IO FileNode := do
  try
    return .file (← IO.FS.readFile path)
  catch
    | .noFileOrDirectory .. => return .absent
    -- A path that cannot even be opened goes on below a file.
    | .inappropriateType opened _ _ => return if opened.isSome then .blocked else .directory
    | .userError _ => return .unreadable "stream did not contain valid UTF-8"
    | e => return .unreadable (toString e)

/-- What stands at some paths; nothing is seen at any other path. -/
def lookAt (paths : List String) : IO Files := do
  let seen ← paths.mapM fun path => return (path, ← look path)
  return fun path => (seen.lookup path).getD .absent

def environment : IO Config.Environment := do
  try
    return .ofBlock (← IO.FS.readBinFile "/proc/self/environ").data.toList
  catch _ => return .empty

/-- The surroundings of a run before the variable file is read. -/
def surroundings : IO Config.Surroundings := do
  return ⟨← environment, "/", ← lookAt [Config.Loader.dotenvPath]⟩

def parentOf (path : String) : String :=
  let parent := (path.toList.reverse.dropWhile (· ≠ '/')).drop 1
  if parent.isEmpty then if isAbsolutePath path then "/" else "." else String.ofList parent.reverse

/-- Writes a text to a file as a whole: a reader sees the old contents or the new ones. -/
def writeWhole (path text : String) : IO Unit := do
  IO.FS.createDirAll (parentOf path)
  let beside := path ++ ".part"
  IO.FS.writeFile beside text
  IO.FS.rename beside path

/-- Shows the text of a result where it is wanted. -/
def deliver (outputFile : Option String) (text : String) : IO Unit := do
  match outputFile with
  | none => IO.print text
  | some path =>
    writeWhole path text
    IO.eprintln ("Results written to " ++ path)

/-- Shows how a run ended; the exit code. -/
def finish (outputFile : Option String) (o : Outcome) : IO ExitCode := do
  try
    o.text.forM (deliver outputFile)
  catch e =>
    IO.eprintln ("Failed to write output: " ++ toString e)
    return .general
  o.failure.forM fun failure => IO.eprintln failure.message
  return o.exitCode

/-- Shows what is to be said of arguments that name no run; the exit code's number. -/
def explain (e : UsageError) : IO Nat := do
  e.lines.forM fun line => if e.isWanted then IO.println line else IO.eprintln line
  return e.exitNumber

def run (arguments : List String) : IO Nat := do
  match (Config.Loader.start (← surroundings)).loadDotenv with
  | .error e =>
    IO.eprintln ("Failed to load environment: " ++ e.message)
    return ExitCode.general.number
  | .ok l =>
    match Arguments.read l.surroundings.environment arguments with
    | .error e => explain e
    | .ok a =>
      let files ← lookAt (a.paths l.surroundings)
      let outcome := a.run { l.surroundings with files := files } .unreachable
      return (← finish a.outputFile outcome).number

end AccelForm.Program

/-- Runs the program and ends with its exit code. -/
def main (arguments : List String) : IO UInt32 :=
  return (← AccelForm.Program.run arguments).toUInt32
