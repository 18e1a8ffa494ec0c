import HintedSql.Datum.Writer
import HintedSql.Program.Run
set_option relaxedAutoImplicit false
set_option autoImplicit false

/-!
# The command line

Runs the program on the files and variables of the system it is started on, and writes its report.
-/

namespace HintedSql

/-- What an error of the system is called here. -/
def FileError.ofSystem (e : IO.Error) : FileError :=
  match e with
  | .noFileOrDirectory _ _ _ => .notFound
  | .inappropriateType _ code _ => if code == 21 then .isDirectory else .notDirectory
  | e => .other (toString e)

/-- Read the bytes of a file. -/
def readBytes (path : String) : IO (Except FileError ByteArray) := do
  try
    return .ok (← IO.FS.readBinFile path)
  catch e =>
    return .error (.ofSystem e)

/-- Read a stream to its end. -/
partial def readStream (stream : IO.FS.Stream) (before : ByteArray) : IO ByteArray := do
  let bytes ← stream.read 65536
  if bytes.isEmpty then return before else readStream stream (before ++ bytes)

/-- Read standard input. -/
def readStandardInput : IO (Except FileError ByteArray) := do
  try
    return .ok (← readStream (← IO.getStdin) ByteArray.empty)
  catch e =>
    return .error (.ofSystem e)

/-- Read an assignment `NAME=value`. -/
def readVariable (cs : List Char) : String × String :=
  (String.ofList (cs.takeWhile (· != '=')), String.ofList ((cs.dropWhile (· != '=')).drop 1))

/-- The environment variables of this process. -/
def processVariables : IO Variables := do
  match ← readBytes "/proc/self/environ" with
  | .ok bytes =>
    let text := (String.fromUTF8? bytes).getD ""
    return .ofList ((Text.splitOn '\x00' text.toList).map readVariable)
  | .error _ => return fun _ => none

/-- The log file in a directory. -/
def logPath (directory : String) : String :=
  (if directory.isEmpty then "." else directory) ++ "/rabridge.log"

/-- Create a directory and a log file in it. -/
def createLogFile (directory : String) : IO Bool := do
  try
    if !directory.isEmpty then IO.FS.createDirAll directory
    let _ ← IO.FS.Handle.mk (logPath directory) .append
    return true
  catch _ =>
    return false

/-- The system that this process runs on. -/
def systemHost : Host IO where
  environment := processVariables
  readFile := readBytes
  isFile path := do
    match ← readBytes path with
    | .ok _ => return true
    | .error _ => return false
  readInput := readStandardInput
  createLog := createLogFile

/-- An event on one line. -/
def Log.Event.line (e : Log.Event) : String :=
  let fields := e.fields.map fun (name, value) => " " ++ name ++ "=" ++ value.compact
  e.level.title ++ " " ++ e.target ++ ": " ++ e.message ++ String.join fields

/-- Write the log of a run. -/
def LogReport.write (log : LogReport) : IO Unit := do
  if log.output.toStderr then
    for e in log.events do
      IO.eprintln (if log.format == .json then e.toDatum.compact else e.line)
  if log.output.toFile then
    let handle ← IO.FS.Handle.mk (logPath log.directory) .append
    for e in log.events do
      handle.putStrLn e.line

/-- Write what a run reports. -/
def Report.write (r : Report) : IO Unit := do
  if let some log := r.log then log.write
  if let some message := r.error then IO.eprintln ("error: " ++ message)
  IO.print r.output

end HintedSql

/-- Run the program. -/
def main (args : List String) : IO UInt32 := do
  let report ← HintedSql.run HintedSql.systemHost args
  report.write
  return UInt32.ofNat report.exitCode
