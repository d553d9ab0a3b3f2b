import Refactoring.Edit.Apply
import Refactoring.Session.Connection
import Refactoring.Settings.Store
import Refactoring.Terminal.CommandLine

/-!
# The program

The command line on a real system.  The server runs beside the program; the two are connected by
named pipes, of which the environment gives the names: what `REFACTORING_SERVER_INPUT` names is
written, and what `REFACTORING_SERVER_OUTPUT` names is read.  Files are changed as on a disk in
memory: the part of the disk that matters is read, and what has changed in it is written back.
-/

namespace Refactoring.CommandLine

/-- The connection to the server with the pipes below it. -/
structure Surroundings where
  connection : Connection
  incoming : Frame.Stream
  toServer : Option IO.FS.Handle
  fromServer : Option IO.FS.Handle

/-- Work on a real system. -/
abbrev OnSystem : Type → Type := StateT Surroundings IO

/-! ### Files -/

/-- The path of a place as the system takes it. -/
def systemPath (place : Disk.Place) : String := Disk.shown (Disk.pathOf place)

/-- Whether a path leads to a directory. -/
def leadsToDirectory (path : String) : IO Bool := do
  try (← IO.FS.realPath path).isDir catch _ => return false

/-- What stands at a place. -/
def nodeAt? (place : Disk.Place) : IO (Option Disk.Node) := do
  if ← leadsToDirectory (systemPath place) then return some .directory
  try return some (.file (← IO.FS.readBinFile (systemPath place)).toList)
  catch _ => return none

/-- Adds what stands at a place, and below it if `deep` is set. -/
partial def loadPlace (deep : Bool) (disk : Disk) (place : Disk.Place) : IO Disk := do
  match ← nodeAt? place with
  | none => return disk
  | some (.file content) => return disk.set place (.file content)
  | some .directory =>
    let disk := if place = [] then disk else disk.set place .directory
    if !deep then return disk
    let found ← (← IO.FS.realPath (systemPath place)).readDir
    let names := found.map fun entry => Utf8.encode entry.fileName
    names.foldlM (fun disk name => loadPlace deep disk (place ++ [name])) disk

/-- The place that the names of a path lead to. -/
def placeOf (path : Disk.FilePath) : Disk.Place :=
  (Uri.pathNames path).foldl (fun place name =>
    if name = [46, 46] then place.dropLast else place ++ [name]) []

/-- Adds what stands along a path. -/
def loadPath (deep : Bool) (disk : Disk) (path : Disk.FilePath) : IO Disk := do
  let place := placeOf path
  let above ← (List.range place.length).foldlM
    (fun disk count => loadPlace false disk (place.take count)) disk
  loadPlace deep above place

/-- Takes away what stands at a place. -/
def removePlace : Disk.Place × Disk.Node → IO Unit
  | (place, .file _) => IO.FS.removeFile (systemPath place)
  | (place, .directory) => IO.FS.removeDir (systemPath place)

/-- Writes what stands at a place. -/
def writePlace : Disk.Place × Disk.Node → IO Unit
  | (place, .file content) => IO.FS.writeBinFile (systemPath place) ⟨content.toArray⟩
  | (place, .directory) => IO.FS.createDir (systemPath place)

/-- Writes back what has changed: first what is gone, the deepest places first, then what is new. -/
def store (before after : Disk) : IO Unit := do
  let depth (e : Disk.Place × Disk.Node) := e.1.length
  let gone := before.entries.filter fun e =>
    match e.2, after.get? e.1 with
    | .file _, some (.file _) => false
    | .directory, some .directory => false
    | _, _ => true
  let new := after.entries.filter fun e => before.get? e.1 ≠ some e.2
  (gone.mergeSort fun a b => decide (depth b ≤ depth a)).forM removePlace
  (new.mergeSort fun a b => decide (depth a ≤ depth b)).forM writePlace

/-- Works on the part of the disk that some paths lead to. -/
def onDisk {α : Type} (deep : Bool) (paths : List Disk.FilePath) (action : Disk → Disk × α) :
    IO α := do
  let before ← paths.foldlM (loadPath deep) .empty
  let (after, value) := action before
  store before after
  return value

/-- The working directory. -/
def workingDirectory : IO Disk.FilePath := return Utf8.encode (← IO.currentDir).toString

/-- A path from the working directory. -/
def resolved (path : Disk.FilePath) : IO Disk.FilePath := do
  if path = [] then return [] else return Disk.FilePath.join (← workingDirectory) path

/-- Asks the disk about a path. -/
def lookAt {α : Type} (path : Disk.FilePath) (question : Disk → Disk.FilePath → α) : IO α := do
  let path ← resolved path
  onDisk false [path] fun disk => (disk, question disk path)

/-! ### The server -/

/-- Opens the pipes to the server. -/
def openServer (config : ServerConfig) : OnSystem (Except Failure Unit) := do
  let some input ← IO.getEnv "REFACTORING_SERVER_INPUT" | return notFound
  let some output ← IO.getEnv "REFACTORING_SERVER_OUTPUT" | return notFound
  try
    let toServer ← IO.FS.Handle.mk input .write
    let fromServer ← IO.FS.Handle.mk output .read
    modify fun s => { s with toServer := some toServer, fromServer := some fromServer }
    return .ok ()
  catch e => return .error (.of s!"Failed to start {config.name}: {e}")
where
  /-- There is no server. -/
  notFound : Except Failure Unit :=
    .error (.of s!"Language server '{config.command}' not found: cannot find binary path")

/-- Writes a message to the server. -/
def writeMessage (content : Json) : OnSystem (Except Failure Unit) := do
  let some pipe := (← get).toServer | return .error Connection.lost
  try
    pipe.write ⟨(Frame.write content.compact).toArray⟩
    pipe.flush
    return .ok ()
  catch e => return .error (.of (toString e))

/-- Takes in messages of the server until a request has its outcome. -/
partial def awaitOutcome (id : Nat) (method : String) : OnSystem (Except Failure Json) := do
  let s ← get
  if let some outcome := s.connection.outcome? id then return outcome
  let some pipe := s.fromServer | return .error (Session.timedOut method)
  if !s.connection.isOpen then return .error (Session.timedOut method)
  let bytes ← pipe.read (max 1 (Frame.missing s.incoming)).toUSize
  let (connection, incoming, answers) :=
    s.connection.takeIn (s.incoming ++ bytes.toList) bytes.isEmpty
  set { s with connection := connection, incoming := incoming }
  for answer in answers do
    let _ ← writeMessage answer
  awaitOutcome id method

/-! ### The user -/

/-- Asks the user for a line, if someone sits at the terminal. -/
def promptLine (prompt : String) : IO (Except Failure String) := do
  if !(← (← IO.getStderr).isTty) then return .error Session.noTerminal
  IO.eprint prompt
  return .ok (← (← IO.getStdin).getLine)

/-- Lets the user choose a row by its number. -/
def promptRow (rows : List String) (prompt : String) : IO (Except Failure (Option Nat)) := do
  let lines := rows.zipIdx.map fun (row, place) => s!"  {place + 1}. {row}\n"
  let typed ← promptLine (prompt ++ "\n" ++ String.join lines ++ "> ")
  return typed.map fun line =>
    (digits? (Text.trim line.toList)).bind fun row => if row = 0 then none else some (row - 1)

/-- The number of this process. -/
def processNumber : IO Nat := do
  try
    let status ← IO.FS.readFile "/proc/self/stat"
    return (digits? (status.toList.takeWhile (· ≠ ' '))).getD 0
  catch _ => return 0

/-- Answers a call on the real system. -/
def answer : (call : SystemCall) → OnSystem call.Reply
  | .processId => processNumber
  | .startServer config => openServer config
  | .allocate => modifyGet fun s =>
    (s.connection.allocate.1, { s with connection := s.connection.allocate.2 })
  | .register id => modify fun s => { s with connection := s.connection.register id }
  | .write content => writeMessage content
  | .await id method => awaitOutcome id method
  | .readText path => lookAt path Disk.readText
  | .pathExists path => lookAt path Disk.pathExists
  | .makeDirectory path => do
    let path ← resolved path
    onDisk false [path] fun disk => disk.makeAll path
  | .canonical path => lookAt path fun disk path => (disk.stat path).map fun e => Disk.pathOf e.1
  | .workingDirectory => workingDirectory
  | .configuration root =>
    onDisk false [root, Disk.FilePath.join root configFile] (ClientConfig.getOrCreate root)
  | .applyEdit edit =>
    let paths := (edit.allChanges.flatMap Change.documents).filterMap Uri.filePath?
    onDisk true paths fun disk => ((edit.apply disk).1, (edit.apply disk).2.outcome)
  | .choose rows prompt => promptRow rows prompt
  | .enter prompt => promptLine (prompt ++ ": ")
  | .tell line => IO.eprintln line

end Refactoring.CommandLine

open Refactoring CommandLine in
/-- Runs the program. -/
def main (words : List String) : IO UInt32 := do
  match parse words with
  | .error .help => IO.print usage; return 0
  | .error .misuse => IO.eprint usage; return 2
  | .ok wanted =>
    let work := (CommandLine.run wanted).interpret answer
    let (ending, _) ← work.run ⟨.start, [], none, none⟩
    IO.print ending.output
    return ending.exitCode.toUInt32
