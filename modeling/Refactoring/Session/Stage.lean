import Refactoring.Edit.Apply
import Refactoring.Session.Connection
import Refactoring.Session.Peer
import Refactoring.Session.System
import Refactoring.Settings.Store

/-!
# A stage for sessions

A system in memory, to try sessions out: a disk, a scripted server and a user who answers as
planned.  Several pieces of work can run on it at once; each runs until it waits for a response,
then the server goes on, its messages are taken in, and so on until nothing moves any more.
-/

namespace Refactoring

/-- What a user does when asked. -/
inductive UserAnswer where
  | choose (row : Nat)
  | dismiss
  | type (text : String)
  deriving Repr

/-- The row that an answer chooses, if any. -/
def UserAnswer.row? : UserAnswer → Option Nat
  | choose row => some row
  | _ => none

/-- The text that an answer types. -/
def UserAnswer.text : UserAnswer → String
  | type text => text
  | _ => ""

/-- A system in memory. -/
structure Stage where
  disk : Disk
  directory : Disk.FilePath
  connection : Connection
  /-- Where the scripted server is installed. -/
  installed : Disk.FilePath
  /-- Other files that can be executed; none of them is a program. -/
  executables : List Disk.FilePath
  peer : Peer
  /-- What the server was started with. -/
  started : Option (List String)
  /-- What the user is going to do, if someone sits at the terminal. -/
  user : Option (List UserAnswer)
  /-- The lines that were shown. -/
  screen : List String

namespace Stage

/-- A path from the working directory. -/
def resolve (s : Stage) (path : Disk.FilePath) : Disk.FilePath :=
  if path = [] then [] else Disk.FilePath.join s.directory path

/-- The file that a command names; only commands with a slash name files here. -/
def program? (s : Stage) (command : String) : Option Disk.FilePath :=
  let path := s.resolve (Utf8.encode command)
  let isProgram := path = s.installed || (s.executables.contains path && s.disk.pathExists path)
  if command.toList.contains '/' && isProgram then some path else none

/-- The interpreter that the first line of a script names. -/
def interpreter? : List UInt8 → Option Disk.FilePath
  | 35 :: 33 :: rest =>
    let isSpace (b : UInt8) := b == 32 || b == 9
    let line := (rest.takeWhile (· ≠ 10)).dropWhile isSpace
    some (line.takeWhile fun b => !isSpace b)
  | _ => none

/-- Why a file that is no program does not start: it is in no known format, or it is a script whose
interpreter is missing. -/
def startFault (s : Stage) (path : Disk.FilePath) : String :=
  match ((s.disk.read path).toOption.bind interpreter?).filter (· ≠ []) with
  | some name => if s.disk.pathExists name then formatFault else Disk.Error.noEntry.message
  | none => formatFault
where
  /-- What the system says of a file in no known format. -/
  formatFault : String := "Exec format error (os error 8)"

/-- Starts the server. -/
def startServer (s : Stage) (config : ServerConfig) : Except Failure Unit × Stage :=
  match s.program? config.command with
  | none =>
    (.error (.of s!"Language server '{config.command}' not found: cannot find binary path"), s)
  | some path =>
    if config.arguments.any (·.toList.contains '\x00') then
      (.error (.of s!"Failed to start {config.name}: nul byte found in provided data"), s)
    else if path = s.installed then (.ok (), { s with started := some config.arguments })
    else (.error (.of s!"Failed to start {config.name}: {s.startFault path}"), s)

/-- The path to the place that a path leads to. -/
def canonical (s : Stage) (path : Disk.FilePath) : Except Disk.Error Disk.FilePath := do
  let (place, _) ← s.disk.stat (s.resolve path)
  return Disk.pathOf place

/-- The next answer of the user; without any more answers it is `otherwise`. -/
def nextAnswer {α : Type} (s : Stage) (read : UserAnswer → α) (otherwise : α) :
    Except Failure α × Stage :=
  match s.user with
  | none => (.error Session.noTerminal, s)
  | some [] => (.ok otherwise, s)
  | some (answer :: rest) => (.ok (read answer), { s with user := some rest })

/-- The reply to a call.  A response that has not come in is waited for in vain. -/
def reply : (call : SystemCall) → Stage → call.Reply × Stage
  | .processId, s => (0, s)
  | .startServer config, s => s.startServer config
  | .allocate, s =>
    let (id, connection) := s.connection.allocate
    (id, { s with connection := connection })
  | .register id, s => ((), { s with connection := s.connection.register id })
  | .write content, s =>
    match s.peer.accept content with
    | .ok peer => (.ok (), { s with peer := peer })
    | .error text => (.error (.of text), s)
  | .await id method, s =>
    ((s.connection.outcome? id).getD (.error (Session.timedOut method)), s)
  | .readText path, s => (s.disk.readText (s.resolve path), s)
  | .pathExists path, s => (s.disk.pathExists (s.resolve path), s)
  | .makeDirectory path, s =>
    let (disk, made) := s.disk.makeAll (s.resolve path)
    (made, { s with disk := disk })
  | .canonical path, s => (s.canonical path, s)
  | .workingDirectory, s => (s.directory, s)
  | .configuration root, s =>
    let (disk, config) := ClientConfig.getOrCreate root s.disk
    (config, { s with disk := disk })
  | .applyEdit edit, s =>
    let (disk, report) := edit.apply s.disk
    (report.outcome, { s with disk := disk })
  | .choose _ _, s => s.nextAnswer UserAnswer.row? none
  | .enter _, s => s.nextAnswer UserAnswer.text ""
  | .tell line, s => ((), { s with screen := s.screen ++ [line] })

/-- Whether a call waits for a response that has not come in. -/
def isBlocked (s : Stage) : SystemCall → Bool
  | .await id _ => (s.connection.outcome? id).isNone
  | _ => false

/-- Runs work until it waits or is done. -/
def advance {α : Type} : Work α → Stage → Work α × Stage
  | .done value, s => (.done value, s)
  | .ask call next, s =>
    if s.isBlocked call then (.ask call next, s)
    else
      let (reply, s) := s.reply call
      advance (next reply) s

/-- Runs several pieces of work, each until it waits or is done. -/
def advanceAll {α : Type} : List (Work α) → Stage → List (Work α) × Stage
  | [], s => ([], s)
  | work :: rest, s =>
    let (work, s) := advance work s
    let (rest, s) := advanceAll rest s
    (work :: rest, s)

/-- Lets the server go on and takes in what it has sent. -/
def listen (s : Stage) : Stage :=
  let peer := s.peer.play
  let (connection, outbox, answers) := s.connection.takeIn peer.outbox peer.closed
  let inbox := if peer.closed then peer.inbox else peer.inbox ++ answers
  { s with connection := connection, peer := { peer with outbox := outbox, inbox := inbox } }

/-- Lets `step` and the server go on in turns. -/
def alternate {ω : Type} (step : ω → Stage → ω × Stage) : Nat → ω → Stage → ω × Stage
  | 0, works, s => (works, s)
  | turns + 1, works, s =>
    let (works, s) := step works s
    alternate step turns works s.listen

/-- Turns enough for everything that can move: a turn in which the script of the server gets no
shorter brings nothing new. -/
def turns (s : Stage) : Nat := s.peer.workLeft + 2

/-- Lets the server go on alone. -/
def settle (s : Stage) : Stage := (alternate (fun () s => ((), s)) s.turns () s).2

/-- Runs a piece of work. -/
def run {α : Type} (work : Work α) (s : Stage) : α × Stage :=
  let (work, s) := alternate advance s.turns work s
  let (value, s) := work.run reply s
  (value, s.settle)

/-- Runs several pieces of work at once, each until it is done or waits for a response that does not
come any more. -/
def runAll {α : Type} (works : List (Work α)) (s : Stage) : List (Work α) × Stage :=
  let (works, s) := alternate advanceAll s.turns works s
  (works, s.settle)

end Stage
end Refactoring
