import Refactoring.Program
import Refactoring.Failure
import Refactoring.Disk.Operations
import Refactoring.Settings.Config
import Refactoring.Wire.Edit

/-!
# The system that a session runs on

What a session needs of its surroundings: the connection to the server, files, and a user at a
terminal.  A `Session` is a program of such calls that can end in a failure.
-/

namespace Refactoring

/-- What a session can ask of the system. -/
inductive SystemCall where
  /-- The number of the process of the client. -/
  | processId
  /-- Starts the server. -/
  | startServer (config : ServerConfig)
  /-- A number for a request. -/
  | allocate
  /-- Lets a request wait for its response. -/
  | register (id : Nat)
  /-- Writes a message to the server. -/
  | write (content : Json)
  /-- The response to a request for a method. -/
  | await (id : Nat) (method : String)
  | readText (path : Disk.FilePath)
  | pathExists (path : Disk.FilePath)
  | makeDirectory (path : Disk.FilePath)
  /-- The path with nothing to follow in it, from the working directory if it is relative. -/
  | canonical (path : Disk.FilePath)
  | workingDirectory
  /-- The configuration in a directory. -/
  | configuration (root : Disk.FilePath)
  | applyEdit (edit : WorkspaceEdit)
  /-- Lets the user choose a row or dismiss the picker. -/
  | choose (rows : List String) (prompt : String)
  /-- Lets the user type a text. -/
  | enter (prompt : String)
  /-- Shows a line to the user. -/
  | tell (line : String)
  deriving Repr

/-- What is replied to a call. -/
@[reducible]
def SystemCall.Reply : SystemCall → Type
  | processId => Nat
  | startServer _ => Except Failure Unit
  | allocate => Nat
  | register _ => Unit
  | write _ => Except Failure Unit
  | await _ _ => Except Failure Json
  | readText _ => Except Disk.Error String
  | pathExists _ => Bool
  | makeDirectory _ => Except Disk.Error Unit
  | canonical _ => Except Disk.Error Disk.FilePath
  | workingDirectory => Disk.FilePath
  | configuration _ => Except Failure ClientConfig
  | applyEdit _ => Except Failure Unit
  | choose _ _ => Except Failure (Option Nat)
  | enter _ => Except Failure String
  | tell _ => Unit

/-- A program of calls to the system. -/
abbrev Work : Type → Type := Program SystemCall SystemCall.Reply

/-- Work that can end in a failure. -/
abbrev Session : Type → Type := ExceptT Failure Work

/-- Makes a call. -/
def system (call : SystemCall) : Work call.Reply := .request call

namespace Session

variable {α : Type}

/-- The failure of asking a user when no one sits at the terminal. -/
def noTerminal : Failure := ⟨["IO error: not a terminal", "not a terminal"]⟩

/-- The failure of a request that was waited for in vain. -/
def timedOut (method : String) : Failure := .of s!"{method} timed out after 120s"

/-- Goes on with the value of a call that can fail. -/
def of (work : Work (Except Failure α)) : Session α := ExceptT.mk work

/-- Goes on with the value of a call, or fails with an error of the disk under a circumstance. -/
def onDisk (within : String) (work : Work (Except Disk.Error α)) : Session α :=
  ExceptT.mk <| work.bind fun reply =>
    .done (reply.mapError fun e => (Failure.of e.message).within within)

/-- Goes on whether a session fails or not. -/
def ignoring (session : Session Unit) : Session Unit :=
  ExceptT.mk (session.run.bind fun _ => .done (.ok ()))

end Session
end Refactoring
