import Refactoring.Program
import Refactoring.Failure
import Refactoring.Uri.Place
import Refactoring.Disk.Operations
import Refactoring.Wire.Request

/-!
# Flows

A flow carries a refactoring through: it asks the language server, the host editor and the disk,
and it ends in an outcome or in a problem.  `Call` lists what can be asked, `Dialogue` is a program
of such calls, and a `Flow` is a dialogue that a problem can end.
-/

namespace Refactoring

/-- A row of a picker. -/
structure PickItem where
  label : String
  description : Option String
  detail : Option String
  deriving Repr, DecidableEq

/-- A row with nothing but a label. -/
def PickItem.labelled (label : String) : PickItem := ⟨label, none, none⟩

/-- A document as the host has opened it. -/
structure Document where
  uri : Uri
  text : String
  deriving Repr, DecidableEq

/-- The position of an offset into a document. -/
def Document.positionAt (document : Document) (offset : Nat) : Position :=
  Text.positionAt document.text.toList offset

/-- What a flow can ask for. -/
inductive Call where
  /-- The edit of a refactoring, from the server. -/
  | refactorEdit (request : EditRequest)
  /-- The places that something can move to, from the server. -/
  | moveDestinations (request : MoveRequest)
  /-- The edit of a move, from the server. -/
  | move (request : MoveRequest)
  /-- The symbols of the workspace, from the server. -/
  | searchSymbols (query : SymbolQuery)
  /-- A document; the host may have none for the URI. -/
  | openDocument (uri : Uri)
  /-- Brings a document to the front. -/
  | showDocument (document : Document)
  /-- Applies an edit; the host may reject it. -/
  | applyEdit (edit : WorkspaceEdit)
  /-- Saves a document; the host may decline. -/
  | saveDocument (uri : Uri)
  | showError (message : String)
  | showWarning (message : String)
  /-- Lets the user choose a row or dismiss the picker. -/
  | pick (items : List PickItem) (placeholder : String)
  /-- Runs a command of the host. -/
  | runCommand (name : String) (arguments : List Json)
  /-- The formatting options of the active editor, if there is one. -/
  | formattingOptions
  /-- The path from the workspace to a resource in it. -/
  | relativePath (uri : Uri)
  | fileExists (path : Disk.FilePath)
  /-- Carries out a command that the host has registered. -/
  | hosted (command : String) (arguments : List Json)
  deriving Repr

/-- What is replied to a call. -/
@[reducible]
def Call.Reply : Call → Type
  | refactorEdit _ => Except Failure (Option RefactoringResult)
  | moveDestinations _ => Except Failure (Option DestinationList)
  | move _ => Except Failure (Option RefactoringResult)
  | searchSymbols _ => Except Failure (List Symbol)
  | openDocument _ => Except Failure (Option Document)
  | showDocument _ => Except Failure Unit
  | applyEdit _ => Except Failure Bool
  | saveDocument _ => Except Failure Bool
  | showError _ => Unit
  | showWarning _ => Unit
  | pick _ _ => Except Failure (Option Nat)
  | runCommand _ _ => Except Failure (Option Json)
  | formattingOptions => Option FormattingOptions
  | relativePath _ => Option String
  | fileExists _ => Bool
  | hosted _ _ => Except Problem Outcome

/-- A program of calls. -/
abbrev Dialogue : Type → Type := Program Call Call.Reply

/-- A dialogue that a problem can end. -/
abbrev Flow : Type → Type := ExceptT Problem Dialogue

/-- Makes a call. -/
def ask (call : Call) : Dialogue call.Reply := .request call

namespace Flow

variable {α : Type}

/-- Goes on with the value, or ends with a problem that a failure makes. -/
def orElse (problem : Failure → Problem) (dialogue : Dialogue (Except Failure α)) : Flow α :=
  ExceptT.mk (dialogue.bind fun reply => .done (reply.mapError problem))

/-- Asks the server; its failures are those of the connection. -/
def server (dialogue : Dialogue (Except Failure α)) : Flow α := orElse .transport dialogue

/-- Asks the editor. -/
def editor (dialogue : Dialogue (Except Failure α)) : Flow α := orElse .editor dialogue

/-- Shows a problem to the user and ends with it. -/
def report (problem : Problem) : Flow α := do
  let _ ← ask (.showError problem.message)
  throw problem

/-- Lets the user choose a row; one that is not there counts as a dismissal. -/
def pick (items : List PickItem) (placeholder : String) : Flow (Option (Fin items.length)) := do
  let choice ← editor (ask (.pick items placeholder))
  return choice.bind fun i => if h : i < items.length then some ⟨i, h⟩ else none

/-- Lets the user choose one of the values by its row. -/
def choose (values : List α) (row : α → PickItem) (placeholder : String) : Flow (Option α) := do
  let choice ← pick (values.map row) placeholder
  return choice.map fun i => values.get (i.cast (by simp))

end Flow
end Refactoring
