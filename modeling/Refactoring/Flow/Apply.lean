import Refactoring.Flow.Call
import Refactoring.Edit.Touched

/-!
# Results of the server

What the server answers is brought to the host: an error message is shown and nothing else happens;
otherwise the edit is applied, the documents it touched are saved if that is wanted, and then the
command that comes with it runs.
-/

namespace Refactoring

open Refactoring.Flow (report)

/-- Saves a document that the host can open; whether it was saved. -/
def saveDocument (uri : Uri) : Dialogue Bool := do
  match ← ask (.openDocument uri) with
  | .ok (some _) =>
    match ← ask (.saveDocument uri) with
    | .ok saved => return saved
    | .error _ => return false
  | _ => return false

/-- Saves documents one after the other, whatever becomes of each; those that were saved. -/
def saveDocuments : List Uri → Dialogue (List Uri)
  | [] => pure []
  | uri :: rest => do
    let saved ← saveDocument uri
    let others ← saveDocuments rest
    return if saved then uri :: others else others

/-- Saves the documents that an applied edit has left behind. -/
def WorkspaceEdit.saveTouched (edit : WorkspaceEdit) : Dialogue (List Uri) :=
  saveDocuments edit.touched

/-- Has the host apply an edit, if there is one; whether there was. -/
def applyEdit (saving : Bool) : Option WorkspaceEdit → Flow Bool
  | none => pure false
  | some edit => do
    let accepted ← Flow.editor (ask (.applyEdit edit))
    if !accepted then throw (.editor (.of "The editor rejected the edit"))
    if saving then
      let _ ← edit.saveTouched
    return true

/-- Has the host run a command, if there is one; whether there was. -/
def runCommand : Option Command → Flow Bool
  | none => pure false
  | some command => do
    let _ ← Flow.editor (ask (.runCommand command.name (command.arguments.getD [])))
    return true

/-- Carries out a result of the server, and saves what it touched if `saving` is set. -/
def RefactoringResult.carryOut (saving : Bool) (result : RefactoringResult) : Flow Outcome := do
  if let some message := result.errorMessage then report (.server message)
  let edited ← applyEdit saving result.edit
  let ran ← runCommand result.command
  return if edited || ran then .applied else .nothingToDo

/-- Carries out a result that the server may have left out. -/
def carryOut (saving : Bool) : Option RefactoringResult → Flow Outcome
  | none => pure .nothingToDo
  | some result => result.carryOut saving

end Refactoring
