import Refactoring.Flow.Client

/-!
# Rehearsals

Collaborators that follow a script, to try a flow out: the server and the user take their replies
from queues, and the host says of each document what becomes of it.
-/

namespace Refactoring

/-- What the collaborators are going to reply. -/
structure Rehearsal where
  refactorEdits : List (Except Failure Json)
  moveDestinations : List (Except Failure Json)
  moves : List (Except Failure Json)
  symbols : List (Except Failure Json)
  /-- The texts of documents by URI; other documents are empty. -/
  texts : List (String × String)
  /-- Which documents there are; others can be opened. -/
  opens : List (String × Except Failure Bool)
  shows : List (String × Failure)
  /-- What becomes of saving a document; others are saved. -/
  saves : List (String × Except Failure Bool)
  choices : List (Except Failure (Option Nat))
  edits : List (Except Failure Bool)
  commands : List (Except Failure Unit)
  formatting : Option FormattingOptions
  fileExists : Disk.FilePath → Bool
  /-- The problems that commands of the host end in; other commands are applied. -/
  hosted : List (String × Problem)

namespace Rehearsal

/-- The next reply of a queue, and what it is when the queue is used up. -/
def next {α : Type} (queue : List α) (default : α) : α × List α :=
  (queue.headD default, queue.tail)

/-- What a reply of the server stands for; `null` stands for nothing. -/
def reading {α : Type} (decoder : Json.Decoder α) (reply : Except Failure Json) :
    Except Failure (Option α) := do
  let value ← reply
  (Json.Decoder.optional decoder value).mapError fun fault => .of fault.message

/-- The path of a resource below the workspace of a rehearsal. -/
def relativePath (uri : Uri) : Option String :=
  let workspace := "/workspace/".toList
  let path := uri.path.text.toList
  if workspace.isPrefixOf path then some (String.ofList (path.drop workspace.length)) else none

/-- Whether and with which text a document can be opened. -/
def openDocument (r : Rehearsal) (uri : Uri) : Except Failure (Option Document) := do
  let found ← (r.opens.lookup uri.text).getD (.ok true)
  return if found then some ⟨uri, (r.texts.lookup uri.text).getD ""⟩ else none

/-- The reply to a call, and what is left of the script. -/
def answer : (call : Call) → Rehearsal → call.Reply × Rehearsal
  | .refactorEdit _, r =>
    let (reply, rest) := next r.refactorEdits (.ok .null)
    (reading RefactoringResult.decode reply, { r with refactorEdits := rest })
  | .moveDestinations _, r =>
    let (reply, rest) := next r.moveDestinations (.ok .null)
    (reading DestinationList.decode reply, { r with moveDestinations := rest })
  | .move _, r =>
    let (reply, rest) := next r.moves (.ok .null)
    (reading RefactoringResult.decode reply, { r with moves := rest })
  | .searchSymbols _, r =>
    let (reply, rest) := next r.symbols (.ok .null)
    ((reading (Json.Decoder.list Symbol.decode) reply).map (·.getD []), { r with symbols := rest })
  | .openDocument uri, r => (r.openDocument uri, r)
  | .showDocument document, r =>
    (match r.shows.lookup document.uri.text with
      | some failure => .error failure
      | none => .ok (), r)
  | .applyEdit _, r =>
    let (reply, rest) := next r.edits (.ok true)
    (reply, { r with edits := rest })
  | .saveDocument uri, r => ((r.saves.lookup uri.text).getD (.ok true), r)
  | .showError _, r => ((), r)
  | .showWarning _, r => ((), r)
  | .pick _ _, r =>
    let (reply, rest) := next r.choices (.ok (some 0))
    (reply, { r with choices := rest })
  | .runCommand _ _, r =>
    let (reply, rest) := next r.commands (.ok ())
    (reply.map fun _ => none, { r with commands := rest })
  | .formattingOptions, r => (r.formatting, r)
  | .relativePath uri, r => (relativePath uri, r)
  | .fileExists path, r => (r.fileExists path, r)
  | .hosted command _, r =>
    (match r.hosted.lookup command with
      | some problem => .error problem
      | none => .ok .applied, r)

end Rehearsal
end Refactoring
