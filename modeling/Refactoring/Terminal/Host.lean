import Refactoring.Flow.Client
import Refactoring.Session.Requests
import Refactoring.Text.Blank

/-!
# The terminal as a host

Flows run from a terminal find their documents on disk: an edit changes the files at once, so that
nothing is left to save, messages are lines on the screen, and the user is asked in the terminal.
`Terminal.answer` answers each call of a flow by work on the system.
-/

namespace Refactoring

/-- A host in a terminal. -/
structure Terminal where
  workspace : Disk.FilePath
  formatting : FormattingConfig
  deriving Repr

/-! ### Paths in the workspace -/

/-- The pieces of a path behind the given names. -/
def Disk.piecesBehind : List Disk.Name → List Disk.Name → Option (List Disk.Name)
  | [], pieces => some pieces
  | _ :: _, [] => none
  | name :: names, piece :: pieces =>
    if Disk.isIdle piece then Disk.piecesBehind (name :: names) pieces
    else if piece = name then Disk.piecesBehind names pieces
    else none

/-- The path from a directory to something at or below it. -/
def Disk.relativePath? (path directory : Disk.FilePath) : Option Disk.FilePath :=
  (Disk.piecesBehind (Uri.pathNames directory) (path.splitOn 47)).map fun pieces =>
    [47].intercalate (((pieces.dropWhile Disk.isIdle).reverse.dropWhile Disk.isIdle).reverse)

/-! ### Commands -/

/-- How the terminal carries out a command. -/
inductive HostCommand where
  /-- Asks for a name and renames what is at a position. -/
  | rename (uri : Uri) (position : Position)
  /-- The same, with the position given as an offset. -/
  | renameAt (position : RenamePosition)
  /-- The server carries it out. -/
  | onServer
  deriving Repr

/-- A value that an argument stands for. -/
def HostCommand.decoded {α : Type} (decoder : Json.Decoder α) (value : Json) : Except Failure α :=
  (decoder value).mapError fun fault => .of fault.message

/-- The command of a name with its arguments. -/
def HostCommand.parse (name : String) (arguments : List Json) : Except Failure HostCommand :=
  if name = hostRename then
    match arguments with
    | uri :: position :: _ => do
      let uri ← decoded Uri.decode uri
      let position ← decoded Position.decode position
      return .rename uri position
    | _ => .error (.of (hostRename ++ " expects a document URI and a position"))
  else if name = renameCommand then
    match arguments with
    | position :: _ => (decoded RenamePosition.decode position).map .renameAt
    | [] => .error (.of (renameCommand ++ " expects a rename position"))
  else .ok .onServer

namespace Terminal

/-- Opens a document: the text of its file.  There is none if there is no file. -/
def openDocument (uri : Uri) : Session (Option Document) := do
  let some path := uri.filePath? | return none
  match ← system (.readText path) with
  | .ok text => return some ⟨uri, text⟩
  | .error .noEntry => return none
  | .error e => throw (.of s!"Failed to open {Disk.shown path}: {e.message}")

/-- Applies an edit to the files. -/
def applyEdit (edit : WorkspaceEdit) : Session Unit := .of (system (.applyEdit edit))

/-- Asks for a name and renames what is at a position; without a name nothing happens. -/
def rename (uri : Uri) (position : Position) : Session Unit := do
  let typed ← Session.of (system (.enter "New name"))
  let name := String.ofList (Text.trim typed.toList)
  if name = "" then return
  if let some edit ← Session.rename ⟨uri, position, name, none⟩ then applyEdit edit

/-- Asks for a name and renames what is at an offset. -/
def renameAt (target : RenamePosition) : Session Unit := do
  match Uri.parse target.uri with
  | .error fault => throw (.of fault.message)
  | .ok uri =>
    let some document ← openDocument uri | throw (.of "document is not available")
    rename uri (document.positionAt target.offset)

/-- Carries out a command; failures of a rename at an offset are passed over. -/
def executeCommand (name : String) (arguments : List Json) : Session (Option Json) := do
  match ← ExceptT.mk (pure (HostCommand.parse name arguments)) with
  | .rename uri position =>
    rename uri position
    return none
  | .renameAt target =>
    Session.ignoring (renameAt target)
    return none
  | .onServer => Session.executeCommand ⟨name, arguments, none⟩

/-- A row of a picker on one line. -/
def rowText (item : PickItem) : String :=
  match item.description with
  | some description => s!"{item.label}  ({description})"
  | none => item.label

/-- Lets the user choose a row. -/
def pick (items : List PickItem) (placeholder : String) : Session (Option Nat) :=
  ExceptT.mk <| (system (.choose (items.map rowText) placeholder)).bind fun choice =>
    .done (choice.mapError fun reason => .of ("Failed to show picker: " ++ reason.headline))

/-- Whether the file of a document exists, which is all that is left of saving it. -/
def saveDocument (uri : Uri) : Work Bool :=
  match uri.filePath? with
  | some path => system (.pathExists path)
  | none => pure false

/-- The path from the workspace to a resource in it. -/
def relativePath (t : Terminal) (uri : Uri) : Option String := do
  let path ← uri.filePath?
  (Disk.relativePath? path t.workspace).map Disk.shown

/-- Answers a call of a flow. -/
def answer (t : Terminal) : (call : Call) → Work call.Reply
  | .refactorEdit r => (Session.refactorEdit r).run
  | .moveDestinations r => (Session.moveDestinations r).run
  | .move r => (Session.move r).run
  | .searchSymbols q => (Session.searchSymbols q).run
  | .openDocument uri => (openDocument uri).run
  | .showDocument _ => pure (.ok ())
  | .applyEdit edit => (do applyEdit edit; return true : Session Bool).run
  | .saveDocument uri => .ok <$> saveDocument uri
  | .showError message => system (.tell ("error: " ++ message))
  | .showWarning message => system (.tell ("warning: " ++ message))
  | .pick items placeholder => (pick items placeholder).run
  | .runCommand name arguments => (executeCommand name arguments).run
  | .formattingOptions => pure (some t.formatting.options)
  | .relativePath uri => pure (t.relativePath uri)
  | .fileExists path => system (.pathExists path)
  | .hosted command _ => pure (.error (.unknownCommand command))

/-- Runs a dialogue from the terminal. -/
def perform {α : Type} (t : Terminal) (dialogue : Dialogue α) : Work α :=
  dialogue.answerWith t.answer

end Terminal
end Refactoring
