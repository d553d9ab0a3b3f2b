import Refactoring.Flow.Move

/-!
# Refactorings by name

A refactoring that a code action offers is carried out by the flow for its kind: one of the moves,
or a request for an edit that is then applied.  A rename starts in the host; whatever goes wrong on
the way to it is passed over.
-/

namespace Refactoring

/-- The scope that a new field is initialised in; nothing if the user does not choose one of
several. -/
def initializationScope (kind : RefactoringKind) (info : CommandInfo) :
    Flow (Option (List Json)) := do
  if !kind.introducesField then return some []
  match info.initializedScopes.getD [] with
  | [] => return some []
  | [scope] => return some [.string scope]
  | scopes =>
    let scope ← Flow.choose scopes PickItem.labelled "Initialize the field in"
    return scope.map fun scope => [.string scope]

/-- Asks the server for the edit of a refactoring and applies it. -/
def computeAndApply (kind : RefactoringKind) (selection : Selection) (info : CommandInfo) :
    Flow Outcome := do
  let some options ← ask .formattingOptions | throw .noActiveEditor
  let some arguments ← initializationScope kind info | return .cancelled
  let result ← Flow.server (ask (.refactorEdit ⟨kind, selection, options, arguments⟩))
  carryOut false result

/-- Where a type can move to. -/
inductive TypeDestination where
  | newFile
  | package
  | insideClass
  deriving Repr, DecidableEq

namespace TypeDestination

/-- The destination of a name that the server attaches; others are passed over. -/
def ofName? (name : String) : Option TypeDestination :=
  match name with
  | "newFile" => some newFile
  | "package" => some package
  | "class" => some insideClass
  | _ => none

/-- The row of a destination. -/
def row : TypeDestination → PickItem
  | newFile => .labelled "Move type to new file"
  | package => .labelled "Move type to another package"
  | insideClass => .labelled "Move type to another class"

end TypeDestination

/-- The destinations that are supported for a type. -/
def CommandInfo.typeDestinations (info : CommandInfo) : List TypeDestination :=
  (info.supportedDestinationKinds.getD []).filterMap TypeDestination.ofName?

/-- Moves the selected type to a new file, another package or another class. -/
def moveType (selection : Selection) (info : CommandInfo) : Flow Outcome := do
  let destinations := info.typeDestinations
  if destinations.isEmpty then return .nothingToDo
  let some destination ← Flow.choose destinations TypeDestination.row "What would you like to do?"
    | return .cancelled
  match destination with
  | .newFile => computeAndApply .moveTypeToNewFile selection info
  | .package => moveTypeToPackage selection info
  | .insideClass => moveTypeToClass selection info

/-- The document of a move of files. -/
def CommandInfo.movedFile (info : CommandInfo) : Except Problem Uri :=
  match info.uri with
  | none => .error (.invalidArguments "moveFile requires a document uri")
  | some text =>
    (Uri.parse text).mapError fun fault => .invalidArguments s!"{text}: {fault.message}"

/-- A value that an argument stands for. -/
def argument {α : Type} (decoder : Json.Decoder α) (value : Json) : Except Problem α :=
  (decoder value).mapError fun fault => .invalidArguments fault.message

/-- Carries out a refactoring that a code action offers. -/
def applyRefactoring (name : String) (params : Json) (info : CommandInfo) : Flow Outcome := do
  let some kind := RefactoringKind.ofName? name | throw (.unsupported name)
  if kind = .moveFile then
    let uri ← liftExcept info.movedFile
    moveFiles [uri]
  else
    let selection ← liftExcept (argument Selection.decode params)
    match kind with
    | .moveInstanceMethod => moveInstanceMethod selection info
    | .moveStaticMember => moveStaticMember selection info
    | .moveType => moveType selection info
    | kind => computeAndApply kind selection info
where
  /-- Goes on with a value or ends with the problem. -/
  liftExcept {α : Type} (value : Except Problem α) : Flow α := ExceptT.mk (pure value)

/-! ### Renames -/

/-- The command by which the host starts a rename at a position. -/
def hostRename : String := "editor.action.rename"

/-- Opens and shows a document and has the host start a rename in it. -/
def startRename (position : RenamePosition) (uri : Uri) : Dialogue Unit := do
  match ← ask (.openDocument uri) with
  | .ok (some document) =>
    match ← ask (.showDocument document) with
    | .ok () =>
      let place := (document.positionAt position.offset).toJson
      let _ ← ask (.runCommand hostRename [.string uri.text, place])
    | .error _ => return ()
  | _ => return ()

/-- Starts a rename; failures on the way are passed over. -/
def triggerRename (position : RenamePosition) : Dialogue Unit :=
  match Uri.parse position.uri with
  | .ok uri => startRename position uri
  | .error _ => pure ()

end Refactoring
