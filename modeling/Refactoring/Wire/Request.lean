import Refactoring.Wire.Edit
import Refactoring.Wire.Move

/-!
# Refactoring requests

The request for the edit of a refactoring with its result, the position of a rename, and what the
server attaches to a code action for the client to use.
-/

namespace Refactoring

open Json

/-- The request for the edit of a refactoring. -/
structure EditRequest where
  kind : RefactoringKind
  selection : Selection
  options : FormattingOptions
  arguments : List Json
  deriving Repr

/-- What the server answers to a refactoring or a move.  An error message takes precedence over
everything else. -/
structure RefactoringResult where
  edit : Option WorkspaceEdit
  command : Option Command
  errorMessage : Option String
  deriving Repr

/-- Where to start a rename: an offset into a document. -/
structure RenamePosition where
  uri : String
  offset : Nat
  deriving Repr, DecidableEq

/-- What the server attaches to a code action. -/
structure CommandInfo where
  uri : Option String
  initializedScopes : Option (List String)
  name : Option String
  enclosingTypeName : Option String
  memberType : Option Nat
  projectName : Option String
  supportedDestinationKinds : Option (List String)
  deriving Repr, DecidableEq

namespace CommandInfo

/-- Nothing is attached. -/
def empty : CommandInfo := ⟨none, none, none, none, none, none, none⟩

/-- The name of the member, empty if there is none. -/
def displayName (info : CommandInfo) : String := info.name.getD ""

/-- The node codes of classes, enumerations and annotations. -/
def typeDeclarations : List Nat := [55, 71, 81]

/-- Whether the member is itself a type. -/
def isType (info : CommandInfo) : Bool := info.memberType.any typeDeclarations.contains

end CommandInfo

/-! ### Reading -/

/-- Reads a request for an edit. -/
def EditRequest.decode : Decoder EditRequest :=
  Record.decoder "struct GetRefactorEditParams" <|
    EditRequest.mk <$> .required "command" RefactoringKind.decode <*>
      .required "context" Selection.decode <*> .required "options" FormattingOptions.decode <*>
      .withDefault "commandArguments" [] (Decoder.list Decoder.any)

/-- Reads a result. -/
def RefactoringResult.decode : Decoder RefactoringResult :=
  Record.decoder "struct RefactorWorkspaceEdit" <|
    RefactoringResult.mk <$> .optional "edit" WorkspaceEdit.decode <*>
      .optional "command" Command.decode <*> .optional "errorMessage" Decoder.text

/-- Reads the position of a rename. -/
def RenamePosition.decode : Decoder RenamePosition :=
  Record.decoder "struct RenamePosition" <|
    RenamePosition.mk <$> .required "uri" Decoder.text <*> .required "offset" Decoder.word32

/-- Reads what is attached to a code action. -/
def CommandInfo.decode : Decoder CommandInfo :=
  Record.decoder "struct CommandInfo" <|
    CommandInfo.mk <$> .optional "uri" Decoder.text <*>
      .optional "initializedScopes" (Decoder.list Decoder.text) <*>
      .optional "displayName" Decoder.text <*> .optional "enclosingTypeName" Decoder.text <*>
      .optional "memberType" Decoder.word32 <*> .optional "projectName" Decoder.text <*>
      .optional "supportedDestinationKinds" (Decoder.list Decoder.text)

/-! ### Writing -/

/-- A request for an edit; arguments are only written if there are any. -/
def EditRequest.toJson (r : EditRequest) : Json :=
  .objectOf [("command", some r.kind.toJson), ("context", some r.selection.toJson),
    ("options", some r.options.toJson),
    ("commandArguments", if r.arguments.isEmpty then none else some (.array r.arguments))]

/-- The parts of a result that are set. -/
def RefactoringResult.toJson (r : RefactoringResult) : Json :=
  .objectOf [("edit", r.edit.map WorkspaceEdit.toJson), ("command", r.command.map Command.toJson),
    ("errorMessage", r.errorMessage.map .string)]

/-- The position of a rename. -/
def RenamePosition.toJson (p : RenamePosition) : Json :=
  .object [("uri", .string p.uri), ("offset", .ofNat p.offset)]

/-- A value or `null`. -/
def Json.orNull {α : Type} (write : α → Json) (value : Option α) : Json :=
  (value.map write).getD .null

/-- What is attached to a code action; what is absent is `null`. -/
def CommandInfo.toJson (i : CommandInfo) : Json :=
  .object [("uri", orNull .string i.uri),
    ("initializedScopes", orNull .strings i.initializedScopes),
    ("displayName", orNull .string i.name),
    ("enclosingTypeName", orNull .string i.enclosingTypeName),
    ("memberType", orNull .ofNat i.memberType), ("projectName", orNull .string i.projectName),
    ("supportedDestinationKinds", orNull .strings i.supportedDestinationKinds)]

end Refactoring
