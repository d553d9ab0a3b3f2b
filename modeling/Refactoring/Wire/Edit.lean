import Refactoring.Wire.Uri

/-!
# Workspace edits

Changes to the text of documents and to the files that hold them.  Text edits come either by
document or as a list, and in a list they may alternate with creations, renames and deletions.
-/

namespace Refactoring

open Json

/-- New text for a range. -/
structure TextEdit where
  range : Range
  newText : String
  deriving Repr, DecidableEq

/-- Text edits to one version of a document. -/
structure DocumentEdit where
  uri : Uri
  version : Option Int
  edits : List TextEdit
  deriving Repr, DecidableEq

/-- What to do when the target of a creation or rename exists. -/
structure TargetOptions where
  overwrite : Option Bool
  ignoreIfExists : Option Bool
  deriving Repr, DecidableEq

/-- How much to delete, and what to do when there is nothing. -/
structure DeleteOptions where
  recursive : Option Bool
  ignoreIfNotExists : Option Bool
  note : Option String
  deriving Repr, DecidableEq

/-- A change to files instead of their text. -/
inductive FileOperation where
  | create (uri : Uri) (options : Option TargetOptions) (note : Option String)
  | rename (old new : Uri) (options : Option TargetOptions) (note : Option String)
  | delete (uri : Uri) (options : Option DeleteOptions)
  deriving Repr, DecidableEq

/-- One step of a list of changes. -/
inductive DocumentChange where
  | edit (edit : DocumentEdit)
  | operation (operation : FileOperation)
  deriving Repr, DecidableEq

/-- A list of changes: text edits alone, or text edits among file operations. -/
inductive DocumentChanges where
  | edits (edits : List DocumentEdit)
  | operations (changes : List DocumentChange)
  deriving Repr, DecidableEq

/-- What a change is shown as to the user. -/
structure ChangeAnnotation where
  label : String
  needsConfirmation : Option Bool
  description : Option String
  deriving Repr, DecidableEq

/-- An edit of a workspace.  The order of `changes` carries no meaning. -/
structure WorkspaceEdit where
  changes : Option (List (Uri × List TextEdit))
  documentChanges : Option DocumentChanges
  annotations : Option (List (String × ChangeAnnotation))
  deriving Repr, DecidableEq

/-- The steps of a list of changes. -/
def DocumentChanges.steps : DocumentChanges → List DocumentChange
  | .edits all => all.map .edit
  | .operations all => all

/-- The entries by document. -/
def WorkspaceEdit.entries (edit : WorkspaceEdit) : List (Uri × List TextEdit) :=
  edit.changes.getD []

/-- The steps in order. -/
def WorkspaceEdit.steps (edit : WorkspaceEdit) : List DocumentChange :=
  (edit.documentChanges.map DocumentChanges.steps).getD []

/-! ### Reading -/

/-- Reads a text edit; a note on it is dropped. -/
def TextEdit.decode : Decoder TextEdit :=
  Record.decoder "struct TextEdit" <|
    TextEdit.mk <$> .required "range" Range.decode <*> .required "newText" Decoder.text

/-- A document with its version. -/
def versionedDocument : Decoder (Uri × Option Int) :=
  Record.decoder "struct OptionalVersionedTextDocumentIdentifier" <|
    Prod.mk <$> .required "uri" Uri.decode <*> .nullable "version" Decoder.int32

/-- Reads the edits of a document. -/
def DocumentEdit.decode : Decoder DocumentEdit :=
  Record.decoder "struct TextDocumentEdit" <|
    (fun document edits => ⟨document.1, document.2, edits⟩) <$>
      .required "textDocument" versionedDocument <*>
      .required "edits" (Decoder.list (Decoder.firstOf "OneOf" [TextEdit.decode]))

/-- Reads the options of a creation. -/
def TargetOptions.decode (type : String) : Decoder TargetOptions :=
  Record.decoder type <|
    TargetOptions.mk <$> .nullable "overwrite" Decoder.flag <*>
      .nullable "ignoreIfExists" Decoder.flag

/-- Reads the options of a deletion. -/
def DeleteOptions.decode : Decoder DeleteOptions :=
  Record.decoder "struct DeleteFileOptions" <|
    DeleteOptions.mk <$> .nullable "recursive" Decoder.flag <*>
      .nullable "ignoreIfNotExists" Decoder.flag <*> .nullable "annotationId" Decoder.text

/-- The fields of a file operation apart from its kind. -/
def createFields : Record FileOperation :=
  FileOperation.create <$> .required "uri" Uri.decode <*>
    .nullable "options" (TargetOptions.decode "struct CreateFileOptions") <*>
    .nullable "annotationId" Decoder.text

@[inherit_doc createFields]
def renameFields : Record FileOperation :=
  FileOperation.rename <$> .required "oldUri" Uri.decode <*> .required "newUri" Uri.decode <*>
    .nullable "options" (TargetOptions.decode "struct RenameFileOptions") <*>
    .nullable "annotationId" Decoder.text

@[inherit_doc createFields]
def deleteFields : Record FileOperation :=
  FileOperation.delete <$> .required "uri" Uri.decode <*> .nullable "options" DeleteOptions.decode

/-- The kinds of file operations with their fields. -/
def operationKinds : List (String × Record FileOperation) :=
  [("create", createFields), ("rename", renameFields), ("delete", deleteFields)]

/-- The fields that belong to a kind, which is given by name or by number. -/
def FileOperation.fieldsOf (kind : Json) : Decoded (Record FileOperation) :=
  let found : Option (String × Record FileOperation) := match kind with
    | .string name => operationKinds.find? fun k => k.1 == name
    | other => other.natural?.bind (operationKinds[·]?)
  match found with
  | some (_, fields) => .ok fields
  | none => .error (.unknownName kind.mention (operationKinds.map fun k => k.1))

/-- Reads a file operation: the kind is one of the members, or the first item of a list. -/
def FileOperation.decode : Decoder FileOperation
  | .object members => do
    match member? members "kind" with
    | none => throw (.missingField "kind")
    | some kind => (← fieldsOf kind).ofMembers (members.filter (·.1 ≠ "kind"))
  | .array (kind :: items) => do Record.ofItems "struct" (← fieldsOf kind) items
  | other => Decoder.wrongType other "internally tagged enum ResourceOp"

/-- Reads a step of a list of changes. -/
def DocumentChange.decode : Decoder DocumentChange :=
  Decoder.firstOf "DocumentChangeOperation"
    [Decoder.map .operation FileOperation.decode, Decoder.map .edit DocumentEdit.decode]

/-- Reads a list of changes, as text edits alone if it can be. -/
def DocumentChanges.decode : Decoder DocumentChanges :=
  Decoder.firstOf "DocumentChanges"
    [Decoder.map .edits (Decoder.list DocumentEdit.decode),
      Decoder.map .operations (Decoder.list DocumentChange.decode)]

/-- Reads a change note. -/
def ChangeAnnotation.decode : Decoder ChangeAnnotation :=
  Record.decoder "struct ChangeAnnotation" <|
    ChangeAnnotation.mk <$> .required "label" Decoder.text <*>
      .nullable "needsConfirmation" Decoder.flag <*> .nullable "description" Decoder.text

/-- Sets the edits of a document; later ones replace earlier ones. -/
def setEntry (entries : List (Uri × List TextEdit)) (uri : Uri) (edits : List TextEdit) :
    List (Uri × List TextEdit) :=
  if entries.any (·.1 == uri) then entries.map fun e => if e.1 == uri then (uri, edits) else e
  else entries ++ [(uri, edits)]

/-- Reads edits by document. -/
def changesDecoder : Decoder (Option (List (Uri × List TextEdit)))
  | .null => .ok none
  | .object members => do
    let entries ← members.foldlM (fun entries m => do
      let uri ← Uri.ofText m.1
      let edits ← Decoder.list TextEdit.decode m.2
      return setEntry entries uri edits) []
    return some entries
  | other => Decoder.wrongType other "map"

/-- Reads the annotations by their names. -/
def annotationsDecoder : Decoder (List (String × ChangeAnnotation))
  | .object members => members.mapM fun m => do return (m.1, ← ChangeAnnotation.decode m.2)
  | other => Decoder.wrongType other "a map"

/-- Reads a workspace edit. -/
def WorkspaceEdit.decode : Decoder WorkspaceEdit :=
  Record.decoder "struct WorkspaceEdit" <|
    WorkspaceEdit.mk <$> .withDefault "changes" none changesDecoder <*>
      .nullable "documentChanges" DocumentChanges.decode <*>
      .nullable "changeAnnotations" annotationsDecoder

/-! ### Writing -/

/-- A text edit with its range and text. -/
def TextEdit.toJson (e : TextEdit) : Json :=
  .object [("range", e.range.toJson), ("newText", .string e.newText)]

/-- The edits of a document; the version is always written. -/
def DocumentEdit.toJson (e : DocumentEdit) : Json :=
  .object [
    ("textDocument", .object [("uri", e.uri.toJson),
      ("version", (e.version.map fun v => Json.number (.int v)).getD .null)]),
    ("edits", .list TextEdit.toJson e.edits)]

/-- The options that are set. -/
def TargetOptions.toJson (o : TargetOptions) : Json :=
  .objectOf [("overwrite", o.overwrite.map .bool), ("ignoreIfExists", o.ignoreIfExists.map .bool)]

@[inherit_doc TargetOptions.toJson]
def DeleteOptions.toJson (o : DeleteOptions) : Json :=
  .objectOf [("recursive", o.recursive.map .bool),
    ("ignoreIfNotExists", o.ignoreIfNotExists.map .bool),
    ("annotationId", o.note.map .string)]

/-- A file operation with its kind in front. -/
def FileOperation.toJson : FileOperation → Json
  | .create uri options note =>
    .objectOf [("kind", some (.string "create")), ("uri", some uri.toJson),
      ("options", options.map TargetOptions.toJson), ("annotationId", note.map .string)]
  | .rename old new options note =>
    .objectOf [("kind", some (.string "rename")), ("oldUri", some old.toJson),
      ("newUri", some new.toJson), ("options", options.map TargetOptions.toJson),
      ("annotationId", note.map .string)]
  | .delete uri options =>
    .objectOf [("kind", some (.string "delete")), ("uri", some uri.toJson),
      ("options", options.map DeleteOptions.toJson)]

/-- A step as what it is. -/
def DocumentChange.toJson : DocumentChange → Json
  | .edit e => e.toJson
  | .operation o => o.toJson

/-- A list of changes. -/
def DocumentChanges.toJson : DocumentChanges → Json
  | .edits all => .list DocumentEdit.toJson all
  | .operations all => .list DocumentChange.toJson all

/-- The parts of a note that are set. -/
def ChangeAnnotation.toJson (a : ChangeAnnotation) : Json :=
  .objectOf [("label", some (.string a.label)),
    ("needsConfirmation", a.needsConfirmation.map .bool),
    ("description", a.description.map .string)]

/-- The parts of a workspace edit that are set. -/
def WorkspaceEdit.toJson (e : WorkspaceEdit) : Json :=
  .objectOf [
    ("changes", e.changes.map fun entries =>
      .object (entries.map fun (uri, edits) => (uri.text, .list TextEdit.toJson edits))),
    ("documentChanges", e.documentChanges.map DocumentChanges.toJson),
    ("changeAnnotations", e.annotations.map fun annotations =>
      .object (annotations.map fun (name, a) => (name, a.toJson)))]

end Refactoring
