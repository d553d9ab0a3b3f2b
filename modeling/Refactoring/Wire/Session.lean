import Refactoring.Wire.Action

/-!
# Requests of a session

What the client asks and tells the server besides refactorings: renames, commands, and documents
that were opened; and how the server introduces itself.
-/

namespace Refactoring

open Json

/-- The request for the edit of a rename. -/
structure RenameRequest where
  document : Uri
  position : Position
  newName : String
  workToken : Option NumberOrText
  deriving Repr, DecidableEq

/-- The request to run a command on the server. -/
structure CommandRequest where
  name : String
  arguments : List Json
  workToken : Option NumberOrText
  deriving Repr

/-- The news that a document was opened. -/
structure OpenedDocument where
  uri : Uri
  language : String
  version : Int
  text : String
  deriving Repr, DecidableEq

/-- The program behind the server. -/
structure ServerProgram where
  name : String
  version : Option String
  deriving Repr, DecidableEq

/-- How the server introduces itself.  What it says that it can do is not looked at. -/
structure Introduction where
  program : Option ServerProgram
  deriving Repr, DecidableEq

/-! ### Reading -/

/-- Where a rename takes place. -/
def renamePlace : Record (Uri × Position) :=
  Prod.mk <$> .required "textDocument" documentDecoder <*> .required "position" Position.decode

/-- Reads a rename; the new name comes first. -/
def RenameRequest.decode : Decoder RenameRequest :=
  Record.openDecoder "struct RenameParams" fun members => do
    let newName ← (Record.required "newName" Decoder.text).ofMembers members
    let (document, position) ← renamePlace.ofMembers members
    let workToken ← tokenIn "workDoneToken" members
    return ⟨document, position, newName, workToken⟩

/-- Reads a command to run. -/
def CommandRequest.decode : Decoder CommandRequest :=
  Record.openDecoder "struct ExecuteCommandParams" fun members => do
    let command : Record (Option NumberOrText → CommandRequest) :=
      CommandRequest.mk <$> .required "command" Decoder.text <*>
        .withDefault "arguments" [] (Decoder.list Decoder.any)
    let request ← command.ofMembers members
    let workToken ← tokenIn "workDoneToken" members
    return request workToken

/-- Reads the news of an opened document. -/
def OpenedDocument.decode : Decoder OpenedDocument :=
  Record.decoder "struct DidOpenTextDocumentParams" <|
    .required "textDocument" <| Record.decoder "struct TextDocumentItem" <|
      OpenedDocument.mk <$> .required "uri" Uri.decode <*> .required "languageId" Decoder.text <*>
        .required "version" Decoder.int32 <*> .required "text" Decoder.text

/-- Reads the name and version of a program. -/
def ServerProgram.decode : Decoder ServerProgram :=
  Record.decoder "struct ServerInfo" <|
    ServerProgram.mk <$> .required "name" Decoder.text <*> .nullable "version" Decoder.text

/-- Reads an introduction. -/
def Introduction.decode : Decoder Introduction :=
  Record.decoder "struct InitializeResult" <|
    (fun _ program => ⟨program⟩) <$>
      .required "capabilities" (Record.openDecoder "struct ServerCapabilities" fun _ => .ok ()) <*>
      .nullable "serverInfo" ServerProgram.decode

/-! ### Writing -/

/-- The parts of a rename that are set. -/
def RenameRequest.toJson (r : RenameRequest) : Json :=
  .objectOf [("textDocument", some (documentJson r.document)),
    ("position", some r.position.toJson), ("newName", some (.string r.newName)),
    ("workDoneToken", r.workToken.map NumberOrText.toJson)]

/-- The parts of a command to run that are set. -/
def CommandRequest.toJson (r : CommandRequest) : Json :=
  .objectOf [("command", some (.string r.name)), ("arguments", some (.array r.arguments)),
    ("workDoneToken", r.workToken.map NumberOrText.toJson)]

/-- The news of an opened document. -/
def OpenedDocument.toJson (d : OpenedDocument) : Json :=
  .object [("textDocument", .object [("uri", d.uri.toJson), ("languageId", .string d.language),
    ("version", .ofInt d.version), ("text", .string d.text)])]

/-- The name of a program, and its version if it has one. -/
def ServerProgram.toJson (p : ServerProgram) : Json :=
  .objectOf [("name", some (.string p.name)), ("version", p.version.map .string)]

/-- The parts of an introduction that are set. -/
def Introduction.toJson (i : Introduction) : Json :=
  .objectOf [("capabilities", some (.object [])),
    ("serverInfo", i.program.map ServerProgram.toJson)]

end Refactoring
