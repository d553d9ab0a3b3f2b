import Refactoring.Wire.Uri

/-!
# What requests are about

The selection that a code action was offered for, with the diagnostics there; commands; formatting
options; and symbols of the workspace.
-/

namespace Refactoring

open Json

/-- A value given as a number or as a text. -/
inductive NumberOrText where
  | number (value : Int)
  | text (value : String)
  deriving Repr, DecidableEq

/-- Reads a number or a text. -/
def NumberOrText.decode : Decoder NumberOrText :=
  Decoder.firstOf "NumberOrString"
    [Decoder.map .number Decoder.int32, Decoder.map .text Decoder.text]

/-- The value itself. -/
def NumberOrText.toJson : NumberOrText → Json
  | .number value => .number (.int value)
  | .text value => .string value

/-- An integer. -/
def Json.ofInt (value : Int) : Json := .number (.int value)

/-! ### Diagnostics -/

/-- A place that explains a diagnostic. -/
structure RelatedInformation where
  location : Location
  message : String
  deriving Repr, DecidableEq

/-- A remark on a range of a document. -/
structure Diagnostic where
  range : Range
  severity : Option Int
  code : Option NumberOrText
  description : Option Uri
  source : Option String
  message : String
  related : Option (List RelatedInformation)
  tags : Option (List Int)
  data : Option Json
  deriving Repr

/-- Reads an explaining place. -/
def RelatedInformation.decode : Decoder RelatedInformation :=
  Record.decoder "struct DiagnosticRelatedInformation" <|
    RelatedInformation.mk <$> .required "location" Location.decode <*>
      .required "message" Decoder.text

/-- Reads a diagnostic. -/
def Diagnostic.decode : Decoder Diagnostic :=
  Record.decoder "struct Diagnostic" <|
    Diagnostic.mk <$> .required "range" Range.decode <*> .nullable "severity" Decoder.int32 <*>
      .nullable "code" NumberOrText.decode <*>
      .nullable "codeDescription"
        (Record.decoder "struct CodeDescription" (.required "href" Uri.decode)) <*>
      .nullable "source" Decoder.text <*> .required "message" Decoder.text <*>
      .nullable "relatedInformation" (Decoder.list RelatedInformation.decode) <*>
      .nullable "tags" (Decoder.list Decoder.int32) <*> .nullable "data" Decoder.any

/-- An explaining place. -/
def RelatedInformation.toJson (r : RelatedInformation) : Json :=
  .object [("location", r.location.toJson), ("message", .string r.message)]

/-- The parts of a diagnostic that are set. -/
def Diagnostic.toJson (d : Diagnostic) : Json :=
  .objectOf [("range", some d.range.toJson), ("severity", d.severity.map .ofInt),
    ("code", d.code.map NumberOrText.toJson),
    ("codeDescription", d.description.map fun href => .object [("href", href.toJson)]),
    ("source", d.source.map .string), ("message", some (.string d.message)),
    ("relatedInformation", d.related.map (.list RelatedInformation.toJson)),
    ("tags", d.tags.map (.list .ofInt)), ("data", d.data)]

/-! ### Selections -/

/-- What is known about a selection. -/
structure SelectionContext where
  diagnostics : List Diagnostic
  only : Option (List String)
  trigger : Option Int
  deriving Repr

/-- The selection that a code action was offered for. -/
structure Selection where
  document : Uri
  range : Range
  context : SelectionContext
  workToken : Option NumberOrText
  partialToken : Option NumberOrText
  deriving Repr

/-- Reads what is known about a selection. -/
def SelectionContext.decode : Decoder SelectionContext :=
  Record.decoder "struct CodeActionContext" <|
    SelectionContext.mk <$> .required "diagnostics" (Decoder.list Diagnostic.decode) <*>
      .nullable "only" (Decoder.list Decoder.text) <*> .nullable "triggerKind" Decoder.int32

/-- The token by which progress is reported, read after everything else. -/
def tokenIn (name : String) (members : List (String × Json)) : Decoded (Option NumberOrText) :=
  (Record.optional name NumberOrText.decode).ofMembers members

/-- The fields of a selection without the tokens. -/
def Selection.fields : Record (Option NumberOrText → Option NumberOrText → Selection) :=
  Selection.mk <$> .required "textDocument" documentDecoder <*>
    .required "range" Range.decode <*> .required "context" SelectionContext.decode

/-- Reads a selection. -/
def Selection.decode : Decoder Selection :=
  Record.openDecoder "struct CodeActionParams" fun members => do
    let selection ← Selection.fields.ofMembers members
    let workToken ← tokenIn "workDoneToken" members
    let partialToken ← tokenIn "partialResultToken" members
    return selection workToken partialToken

/-- What is known about a selection. -/
def SelectionContext.toJson (c : SelectionContext) : Json :=
  .objectOf [("diagnostics", some (.list Diagnostic.toJson c.diagnostics)),
    ("only", c.only.map .strings), ("triggerKind", c.trigger.map .ofInt)]

/-- The parts of a selection that are set. -/
def Selection.toJson (s : Selection) : Json :=
  .objectOf [("textDocument", some (documentJson s.document)), ("range", some s.range.toJson),
    ("context", some s.context.toJson), ("workDoneToken", s.workToken.map NumberOrText.toJson),
    ("partialResultToken", s.partialToken.map NumberOrText.toJson)]

/-! ### Commands -/

/-- A command with the title that it is shown under. -/
structure Command where
  title : String
  name : String
  arguments : Option (List Json)
  deriving Repr

/-- Reads a command. -/
def Command.decode : Decoder Command :=
  Record.decoder "struct Command" <|
    Command.mk <$> .required "title" Decoder.text <*> .required "command" Decoder.text <*>
      .nullable "arguments" (Decoder.list Decoder.any)

/-- The parts of a command that are set. -/
def Command.toJson (c : Command) : Json :=
  .objectOf [("title", some (.string c.title)), ("command", some (.string c.name)),
    ("arguments", c.arguments.map .array)]

/-! ### Formatting -/

/-- A formatting option of the host's own. -/
inductive FormattingValue where
  | flag (value : Bool)
  | number (value : Int)
  | text (value : String)
  deriving Repr, DecidableEq

/-- How new text is to be formatted. -/
structure FormattingOptions where
  tabSize : Nat
  insertSpaces : Bool
  properties : List (String × FormattingValue)
  trimTrailingWhitespace : Option Bool
  insertFinalNewline : Option Bool
  trimFinalNewlines : Option Bool
  deriving Repr, DecidableEq

/-- Reads an option of the host's own. -/
def FormattingValue.decode : Decoder FormattingValue :=
  Decoder.firstOf "FormattingProperty"
    [Decoder.map .flag Decoder.flag, Decoder.map .number Decoder.int32,
      Decoder.map .text Decoder.text]

/-- The value itself. -/
def FormattingValue.toJson : FormattingValue → Json
  | .flag value => .bool value
  | .number value => .ofInt value
  | .text value => .string value

/-- The options with a meaning of their own. -/
def FormattingOptions.fields : Record (List (String × FormattingValue) → FormattingOptions) :=
  (fun tabSize insertSpaces trim insert trimFinal properties =>
    ⟨tabSize, insertSpaces, properties, trim, insert, trimFinal⟩) <$>
    .required "tabSize" Decoder.word32 <*> .required "insertSpaces" Decoder.flag <*>
    .nullable "trimTrailingWhitespace" Decoder.flag <*>
    .nullable "insertFinalNewline" Decoder.flag <*> .nullable "trimFinalNewlines" Decoder.flag

/-- Reads formatting options; members without a meaning of their own are kept as properties. -/
def FormattingOptions.decode : Decoder FormattingOptions :=
  Record.openDecoder "struct FormattingOptions" fun members => do
    let options ← FormattingOptions.fields.ofMembers members
    let others := members.filter fun m => !FormattingOptions.fields.names.contains m.1
    let properties ← others.mapM fun m => do return (m.1, ← FormattingValue.decode m.2)
    return options properties

/-- The options that are set. -/
def FormattingOptions.toJson (o : FormattingOptions) : Json :=
  .objectOf <|
    [("tabSize", some (.ofNat o.tabSize)), ("insertSpaces", some (.bool o.insertSpaces))] ++
    (o.properties.map fun (name, value) => (name, some value.toJson)) ++
    [("trimTrailingWhitespace", o.trimTrailingWhitespace.map .bool),
      ("insertFinalNewline", o.insertFinalNewline.map .bool),
      ("trimFinalNewlines", o.trimFinalNewlines.map .bool)]

/-! ### Symbols -/

/-- A declaration somewhere in the workspace. -/
structure Symbol where
  name : String
  kind : Int
  tags : Option (List Int)
  deprecated : Option Bool
  location : Location
  container : Option String
  deriving Repr, DecidableEq

/-- Reads a symbol. -/
def Symbol.decode : Decoder Symbol :=
  Record.decoder "struct SymbolInformation" <|
    Symbol.mk <$> .required "name" Decoder.text <*> .required "kind" Decoder.int32 <*>
      .nullable "tags" (Decoder.list Decoder.int32) <*> .nullable "deprecated" Decoder.flag <*>
      .required "location" Location.decode <*> .nullable "containerName" Decoder.text

/-- The parts of a symbol that are set. -/
def Symbol.toJson (s : Symbol) : Json :=
  .objectOf [("name", some (.string s.name)), ("kind", some (.ofInt s.kind)),
    ("tags", s.tags.map (.list .ofInt)), ("deprecated", s.deprecated.map .bool),
    ("location", some s.location.toJson), ("containerName", s.container.map .string)]

end Refactoring
