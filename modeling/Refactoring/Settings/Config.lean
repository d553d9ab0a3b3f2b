import Refactoring.Json.Schema
import Refactoring.Wire.Action

/-!
# Configuration

How to start the language server and how new code is to be formatted, as it is written in the
configuration file.
-/

namespace Refactoring

open Json

/-- How to start the language server. -/
structure ServerConfig where
  name : String
  command : String
  arguments : List String
  initializationOptions : Option Json
  deriving Repr

/-- How new code is to be formatted. -/
structure FormattingConfig where
  tabSize : Nat
  insertSpaces : Bool
  deriving Repr, DecidableEq

/-- The configuration of the client. -/
structure ClientConfig where
  server : ServerConfig
  formatting : FormattingConfig
  deriving Repr

namespace FormattingConfig

/-- Four blanks. -/
def standard : FormattingConfig := ⟨4, true⟩

/-- The options that a refactoring is requested with. -/
def options (c : FormattingConfig) : FormattingOptions :=
  ⟨c.tabSize, c.insertSpaces, [], none, none, none⟩

/-- Reads a formatting configuration. -/
def decode : Decoder FormattingConfig :=
  Record.decoder "struct FormattingConfig" <|
    FormattingConfig.mk <$> .required "tab_size" Decoder.word32 <*>
      .required "insert_spaces" Decoder.flag

/-- A formatting configuration. -/
def toJson (c : FormattingConfig) : Json :=
  .object [("tab_size", .ofNat c.tabSize), ("insert_spaces", .bool c.insertSpaces)]

/-- The shape of a formatting configuration. -/
def schema : Schema :=
  .record "struct FormattingConfig"
    [("tab_size", false, .word32), ("insert_spaces", false, .flag)]

end FormattingConfig

namespace ServerConfig

/-- Reads a server configuration. -/
def decode : Decoder ServerConfig :=
  Record.decoder "struct ServerConfig" <|
    ServerConfig.mk <$> .required "name" Decoder.text <*> .required "command" Decoder.text <*>
      .withDefault "args" [] (Decoder.list Decoder.text) <*>
      .optional "initialization_options" Decoder.any

/-- A server configuration. -/
def toJson (c : ServerConfig) : Json :=
  .object [("name", .string c.name), ("command", .string c.command),
    ("args", .strings c.arguments), ("initialization_options", c.initializationOptions.getD .null)]

/-- The shape of a server configuration. -/
def schema : Schema :=
  .record "struct ServerConfig"
    [("name", false, .string), ("command", false, .string), ("args", true, .strings),
      ("initialization_options", true, .any)]

end ServerConfig

namespace ClientConfig

/-- What the server is told about the client: which refactorings it can complete. -/
def standardOptions : Json :=
  .object [("extendedClientCapabilities", .object [
    ("moveRefactoringSupport", .bool true),
    ("advancedExtractRefactoringSupport", .bool true),
    ("advancedIntroduceParameterRefactoringSupport", .bool true),
    ("classFileContentsSupport", .bool true)])]

/-- The configuration for when none is given. -/
def standard : ClientConfig :=
  ⟨⟨"jdtls", "jdtls", [], some standardOptions⟩, .standard⟩

/-- Reads a configuration. -/
def decode : Decoder ClientConfig :=
  Record.decoder "struct ClientConfig" <|
    ClientConfig.mk <$> .required "server" ServerConfig.decode <*>
      .withDefault "formatting" .standard FormattingConfig.decode

/-- A configuration. -/
def toJson (c : ClientConfig) : Json :=
  .object [("server", c.server.toJson), ("formatting", c.formatting.toJson)]

/-- The shape of a configuration. -/
def schema : Schema :=
  .record "struct ClientConfig"
    [("server", false, ServerConfig.schema), ("formatting", true, FormattingConfig.schema)]

/-- The configuration that a file holds. -/
def ofText (text : String) : Except String ClientConfig := do
  let value ← schema.read text
  (decode value).mapError (·.message)

end ClientConfig
end Refactoring
