import Refactoring.Json.Decoder
import Refactoring.Uri.Place
import Refactoring.Text.Position

/-!
# URIs, positions and ranges on the wire
-/

namespace Refactoring

open Json

/-- A URI, or what is wrong with its text. -/
def Uri.ofText (text : String) : Decoded Uri :=
  match Uri.parse text with
  | .ok uri => .ok uri
  | .error fault => .error (.wording (fault.message ++ ": " ++ Text.quoted text))

/-- Reads a URI. -/
def Uri.decode : Decoder Uri
  | .string text => Uri.ofText text
  | other => Decoder.wrongType other "a string representing an URL"

/-- A URI as its text. -/
def Uri.toJson (uri : Uri) : Json := .string uri.text

/-- Reads a position. -/
def Position.decode : Decoder Position :=
  Record.decoder "struct Position" <|
    Position.mk <$> .required "line" Decoder.word32 <*> .required "character" Decoder.word32

/-- A position with both of its numbers. -/
def Position.toJson (p : Position) : Json :=
  .object [("line", .ofNat p.line), ("character", .ofNat p.character)]

/-- Reads a range. -/
def Range.decode : Decoder Range :=
  Record.decoder "struct Range" <|
    Range.mk <$> .required "start" Position.decode <*> .required "end" Position.decode

/-- A range with both of its ends. -/
def Range.toJson (r : Range) : Json :=
  .object [("start", r.start.toJson), ("end", r.stop.toJson)]

/-- A range in a document. -/
structure Location where
  uri : Uri
  range : Range
  deriving Repr, DecidableEq

/-- Reads a location. -/
def Location.decode : Decoder Location :=
  Record.decoder "struct Location" <|
    Location.mk <$> .required "uri" Uri.decode <*> .required "range" Range.decode

/-- A location with both of its parts. -/
def Location.toJson (l : Location) : Json :=
  .object [("uri", l.uri.toJson), ("range", l.range.toJson)]

/-- A document by its URI. -/
def documentDecoder : Decoder Uri :=
  Record.decoder "struct TextDocumentIdentifier" (.required "uri" Uri.decode)

/-- A document by its URI. -/
def documentJson (uri : Uri) : Json := .object [("uri", uri.toJson)]

/-- A list of values, each written. -/
def Json.list {α : Type} (write : α → Json) (values : List α) : Json := .array (values.map write)

end Refactoring
