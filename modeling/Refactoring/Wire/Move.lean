import Refactoring.Wire.Action
import Refactoring.Wire.Kind

/-!
# Moves on the wire

A move first asks for its destinations and is then sent with the chosen one.  A destination has one
of three shapes, told apart by the fields that it requires.
-/

namespace Refactoring

open Json

/-- A package that files or types can move to. -/
structure PackageNode where
  displayName : String
  uri : Option String
  path : Option String
  project : Option String
  isDefaultPackage : Bool
  isParentOfSelectedFile : Bool
  deriving Repr, DecidableEq

/-- A field or parameter whose type can receive a method. -/
structure ClassTarget where
  bindingKey : String
  name : String
  typeName : String
  isField : Bool
  isSelected : Bool
  deriving Repr, DecidableEq

/-- Where something can move to. -/
inductive Destination where
  | package (node : PackageNode)
  | classTarget (target : ClassTarget)
  | symbol (symbol : Symbol)
  deriving Repr, DecidableEq

/-- The name that a destination is shown under. -/
def Destination.displayName : Destination → String
  | .package node => node.displayName
  | .classTarget target => target.name
  | .symbol s => s.name

/-- A query for destinations or, with a destination, a move. -/
structure MoveRequest where
  kind : MoveKind
  sources : List String
  selection : Option Selection
  destination : Option Destination
  updateReferences : Option Bool
  deriving Repr

namespace MoveRequest

/-- The query for the destinations of some sources. -/
def query (kind : MoveKind) (sources : List String) (selection : Option Selection) : MoveRequest :=
  ⟨kind, sources, selection, none, none⟩

/-- The move that a query was for. -/
def withDestination (request : MoveRequest) (destination : Destination) : MoveRequest :=
  { request with destination := some destination }

/-- The same move with all references brought up to date. -/
def updatingReferences (request : MoveRequest) : MoveRequest :=
  { request with updateReferences := some true }

end MoveRequest

/-- The destinations that the server offers, or why it offers none. -/
structure DestinationList where
  errorMessage : Option String
  destinations : List Destination
  deriving Repr

/-- No answer counts as an empty list. -/
def DestinationList.empty : DestinationList := ⟨none, []⟩

/-- A search for symbols of the workspace. -/
structure SymbolQuery where
  query : String
  project : Option String
  maxResults : Option Nat
  sourceOnly : Option Bool
  deriving Repr, DecidableEq

/-! ### Reading -/

/-- Reads a package. -/
def PackageNode.decode : Decoder PackageNode :=
  Record.decoder "struct PackageNode" <|
    PackageNode.mk <$> .required "displayName" Decoder.text <*> .optional "uri" Decoder.text <*>
      .optional "path" Decoder.text <*> .optional "project" Decoder.text <*>
      .withDefault "isDefaultPackage" false Decoder.flag <*>
      .withDefault "isParentOfSelectedFile" false Decoder.flag

/-- Reads a class target. -/
def ClassTarget.decode : Decoder ClassTarget :=
  Record.decoder "struct ClassDestination" <|
    ClassTarget.mk <$> .required "bindingKey" Decoder.text <*> .required "name" Decoder.text <*>
      .required "type" Decoder.text <*> .withDefault "isField" false Decoder.flag <*>
      .withDefault "isSelected" false Decoder.flag

/-- Reads a destination of any shape. -/
def Destination.decode : Decoder Destination :=
  Decoder.firstOf "MoveDestination"
    [Decoder.map .package PackageNode.decode, Decoder.map .classTarget ClassTarget.decode,
      Decoder.map .symbol Symbol.decode]

/-- Reads a query or a move. -/
def MoveRequest.decode : Decoder MoveRequest :=
  Record.decoder "struct MoveParams" <|
    MoveRequest.mk <$> .required "moveKind" MoveKind.decode <*>
      .required "sourceUris" (Decoder.list Decoder.text) <*>
      .nullable "params" Selection.decode <*> .optional "destination" Destination.decode <*>
      .optional "updateReferences" Decoder.flag

/-- Reads an offer of destinations. -/
def DestinationList.decode : Decoder DestinationList :=
  Record.decoder "struct MoveDestinationsResponse" <|
    DestinationList.mk <$> .optional "errorMessage" Decoder.text <*>
      .withDefault "destinations" [] (Decoder.list Destination.decode)

/-- Reads a search. -/
def SymbolQuery.decode : Decoder SymbolQuery :=
  Record.decoder "struct SearchSymbolParams" <|
    SymbolQuery.mk <$> .required "query" Decoder.text <*> .optional "projectName" Decoder.text <*>
      .optional "maxResults" Decoder.word32 <*> .optional "sourceOnly" Decoder.flag

/-! ### Writing -/

/-- The parts of a package that are set, and both marks. -/
def PackageNode.toJson (p : PackageNode) : Json :=
  .objectOf [("displayName", some (.string p.displayName)), ("uri", p.uri.map .string),
    ("path", p.path.map .string), ("project", p.project.map .string),
    ("isDefaultPackage", some (.bool p.isDefaultPackage)),
    ("isParentOfSelectedFile", some (.bool p.isParentOfSelectedFile))]

/-- A class target with all its parts. -/
def ClassTarget.toJson (c : ClassTarget) : Json :=
  .object [("bindingKey", .string c.bindingKey), ("name", .string c.name),
    ("type", .string c.typeName), ("isField", .bool c.isField), ("isSelected", .bool c.isSelected)]

/-- A destination in its own shape. -/
def Destination.toJson : Destination → Json
  | .package node => node.toJson
  | .classTarget target => target.toJson
  | .symbol s => s.toJson

/-- A query or a move; the selection is always written. -/
def MoveRequest.toJson (m : MoveRequest) : Json :=
  .objectOf [("moveKind", some m.kind.toJson), ("sourceUris", some (.strings m.sources)),
    ("params", some ((m.selection.map Selection.toJson).getD .null)),
    ("destination", m.destination.map Destination.toJson),
    ("updateReferences", m.updateReferences.map .bool)]

/-- An offer of destinations. -/
def DestinationList.toJson (l : DestinationList) : Json :=
  .objectOf [("errorMessage", l.errorMessage.map .string),
    ("destinations", some (.list Destination.toJson l.destinations))]

/-- The parts of a search that are set. -/
def SymbolQuery.toJson (q : SymbolQuery) : Json :=
  .objectOf [("query", some (.string q.query)), ("projectName", q.project.map .string),
    ("maxResults", q.maxResults.map .ofNat), ("sourceOnly", q.sourceOnly.map .bool)]

end Refactoring
