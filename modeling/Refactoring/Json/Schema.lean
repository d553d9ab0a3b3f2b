import Refactoring.Json.Decoder
import Refactoring.Json.Reader

/-!
# Reading JSON of a known shape

A file that a person writes is checked against the shape that is wanted while it is read, so that
the first fault of either kind is reported where it shows: a fault of shape before one of notation
that comes later.  Members that the shape does not name are passed over.
-/

namespace Refactoring.Json

/-- The shape of a JSON text. -/
inductive Schema where
  | any
  | string
  | word32
  | flag
  | strings
  /-- Fields in order of declaration, each with a mark whether it may be absent. -/
  | record (type : String) (fields : List (String × Bool × Schema))

namespace Schema

/-- A fault of shape in front of `rest`. -/
def fault (why : DecodeFault) (rest : List Char) : Fault := .before (.shape why.message) rest

/-- Reports what stands in place of a wanted scalar or list: a scalar is read first, a bracket is
not. -/
def mismatch {α : Type} (wanted : String) (text : List Char) : Read α :=
  match text with
  | '[' :: _ => .error (fault (.wrongType "sequence" wanted) text)
  | '\x7b' :: _ => .error (fault (.wrongType "map" wanted) text)
  | _ =>
    match readScalar text with
    | .error e => .error e
    | .ok (found, rest) => .error (fault (.wrongType found.mention wanted) rest)

/-- Reads a scalar and decodes it. -/
def scalar (decoder : Decoder Json) (wanted : String) (text : List Char) : Read Json :=
  match text with
  | '[' :: _ => mismatch wanted text
  | '\x7b' :: _ => mismatch wanted text
  | _ =>
    match readScalar text with
    | .error e => .error e
    | .ok (found, rest) =>
      match decoder found with
      | .ok value => .ok (value, rest)
      | .error why => .error (fault why rest)

/-- Where a fault of a whole record shows: behind its closing brace if that comes next. -/
def behindBrace (rest : List Char) : List Char :=
  match skipBlanks rest with
  | '\x7d' :: rest => rest
  | rest => rest

/-- The first field that is not among the members and may not be absent. -/
def firstMissing? (fields : List (String × Bool × Schema)) (members : List (String × Json)) :
    Option String :=
  (fields.find? fun (name, optional, _) => !optional && !members.any (·.1 == name)).map (·.1)

/-- The fault of a list of fields that ends early, or that all fields behind may be absent. -/
def endEarly (type : String) (fields : List (String × Bool × Schema)) (count : Nat) :
    Option DecodeFault :=
  match (fields.drop count).findIdx? fun (_, optional, _) => !optional with
  | some i => some (.wrongLength (count + i) (Record.lengthText type fields.length))
  | none => none

/-- Closes a list behind its last field. -/
def closeList (text : List Char) : Except Fault (List Char) :=
  match skipBlanks text with
  | [] => .error (.before .endInList [])
  | ']' :: rest => .ok rest
  | ',' :: rest =>
    match skipBlanks rest with
    | ']' :: rest => .error (.onNext .trailingComma (']' :: rest))
    | rest => .error (.onNext .trailingText rest)
  | rest => .error (.onNext .trailingText rest)

mutual

/-- Reads a value of the shape within `depth` further levels of nesting. -/
def readAs : Nat → Nat → Schema → List Char → Read Json
  | 0, _, _, text => .error (.before .endInValue text)
  | fuel + 1, depth, schema, text =>
    let text := skipBlanks text
    match schema with
    | any => readValue (fuelFor text) depth text
    | string => scalar (Decoder.map .string Decoder.text) "a string" text
    | word32 => scalar (Decoder.map .ofNat Decoder.word32) "u32" text
    | flag => scalar (Decoder.map .bool Decoder.flag) "a boolean" text
    | strings =>
      match text with
      | '[' :: rest =>
        if depth ≤ 1 then .error (.onNext .tooDeep text)
        else (readTexts fuel (depth - 1) true rest).map fun (items, rest) => (.array items, rest)
      | _ => mismatch "a sequence" text
    | record type fields =>
      match text with
      | '[' :: rest =>
        if depth ≤ 1 then .error (.onNext .tooDeep text)
        else (readFields fuel (depth - 1) type fields fields [] rest).map fun (members, rest) =>
          (.object members, rest)
      | '\x7b' :: rest =>
        if depth ≤ 1 then .error (.onNext .tooDeep text)
        else (readNamed fuel (depth - 1) fields [] true rest).map fun (members, rest) =>
          (.object members, rest)
      | _ => mismatch type text

/-- Reads the texts of a list. -/
def readTexts : Nat → Nat → Bool → List Char → Except Fault (List Json × List Char)
  | 0, _, _, text => .error (.before .endInList text)
  | fuel + 1, depth, first, text => do
    match ← nextItem first text with
    | .inr rest => .ok ([], rest)
    | .inl rest =>
      let (item, rest) ← readAs fuel depth string rest
      let (items, rest) ← readTexts fuel depth false rest
      .ok (item :: items, rest)

/-- Reads the fields of a record that is written as a list; `todo` are those not read yet. -/
def readFields : Nat → Nat → String → List (String × Bool × Schema) →
    List (String × Bool × Schema) → List (String × Json) → List Char →
    Except Fault (List (String × Json) × List Char)
  | 0, _, _, _, _, _, text => .error (.before .endInList text)
  | _ + 1, _, _, _, [], members, text => do .ok (members, ← closeList text)
  | fuel + 1, depth, type, fields, (name, _, schema) :: todo, members, text => do
    match ← nextItem members.isEmpty text with
    | .inr rest =>
      match endEarly type fields members.length with
      | some why => .error (fault why rest)
      | none => .ok (members, rest)
    | .inl rest =>
      let (value, rest) ← readAs fuel depth schema rest
      readFields fuel depth type fields todo (members ++ [(name, value)]) rest

/-- Reads the members of a record that is written as an object. -/
def readNamed : Nat → Nat → List (String × Bool × Schema) → List (String × Json) → Bool →
    List Char → Except Fault (List (String × Json) × List Char)
  | 0, _, _, _, _, text => .error (.before .endInObject text)
  | fuel + 1, depth, fields, members, first, text => do
    match ← nextKey first text with
    | .inr rest =>
      match firstMissing? fields members with
      | some name => .error (fault (.missingField name) rest)
      | none => .ok (members, rest)
    | .inl rest =>
      let (key, rest) ← readString rest
      match fields.find? (·.1 == key) with
      | none =>
        let rest ← readColon rest
        let rest ← skipValue (fuelFor rest) rest
        readNamed fuel depth fields members false rest
      | some (_, _, schema) =>
        if members.any (·.1 == key) then
          .error (fault (.wording s!"duplicate field `{key}`") (behindBrace rest))
        else
          let rest ← readColon rest
          let (value, rest) ← readAs fuel depth schema rest
          readNamed fuel depth fields (members ++ [(key, value)]) false rest

end

/-- Reads a whole text of the shape, or says in words what is wrong with it. -/
def read (schema : Schema) (text : String) : Except String Json :=
  let chars := text.toList
  let result : Except Fault Json := do
    let (value, rest) ← readAs (fuelFor chars) depthLimit schema chars
    expectEnd rest
    .ok value
  result.mapError (·.message text)

end Schema
end Refactoring.Json
