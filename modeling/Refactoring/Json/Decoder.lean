import Refactoring.Json.Basic
import Refactoring.Json.Printer
import Refactoring.Text.Quoted

/-!
# Decoding JSON values

A decoder turns a JSON value into a value of the domain or says what is wrong with it.  Records are
put together field by field: of several faulty fields the one that the input shows first is
reported, and only then a missing field, in the order of declaration.  A record may also be written
as the list of its fields.
-/

namespace Refactoring.Json

/-- Why a JSON value does not stand for a value of the domain. -/
inductive DecodeFault where
  | wrongType (found wanted : String)
  | wrongValue (found wanted : String)
  | missingField (name : String)
  | wrongLength (count : Nat) (wanted : String)
  | unknownName (name : String) (known : List String)
  /-- None of the alternatives of a type accepts the value. -/
  | noAlternative (type : String)
  | wording (message : String)
  deriving Repr, DecidableEq

/-- Names in a message: two joined by a word, more as a list. -/
def oneOf : List String → String
  | [] => "there are no variants"
  | [a] => s!"expected `{a}`"
  | [a, b] => s!"expected `{a}` or `{b}`"
  | names => "expected one of " ++ ", ".intercalate (names.map fun name => s!"`{name}`")

/-- The wording of a fault. -/
def DecodeFault.message : DecodeFault → String
  | .wrongType found wanted => s!"invalid type: {found}, expected {wanted}"
  | .wrongValue found wanted => s!"invalid value: {found}, expected {wanted}"
  | .missingField name => s!"missing field `{name}`"
  | .wrongLength count wanted => s!"invalid length {count}, expected {wanted}"
  | .unknownName name known => s!"unknown variant `{name}`, {oneOf known}"
  | .noAlternative type => s!"data did not match any variant of untagged enum {type}"
  | .wording message => message

/-- A value as a message mentions it. -/
def mention : Json → String
  | null => "null"
  | bool b => s!"boolean `{b}`"
  | number (.int value) => s!"integer `{value}`"
  | number (.float value) => s!"floating point `{floatText value}`"
  | string s => "string " ++ Text.quoted s
  | array _ => "sequence"
  | object _ => "map"

/-- What decoding gives. -/
abbrev Decoded (α : Type) := Except DecodeFault α

/-- A reading of JSON values. -/
abbrev Decoder (α : Type) := Json → Decoded α

namespace Decoder

/-- The fault of a value that is of another type. -/
def wrongType {α : Type} (found : Json) (wanted : String) : Decoded α :=
  .error (.wrongType found.mention wanted)

/-- Every value stands for itself. -/
def any : Decoder Json := .ok

/-- A text. -/
def text : Decoder String
  | .string s => .ok s
  | other => wrongType other "a string"

/-- A truth value. -/
def flag : Decoder Bool
  | .bool b => .ok b
  | other => wrongType other "a boolean"

/-- An integer from `low` to `high`, which messages call `name`. -/
def integer (name : String) (low high : Int) : Decoder Int
  | .number (.int value) =>
    if low ≤ value ∧ value ≤ high then .ok value
    else .error (.wrongValue (Json.number (.int value)).mention name)
  | other => wrongType other name

/-- An unsigned integer of 32 bits. -/
def word32 : Decoder Nat := fun j => (integer "u32" 0 4294967295 j).map Int.toNat

/-- A signed integer of 32 bits. -/
def int32 : Decoder Int := integer "i32" (-2147483648) 2147483647

/-- A signed integer of 64 bits. -/
def int64 : Decoder Int := integer "i64" (-9223372036854775808) 9223372036854775807

/-- The items of an array, each decoded. -/
def list {α : Type} (item : Decoder α) : Decoder (List α)
  | .array items => items.mapM item
  | other => wrongType other "a sequence"

/-- Nothing for `null`. -/
def optional {α : Type} (decoder : Decoder α) : Decoder (Option α)
  | .null => .ok none
  | other => (decoder other).map some

/-- The decoder with its result changed. -/
def map {α β : Type} (f : α → β) (decoder : Decoder α) : Decoder β := fun j => (decoder j).map f

/-- The value of a name among the names of a type. -/
def named {α : Type} (values : List α) (name : α → String) (found : String) : Decoded α :=
  match values.find? (name · == found) with
  | some value => .ok value
  | none => .error (.unknownName found (values.map name))

/-- A value given by its name, alone or as the only key of a map. -/
def choice {α : Type} (values : List α) (name : α → String) : Decoder α
  | .string found => named values name found
  | .object [(found, content)] => do
    let value ← named values name found
    match content with
    | .null => return value
    | other => wrongType other "unit"
  | .object _ => .error (.wrongValue "map" "map with a single key")
  | other => wrongType other "string or map"

/-- The first decoder that accepts a value decides; the alternatives belong to `type`. -/
def firstOf {α : Type} (type : String) (decoders : List (Decoder α)) : Decoder α := fun j =>
  match decoders.findSome? fun decoder => (decoder j).toOption with
  | some value => .ok value
  | none => .error (.noAlternative type)

end Decoder

/-! ### Records -/

/-- What a record is read from: named members in order, and the fault of a member that is not among
them. -/
structure Source where
  members : List (String × Json)
  missing : String → DecodeFault
  /-- The record is written as a list, which has a place for every field. -/
  positional : Bool

/-- A value, or a fault with its rank; the fault of the least rank is reported. -/
abbrev Ranked (α : Type) := Except (Nat × DecodeFault) α

/-- A reading of the fields `names` from a source. -/
structure Record (α : Type) where
  names : List String
  read : Source → Ranked α

/-- Where a member stands, and its value. -/
def Source.find? (source : Source) (name : String) : Option (Nat × Json) :=
  (source.members.zipIdx.find? (·.1.1 == name)).map fun (m, i) => (i, m.2)

namespace Record

/-- The same fields with another result. -/
def map {α β : Type} (f : α → β) (r : Record α) : Record β := ⟨r.names, fun s => (r.read s).map f⟩

/-- Two groups of fields, the first before the second. -/
def apply {α β : Type} (f : Record (α → β)) (r : Record α) : Record β where
  names := f.names ++ r.names
  read s :=
    match f.read s, r.read s with
    | .ok g, .ok a => .ok (g a)
    | .error e, .ok _ => .error e
    | .ok _, .error e => .error e
    | .error e, .error e' => .error (if e.1 ≤ e'.1 then e else e')

instance : Functor Record where
  map := map

instance : Seq Record where
  seq f r := apply f (r ())

/-- A field that may have a value of its own when it is absent. -/
def fieldOr {α : Type} (name : String) (absent : Source → Option α) (decoder : Decoder α) :
    Record α where
  names := [name]
  read s :=
    match s.find? name with
    | some (place, value) => (decoder value).mapError fun fault => (place, fault)
    | none =>
      match absent s with
      | some value => .ok value
      | none => .error (s.members.length, s.missing name)

/-- A field that has to be there. -/
def required {α : Type} (name : String) (decoder : Decoder α) : Record α :=
  fieldOr name (fun _ => none) decoder

/-- A field with a value for when it is absent. -/
def withDefault {α : Type} (name : String) (value : α) (decoder : Decoder α) : Record α :=
  fieldOr name (fun _ => some value) decoder

/-- A field that may be absent or `null`. -/
def optional {α : Type} (name : String) (decoder : Decoder α) : Record (Option α) :=
  withDefault name none (Decoder.optional decoder)

/-- A field that may be absent or `null`, but must have its place in a list. -/
def nullable {α : Type} (name : String) (decoder : Decoder α) : Record (Option α) :=
  fieldOr name (fun s => if s.positional then none else some none) (Decoder.optional decoder)

/-- Reads the fields from the members of an object. -/
def ofMembers {α : Type} (r : Record α) (members : List (String × Json)) : Decoded α :=
  (r.read ⟨members, .missingField, false⟩).mapError (·.2)

/-- What a list of fields is called in messages. -/
def lengthText (type : String) (count : Nat) : String :=
  type ++ " with " ++ toString count ++ if count = 1 then " element" else " elements"

/-- Reads the fields from a list in order of declaration. -/
def ofItems {α : Type} (type : String) (r : Record α) (items : List Json) : Decoded α := do
  let missing name := .wrongLength (r.names.idxOf name) (lengthText type r.names.length)
  let value ← (r.read ⟨r.names.zip items, missing, true⟩).mapError (·.2)
  if items.length > r.names.length then
    throw (.wrongLength items.length "fewer elements in array")
  return value

/-- A record that is written as an object or as a list; `type` is its name in messages. -/
def decoder {α : Type} (type : String) (r : Record α) : Decoder α
  | .object members => r.ofMembers members
  | .array items => ofItems type r items
  | other => Decoder.wrongType other type

/-- A record that is only written as an object, because it leaves room for more members. -/
def openDecoder {α : Type} (type : String) (read : List (String × Json) → Decoded α) : Decoder α
  | .object members => read members
  | other => Decoder.wrongType other type

end Record
end Refactoring.Json
