import Refactoring.Uri.Domain
import Refactoring.Uri.Percent

/-!
# Hosts

The host of a web or file URI is a domain, an IPv4 address or an IPv6 address in brackets, each
written in one normal form.  The host of any other URI is only percent-encoded.
-/

namespace Refactoring.Uri

/-- Why a text is no URI. -/
inductive Fault where
  | relative
  | emptyHost
  | portNumber
  | domain
  | ipv4
  | ipv6
  | hostCharacter
  deriving Repr, DecidableEq

/-- The wording of a fault. -/
def Fault.message : Fault → String
  | .relative => "relative URL without a base"
  | .emptyHost => "empty host"
  | .portNumber => "invalid port number"
  | .domain => "invalid international domain name"
  | .ipv4 => "invalid IPv4 address"
  | .ipv6 => "invalid IPv6 address"
  | .hostCharacter => "invalid domain character"

/-- A host in its normal form. -/
inductive Host where
  | domain (name : String)
  | address (text : String)
  deriving Repr, DecidableEq

/-- The host as it is written. -/
def Host.text : Host → String
  | .domain name => name
  | .address text => text

/-- Splits a text at every character that satisfies `p`; there is one part more than cuts. -/
def splitAll (p : Char → Bool) : List Char → List (List Char)
  | [] => [[]]
  | c :: rest =>
    match p c, splitAll p rest with
    | true, parts => [] :: parts
    | false, part :: parts => (c :: part) :: parts
    | false, [] => [[c]]

/-! ### IPv4 -/

/-- The value of a digit in some base up to sixteen. -/
def digitIn? (base : Nat) (c : Char) : Option Nat :=
  let value :=
    if '0' ≤ c ∧ c ≤ '9' then c.toNat - 48
    else if 'a' ≤ c ∧ c ≤ 'f' then c.toNat - 87
    else if 'A' ≤ c ∧ c ≤ 'F' then c.toNat - 55
    else 16
  if value < base then some value else none

/-- A natural number in some base; no digits stand for zero. -/
def numberIn? (base : Nat) (digits : List Char) : Option Nat :=
  digits.foldlM (fun n c => (digitIn? base c).map (base * n + ·)) 0

/-- One part of an IPv4 address: decimal, hexadecimal behind `0x`, octal behind `0`. -/
def ipv4Part? : List Char → Option Nat
  | [] => none
  | '0' :: 'x' :: digits => numberIn? 16 digits
  | '0' :: 'X' :: digits => numberIn? 16 digits
  | '0' :: c :: digits => numberIn? 8 (c :: digits)
  | digits => numberIn? 10 digits

/-- The labels without an empty one at the end. -/
def labels (name : List Char) : List (List Char) :=
  let parts := splitAll (· == '.') name
  if parts.length > 1 ∧ parts.getLast? = some [] then parts.dropLast else parts

/-- Whether the last label makes a domain an IPv4 address. -/
def endsInNumber (name : List Char) : Bool :=
  match (labels name).getLast? with
  | none => false
  | some [] => false
  | some last =>
    last.all (fun c => (digitIn? 10 c).isSome) ||
    (match last with
      | '0' :: 'x' :: _ => (ipv4Part? last).isSome
      | '0' :: 'X' :: _ => (ipv4Part? last).isSome
      | _ => false)

/-- The four bytes of an address with dots between. -/
def dotted (address : Nat) : String :=
  s!"{address / 16777216 % 256}.{address / 65536 % 256}.{address / 256 % 256}.{address % 256}"

/-- The address of some parts, each a byte but the last, which fills the bytes that are left. -/
def ipv4Value? : (bytesLeft : Nat) → List Nat → Option Nat
  | bytesLeft + 1, [last] => if last < Nat.pow 256 (bytesLeft + 1) then some last else none
  | bytesLeft + 1, part :: rest =>
    if part ≤ 255 then
      (ipv4Value? bytesLeft rest).map (part * Nat.pow 256 bytesLeft + ·)
    else none
  | _, _ => none

/-- The address of up to four parts. -/
def ipv4? (name : List Char) : Option String := do
  let parts ← (labels name).mapM ipv4Part?
  (ipv4Value? 4 parts).map dotted

/-! ### IPv6 -/

/-- One group of an IPv6 address: up to four hexadecimal digits. -/
def ipv6Group? (digits : List Char) : Option Nat :=
  if digits.isEmpty ∨ digits.length > 4 then none else numberIn? 16 digits

/-- A decimal byte without leading zeros. -/
def ipv6Byte? (digits : List Char) : Option Nat :=
  if digits.isEmpty ∨ digits.length > 3 ∨ (digits.length > 1 ∧ digits.head? = some '0') then none
  else (numberIn? 10 digits).filter (· ≤ 255)

/-- Two groups from an IPv4 address at the end of an IPv6 address. -/
def ipv6Tail? (text : List Char) : Option (List Nat) :=
  match (splitAll (· == '.') text).mapM ipv6Byte? with
  | some [a, b, c, d] => some [a * 256 + b, c * 256 + d]
  | _ => none

/-- The groups of a part without a double colon. -/
def ipv6Groups? (text : List Char) (last : Bool) : Option (List Nat) :=
  if text.isEmpty then some []
  else
    let parts := splitAll (· == ':') text
    match parts.dropLast.mapM ipv6Group?, parts.getLast? with
    | some front, some part =>
      if last ∧ part.contains '.' then (ipv6Tail? part).map (front ++ ·)
      else (ipv6Group? part).map fun group => front ++ [group]
    | _, _ => none

/-- Cuts a text around its first double colon. -/
def cutDoubleColon : List Char → Option (List Char × List Char)
  | ':' :: ':' :: rest => some ([], rest)
  | c :: rest => (cutDoubleColon rest).map fun (before, behind) => (c :: before, behind)
  | [] => none

/-- The eight groups of an IPv6 address. -/
def ipv6? (text : List Char) : Option (List Nat) :=
  match cutDoubleColon text with
  | some (before, behind) => do
    let front ← ipv6Groups? before false
    let back ← ipv6Groups? behind true
    if front.length + back.length < 8 then
      some (front ++ List.replicate (8 - front.length - back.length) 0 ++ back)
    else none
  | none =>
    match ipv6Groups? text true with
    | some groups => if groups.length = 8 then some groups else none
    | none => none

/-- The number of zero groups in front. -/
def zeroRun (groups : List Nat) : Nat := (groups.takeWhile (· == 0)).length

/-- Where the first of the longest runs of at least two zero groups begins, and its length. -/
def longestZeros (groups : List Nat) : Option (Nat × Nat) :=
  (List.range groups.length).foldl (fun best i =>
    let run := zeroRun (groups.drop i)
    if run ≥ 2 ∧ best.all (·.2 < run) then some (i, run) else best) none

/-- A group in hexadecimal. -/
def groupText (group : Nat) : String := String.ofList (Nat.toDigits 16 group)

/-- An IPv6 address with its longest run of zeros left out. -/
def ipv6Text (groups : List Nat) : String :=
  let join (gs : List Nat) := ":".intercalate (gs.map groupText)
  match longestZeros groups with
  | none => join groups
  | some (start, run) => join (groups.take start) ++ "::" ++ join (groups.drop (start + run))

/-- A host between brackets. -/
def bracketed? (text : List Char) : Except Fault Host :=
  if text.getLast? = some ']' then
    match ipv6? (text.drop 1).dropLast with
    | some groups => .ok (.address ("[" ++ ipv6Text groups ++ "]"))
    | none => .error .ipv6
  else .error .ipv6

/-! ### Whole hosts -/

/-- The host of a web or file URI. -/
def parseHost (text : List Char) : Except Fault Host :=
  if text.head? = some '[' then bracketed? text
  else
    let decoded := Utf8.decode? (percentDecode (String.ofList text))
    match decoded.bind fun name => Domain.ascii? name.toList with
    | none => .error .domain
    | some [] => .error .emptyHost
    | some name =>
      if endsInNumber name then
        match ipv4? name with
        | some address => .ok (.address address)
        | none => .error .ipv4
      else .ok (.domain (String.ofList name))

/-- What the host of any other URI may not hold. -/
def forbiddenInHost (c : Char) : Bool := "\x00\t\n\r #/:<>?@[\\]^|".toList.contains c

/-- The host of a URI of any other scheme. -/
def parseOpaqueHost (text : List Char) : Except Fault Host :=
  if text.head? = some '[' then bracketed? text
  else if text.any forbiddenInHost then .error .hostCharacter
  else .ok (.domain (String.ofList (percentEncode isControl text)))

end Refactoring.Uri
