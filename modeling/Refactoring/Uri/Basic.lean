import Refactoring.Uri.Host

/-!
# URIs

A URI in its normal form.  Its path is either opaque, as in `untitled:Untitled-1`, or a list of
segments, each of them percent-encoded.  `text` writes the normal form; two URIs are the same when
their texts are.
-/

namespace Refactoring

/-- What stands between `//` and the path. -/
structure Uri.Authority where
  /-- The user name and password with the `@` behind them, or nothing. -/
  user : String
  host : Option Uri.Host
  portNumber : Option Nat
  deriving Repr, DecidableEq

/-- The path of a URI. -/
inductive Uri.Path where
  | rootless (text : String)
  | segments (names : List String)
  deriving Repr, DecidableEq

/-- A URI in its normal form. -/
structure Uri where
  scheme : String
  authority : Option Uri.Authority
  path : Uri.Path
  query : Option String
  fragment : Option String
  deriving Repr, DecidableEq

namespace Uri

/-- The host with what stands around it. -/
def Authority.text (a : Authority) : String :=
  a.user ++ (a.host.map Host.text).getD "" ++
    (match a.portNumber with
      | some number => ":" ++ toString number
      | none => "")

/-- A path with a slash in front of each segment. -/
def Path.text : Path → String
  | .rootless text => text
  | .segments names => String.join (names.map ("/" ++ ·))

/-- A part with its mark in front, if there is one. -/
def marked (mark : String) : Option String → String
  | some part => mark ++ part
  | none => ""

/-- A path of which a reader would take the beginning for a host. -/
def Path.startsWithTwoSlashes : Path → Bool
  | .segments ("" :: _ :: _) => true
  | _ => false

/-- The normal form of a URI. -/
def text (u : Uri) : String :=
  u.scheme ++ ":" ++
    (match u.authority with
      | some a => "//" ++ a.text
      | none => if u.path.startsWithTwoSlashes then "/." else "") ++
    u.path.text ++ marked "?" u.query ++ marked "#" u.fragment

instance : ToString Uri := ⟨text⟩

/-- The host, if there is one. -/
def host? (u : Uri) : Option Host := u.authority.bind (·.host)

/-- The segments of the path unless it is opaque or empty. -/
def segments? (u : Uri) : Option (List String) :=
  match u.path with
  | .segments [] => none
  | .segments names => some names
  | .rootless _ => none

end Uri
end Refactoring
