import Refactoring.Uri.Parser

/-!
# Where a URI leads

The directory that holds a resource, the name of the resource in it, and the path on disk of a URI
that names a local file, as well as the URI of such a path.  Directories are compared in their
normal form.
-/

namespace Refactoring.Uri

/-- A drive in its normal form. -/
def isNormalDrive (segment : String) : Bool :=
  isDrive segment && segment.toList.getLast? == some ':'

/-- The segments of the directory that holds a resource. -/
def directorySegments (kind : Kind) (names : List String) : List String :=
  if kind = .file ∧ names.getLast?.any isNormalDrive then names ++ [""]
  else names.dropLast ++ [""]

/-- The directory that holds a resource; nothing holds one with an opaque path. -/
def parent? (u : Uri) : Option Uri :=
  match u.path with
  | .rootless _ => none
  | .segments names =>
    some { u with
      path := .segments (directorySegments (.of u.scheme) names)
      query := none
      fragment := none }

/-- Whether all resources lie directly in one directory. -/
def haveCommonParent : List Uri → Bool
  | [] => true
  | first :: rest => rest.all fun u => u.parent? == first.parent?

/-- A drive needs a slash behind it to be a path. -/
def endsInDrive (path : List UInt8) : Bool :=
  match path.reverse with
  | mark :: letter :: _ :: _ =>
    (mark == 58 || mark == 124) && isLetter (Char.ofNat letter.toNat)
  | _ => false

/-- The path on disk: the decoded segments, when no other machine is meant. -/
def filePath? (u : Uri) : Option (List UInt8) := do
  let names ← u.segments?
  guard (u.host? = none ∨ u.host? = some (.domain "localhost"))
  let path := names.flatMap fun name => 47 :: percentDecode name
  some (if endsInDrive path then path ++ [47] else path)

/-- The names along a path on disk; empty ones and single dots do not count. -/
def pathNames (path : List UInt8) : List (List UInt8) :=
  ((path.splitOn 47).filter fun name => name ≠ [] ∧ name ≠ [46])

/-- A local resource with the given segments. -/
def localResource (segments : List String) : Uri :=
  ⟨"file", some ⟨"", none, none⟩, .segments segments, none, none⟩

/-- The URI of a path on disk. -/
def ofFilePath (path : List UInt8) : Uri :=
  match pathNames path with
  | [] => localResource [""]
  | names => localResource (names.map percentEncodeName)

/-- The URI of a directory on disk, which ends in a slash. -/
def ofDirectoryPath (path : List UInt8) : Uri :=
  localResource ((pathNames path).map percentEncodeName ++ [""])

/-- The name that a path on disk ends in. -/
def lastName? (path : List UInt8) : Option (List UInt8) :=
  (pathNames path).getLast?.filter (· ≠ [46, 46])

/-- The name of a resource: decoded for a local file, otherwise the last segment that has one. -/
def fileName? (u : Uri) : Option String :=
  match u.filePath? with
  | some path => (lastName? path).map Utf8.lossy
  | none => u.segments?.bind fun names => (names.filter (· ≠ "")).getLast?

end Refactoring.Uri
