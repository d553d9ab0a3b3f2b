import Refactoring.Disk.Tree
import Refactoring.Uri.Place

/-!
# Operations on a disk

Paths are texts of bytes that begin at the root.  `locate` follows one to its place, through
directories only, and `holder` to the directory that its last name belongs to; each operation then
says what it needs there and what it changes.  An operation that fails leaves the disk as it was,
except that `makeAll` keeps the directories it made on its way and `removeAll` takes away first what
is in a directory.
-/

namespace Refactoring.Disk

/-- A path as it is given. -/
abbrev FilePath := List UInt8

/-- Why an operation failed. -/
inductive Error where
  | noEntry
  | busy
  | fileExists
  | notDirectory
  | isDirectory
  | invalidArgument
  | nameTooLong
  | notEmpty
  /-- The content of a file is no text. -/
  | notText
  /-- A path cannot hold this byte. -/
  | nulInPath
  deriving Repr, DecidableEq

/-- The wording of an error. -/
def Error.message : Error → String
  | .noEntry => "No such file or directory (os error 2)"
  | .busy => "Device or resource busy (os error 16)"
  | .fileExists => "File exists (os error 17)"
  | .notDirectory => "Not a directory (os error 20)"
  | .isDirectory => "Is a directory (os error 21)"
  | .invalidArgument => "Invalid argument (os error 22)"
  | .nameTooLong => "File name too long (os error 36)"
  | .notEmpty => "Directory not empty (os error 39)"
  | .notText => "stream did not contain valid UTF-8"
  | .nulInPath => "file name contained an unexpected NUL byte"

/-- A path as it is shown. -/
def shown (path : FilePath) : String := Utf8.lossy path

/-- A path one name further on. -/
def FilePath.join (path : FilePath) (name : FilePath) : FilePath :=
  if name.head? = some 47 then name
  else if path.getLast? = some 47 then path ++ name
  else path ++ 47 :: name

/-- The longest path and the longest name, in bytes. -/
def longestPath : Nat := 4095

@[inherit_doc longestPath]
def longestName : Nat := 255

/-- A path that ends in a slash only leads to directories. -/
def wantsDirectory (path : FilePath) : Bool := path.getLast? == some 47

/-- Follows names from a place, through directories only. -/
def follow (disk : Disk) : Place → List Name → Except Error Place
  | place, [] => .ok place
  | place, name :: rest =>
    match disk.get? place with
    | none => .error .noEntry
    | some (.file _) => .error .notDirectory
    | some .directory =>
      if name = [46] then follow disk place rest
      else if name = [46, 46] then follow disk place.dropLast rest
      else if name.length > longestName then .error .nameTooLong
      else follow disk (place ++ [name]) rest

/-- The names along a path. -/
def names (path : FilePath) : List Name := (path.splitOn 47).filter (· ≠ [])

/-- The names along a path, if it can be a path at all. -/
def checkedNames (path : FilePath) : Except Error (List Name) :=
  if path.contains 0 then .error .nulInPath
  else if path = [] then .error .noEntry
  else if path.length > longestPath then .error .nameTooLong
  else .ok (names path)

/-- The place that a path leads to; something need not stand there. -/
def locate (disk : Disk) (path : FilePath) : Except Error Place := do
  disk.follow [] (← checkedNames path)

/-- The directory that the last name of a path belongs to. -/
def holder (disk : Disk) (path : FilePath) : Except Error Place := do
  let place ← disk.follow [] (← checkedNames path).dropLast
  match disk.get? place with
  | none => .error .noEntry
  | some (.file _) => .error .notDirectory
  | some .directory => .ok place

/-- What a path leads to. -/
def stat (disk : Disk) (path : FilePath) : Except Error (Place × Node) := do
  let place ← disk.locate path
  match disk.get? place with
  | none => .error .noEntry
  | some (.file content) =>
    if wantsDirectory path then .error .notDirectory else .ok (place, .file content)
  | some .directory => .ok (place, .directory)

/-- Whether a path leads to something. -/
def pathExists (disk : Disk) (path : FilePath) : Bool := (disk.stat path).isOk

/-- Whether a path leads to a directory. -/
def isDirectory (disk : Disk) (path : FilePath) : Bool :=
  match disk.stat path with
  | .ok (_, .directory) => true
  | _ => false

/-- The content of a file. -/
def read (disk : Disk) (path : FilePath) : Except Error (List UInt8) := do
  match ← disk.stat path with
  | (_, .file content) => .ok content
  | (_, .directory) => .error .isDirectory

/-- The content of a file as a text. -/
def readText (disk : Disk) (path : FilePath) : Except Error String := do
  match Utf8.decode? (← disk.read path) with
  | some text => .ok text
  | none => .error .notText

/-- Writes a file, a new one if there is none. -/
def write (disk : Disk) (path : FilePath) (content : List UInt8) : Except Error Disk := do
  let _ ← disk.holder path
  if wantsDirectory path then throw .isDirectory
  let place ← disk.locate path
  match disk.get? place with
  | some .directory => .error .isDirectory
  | _ => .ok (disk.set place (.file content))

/-- Makes a directory where nothing stands. -/
def make (disk : Disk) (path : FilePath) : Except Error Disk := do
  let place ← disk.locate path
  match disk.get? place with
  | some _ => .error .fileExists
  | none => .ok (disk.set place .directory)

/-- The path of some names. -/
def pathOf (names : List Name) : FilePath :=
  if names = [] then [47] else names.flatMap (47 :: ·)

/-- Makes the directory of a path, which may be one already.  If something above it is missing,
`above` is what comes of making that first. -/
def makeAfter (disk : Disk) (path : FilePath) (above : Disk × Except Error Unit) :
    Disk × Except Error Unit :=
  match disk.make path with
  | .ok made => (made, .ok ())
  | .error .noEntry =>
    match above with
    | (disk, .error e) => (disk, .error e)
    | (disk, .ok ()) =>
      match disk.make path with
      | .ok made => (made, .ok ())
      | .error e => (disk, if disk.isDirectory path then .ok () else .error e)
  | .error e => (disk, if disk.isDirectory path then .ok () else .error e)

/-- Whether a piece of a path, between its slashes, leads nowhere. -/
def isIdle (piece : Name) : Bool := piece = [] || piece = [46]

/-- The path that pieces make up, the last piece first. -/
def pathUp (pieces : List Name) : FilePath := [47].intercalate pieces.reverse

/-- Makes the directory of the path that pieces make up, the last piece first, and those above it
that are missing.  Every directory is called by the front of the path that ends with its name, with
all pieces in it that lead nowhere. -/
def makeUp (disk : Disk) : List Name → Disk × Except Error Unit
  | [] => (disk, .ok ())
  | piece :: above =>
    if isIdle piece then disk.makeUp above
    else disk.makeAfter (pathUp (piece :: above)) (disk.makeUp above)

/-- The pieces of the directory that a path lies in, the last piece first; the root lies in none. -/
def piecesAbove (path : FilePath) : List Name := ((path.splitOn 47).reverse.dropWhile isIdle).tail

/-- Makes the directory that a path lies in. -/
def makeParent (disk : Disk) (path : FilePath) : Disk × Except Error Unit :=
  disk.makeUp (piecesAbove path)

/-- Makes a directory with all those above it that are missing.  The path to one of these ends with
its name, but the directory itself is called by its whole path, so a dot behind a missing name is
not found.  The empty path asks for no directory. -/
def makeAll (disk : Disk) (path : FilePath) : Disk × Except Error Unit :=
  if path = [] then (disk, .ok ()) else disk.makeAfter path (disk.makeParent path)

/-- Whether a path ends in a name and not in dots. -/
def endsInName (path : FilePath) : Bool :=
  match (names path).getLast? with
  | none => false
  | some name => name ≠ [46] && name ≠ [46, 46]

/-- Moves what is at one path to another.  A file may replace a file, and a directory an empty
directory; nothing moves below itself. -/
def rename (disk : Disk) (old new : FilePath) : Except Error Disk := do
  if old.contains 0 || new.contains 0 then throw .nulInPath
  let _ ← disk.holder old
  let _ ← disk.holder new
  if !endsInName old || !endsInName new then throw .busy
  let source ← disk.locate old
  let some node := disk.get? source | throw .noEntry
  let target ← disk.locate new
  if node ≠ .directory ∧ (wantsDirectory old ∨ wantsDirectory new) then throw .notDirectory
  if atOrBelow source target ∧ source ≠ target then throw .invalidArgument
  if atOrBelow target source ∧ source ≠ target then throw .notEmpty
  if source = target then return disk
  match node, disk.get? target with
  | .directory, some (.file _) => throw .notDirectory
  | .file _, some .directory => throw .isDirectory
  | .directory, some .directory =>
    if disk.hasChildren target then throw .notEmpty
  | _, _ => pure ()
  return disk.graft source target

/-- Takes away a file. -/
def removeFile (disk : Disk) (path : FilePath) : Except Error Disk := do
  match ← disk.stat path with
  | (place, .file _) => .ok (disk.cut place)
  | (_, .directory) => .error .isDirectory

/-- Takes away an empty directory, which has to be called by its own name and not by dots. -/
def removeDirectory (disk : Disk) (path : FilePath) : Except Error Disk := do
  let _ ← disk.holder path
  match (names path).getLast? with
  | none => throw .busy
  | some name =>
    if name = [46] then throw .invalidArgument
    if name = [46, 46] then throw .notEmpty
    match ← disk.stat path with
    | (_, .file _) => throw .notDirectory
    | (place, .directory) =>
      if disk.hasChildren place then throw .notEmpty
      return disk.cut place

/-- Takes away all that is in a directory and then the directory, unless the path to it led through
what is gone by then. -/
def removeAll (disk : Disk) (path : FilePath) : Disk × Except Error Unit :=
  match disk.stat path with
  | .error e => (disk, .error e)
  | .ok (_, .file _) => (disk, .error .notDirectory)
  | .ok (place, .directory) =>
    let emptied := disk.clear place
    match emptied.removeDirectory path with
    | .ok removed => (removed, .ok ())
    | .error .noEntry => (emptied, .ok ())
    | .error e => (emptied, .error e)

end Refactoring.Disk
