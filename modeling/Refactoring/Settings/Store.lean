import Refactoring.Settings.Config
import Refactoring.Disk.Operations
import Refactoring.Failure

/-!
# The configuration on disk

`ClientConfig.getOrCreate` reads the configuration file of a directory and writes the standard
configuration if there is none.  A `Manager` remembers the first configuration that it got; its
copies share what it remembers.  That it forgets after a minute is left out: all that happens here
happens before.
-/

namespace Refactoring

open Disk (FilePath)

/-- The directory of a workspace that holds the configuration. -/
def configDirectory : FilePath := Utf8.encode ".refactor-client"

/-- The file that holds the configuration. -/
def configFile : FilePath := Utf8.encode "config.json"

namespace ClientConfig

/-- Reads the configuration in a directory that exists, or writes the standard one. -/
def getOrCreateIn (root : FilePath) (disk : Disk) : Disk × Except Failure ClientConfig :=
  let path := Disk.FilePath.join root configFile
  if disk.pathExists path then
    match disk.readText path with
    | .error e => (disk, .error (.of e.message))
    | .ok text => (disk, (ofText text).mapError .of)
  else
    match disk.write path (Utf8.encode standard.toJson.pretty) with
    | .ok disk => (disk, .ok standard)
    | .error e => (disk, .error (.of e.message))

/-- Reads the configuration in a directory, or makes both with the standard one. -/
def getOrCreate (root : FilePath) (disk : Disk) : Disk × Except Failure ClientConfig :=
  if disk.pathExists root then getOrCreateIn root disk
  else
    match disk.makeAll root with
    | (disk, .error e) => (disk, .error (.of e.message))
    | (disk, .ok ()) => getOrCreateIn root disk

end ClientConfig

namespace Settings

/-- What managers remember: one cell for each manager and its copies. -/
abbrev Cells := List (Option ClientConfig)

/-- Gives out the configuration of a directory; its copies have the same cell. -/
structure Manager where
  root : FilePath
  cell : Nat
  deriving Repr, DecidableEq

/-- A manager with a cell of its own. -/
def Manager.new (root : FilePath) (cells : Cells) : Manager × Cells :=
  (⟨root, cells.length⟩, cells ++ [none])

/-- The directory of the configuration of a workspace. -/
def rootOf (workspace : FilePath) : FilePath := Disk.FilePath.join workspace configDirectory

/-- What a manager and the disk are like together. -/
structure State where
  disk : Disk
  cells : Cells

/-- The configuration: the remembered one, or that of the disk, which is then remembered. -/
def Manager.get (m : Manager) (s : State) : State × Except Failure ClientConfig :=
  match s.cells[m.cell]? with
  | some (some config) => (s, .ok config)
  | _ =>
    match ClientConfig.getOrCreate m.root s.disk with
    | (disk, .ok config) => (⟨disk, s.cells.set m.cell (some config)⟩, .ok config)
    | (disk, .error reason) => ({ s with disk := disk }, .error reason)

end Settings
end Refactoring
