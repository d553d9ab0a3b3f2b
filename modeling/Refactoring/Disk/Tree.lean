import Refactoring.Text.Utf8

/-!
# File trees

A disk as a list of places with what stands there; the root is always a directory.  The view of a
tree is `get?`.  A tree is `Closed` when every place lies in a directory; the operations of
`Refactoring.Disk.Operations` look places up and keep it so.
-/

namespace Refactoring.Disk

/-- The name of a file or directory in its directory. -/
abbrev Name := List UInt8

/-- The names from the root to a place. -/
abbrev Place := List Name

/-- What stands at a place. -/
inductive Node where
  | file (content : List UInt8)
  | directory
  deriving Repr, DecidableEq

end Disk

/-- A disk. -/
structure Disk where
  entries : List (Disk.Place × Disk.Node)
  deriving Repr, DecidableEq

namespace Disk

/-- A disk with nothing on it. -/
def empty : Disk := ⟨[]⟩

/-- What stands at a place, if anything. -/
def get? (disk : Disk) (place : Place) : Option Node :=
  if place = [] then some .directory else disk.entries.lookup place

/-- Whether a place is another one or lies below it. -/
def atOrBelow (top place : Place) : Bool := top.isPrefixOf place

/-- Sets what stands at a place. -/
def set (disk : Disk) (place : Place) (node : Node) : Disk :=
  ⟨(place, node) :: disk.entries.filter (·.1 ≠ place)⟩

/-- Takes away a place with all below it. -/
def cut (disk : Disk) (top : Place) : Disk :=
  ⟨disk.entries.filter fun e => !atOrBelow top e.1⟩

/-- Takes away all below a place but not the place itself. -/
def clear (disk : Disk) (top : Place) : Disk :=
  ⟨disk.entries.filter fun e => !atOrBelow top e.1 || e.1 == top⟩

/-- Puts what is at or below one place at or below another, where nothing else is left. -/
def graft (disk : Disk) (source target : Place) : Disk :=
  let moved := disk.entries.filter fun e => atOrBelow source e.1
  let others := disk.entries.filter fun e => !atOrBelow source e.1 && !atOrBelow target e.1
  ⟨moved.map (fun e => (target ++ e.1.drop source.length, e.2)) ++ others⟩

/-- Whether something lies strictly below a place. -/
def hasChildren (disk : Disk) (place : Place) : Bool :=
  disk.entries.any fun e => atOrBelow place e.1 && e.1 ≠ place

/-- Every place that holds something lies in a directory. -/
def Closed (disk : Disk) : Prop :=
  ∀ place, disk.get? place ≠ none → disk.get? place.dropLast = some .directory

/-- The root is a directory. -/
@[simp] theorem get?_nil (disk : Disk) : disk.get? [] = some .directory := rfl

/-- What was just set stands there. -/
@[simp] theorem get?_set_self (disk : Disk) {place : Place} (node : Node) (h : place ≠ []) :
    (disk.set place node).get? place = some node := by
  simp [get?, set, h]

end Refactoring.Disk
