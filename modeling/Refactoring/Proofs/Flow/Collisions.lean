import Refactoring.Proofs.Flow.Choices

/-!
# Files whose names are taken

Files that are to move to a package are looked for in its directory by their names.  Those that are
found stay and are named in one warning; the others move.  Both parts keep the order of the
selection, and a file that was selected twice is looked for twice.
-/

namespace Refactoring

open Refactoring.Flow (Runs)

variable {events : List CallEvent}

/-! ## Looking for files -/

/-- The paths that were looked for, in order, and whether there was a file. -/
def lookups (events : List CallEvent) : List (Disk.FilePath × Bool) :=
  events.filterMap fun
    | ⟨.fileExists path, found⟩ => some (path, found)
    | _ => none

/-- The warnings that were shown, in order. -/
def warningsShown (events : List CallEvent) : List String :=
  events.filterMap fun event =>
    match event.1 with
    | .showWarning message => some message
    | _ => none

/-- A call that looks for a file or warns of one. -/
def Call.guards : Call → Bool
  | fileExists _ | showWarning _ => true
  | _ => false

theorem lookups_append (events later : List CallEvent) :
    lookups (events ++ later) = lookups events ++ lookups later := List.filterMap_append

theorem warningsShown_append (events later : List CallEvent) :
    warningsShown (events ++ later) = warningsShown events ++ warningsShown later :=
  List.filterMap_append

theorem lookups_eq_nil (h : ∀ event ∈ events, event.1.guards = false) : lookups events = [] := by
  rw [lookups, List.filterMap_eq_nil_iff]
  rintro ⟨call, reply⟩ hevent
  cases call with
  | fileExists path => cases h _ hevent
  | _ => rfl

theorem warningsShown_eq_nil (h : ∀ event ∈ events, event.1.guards = false) :
    warningsShown events = [] := by
  rw [warningsShown, List.filterMap_eq_nil_iff]
  rintro ⟨call, reply⟩ hevent
  cases call with
  | showWarning message => cases h _ hevent
  | _ => rfl

/-- A selection in which it is marked, at each of its places, whether the resource was found. -/
abbrev MarkedSelection := List (Uri × Bool)

namespace MarkedSelection

/-- The resources of a selection. -/
def selected (marked : MarkedSelection) : List Uri := marked.map Prod.fst

/-- The names of the resources that were found. -/
def takenNames (marked : MarkedSelection) : List String :=
  (marked.filter (·.2)).filterMap (·.1.fileName?)

/-- The resources that were not found. -/
def remaining (marked : MarkedSelection) : List Uri := (marked.filter (!·.2)).map Prod.fst

/-- Looking for the resources that have a name, each in its turn. -/
def search (directory : Disk.FilePath) (marked : MarkedSelection) : List (Disk.FilePath × Bool) :=
  marked.filterMap fun entry =>
    entry.1.fileName?.map fun name => (Disk.FilePath.join directory (Utf8.encode name), entry.2)

end MarkedSelection

/-- The warnings that are due to names that are taken: one, which lists them, if there are any. -/
def PackageNode.warningsDue (package : PackageNode) (names : List String) : List String :=
  if names = [] then [] else [duplicateWarning names package]

/-- A selection is divided by what the directory of a package holds.  The names that are taken are
told in one warning, and what remains is moved. -/
structure PackageNode.Divides (package : PackageNode) (directory : Disk.FilePath)
    (marked : MarkedSelection) (events : List CallEvent) (result : Except Problem Outcome) :
    Prop where
  takenNames_eq : marked.takenNames.map some = (marked.filter (·.2)).map (·.1.fileName?)
  lookups_eq : lookups events = marked.search directory
  warningsShown_eq : warningsShown events = package.warningsDue marked.takenNames
  commitments_eq : commitments events =
    if marked.remaining = [] then [] else [.move (filesMove marked.remaining package)]
  nothingToDo : marked.remaining = [] → result = .ok .nothingToDo

/-- How a package receives a selection: it is divided, or, if the package is not on disk, it is
moved as it is. -/
inductive PackageNode.Receives (package : PackageNode) (uris : List Uri)
    (events : List CallEvent) (result : Except Problem Outcome) : Prop
  | unplaced (hdirectory : package.directory? = none) (hlookups : lookups events = [])
      (hwarnings : warningsShown events = [])
      (hmoved : commitments events = [.move (filesMove uris package)])
  | placed {directory : Disk.FilePath} {marked : MarkedSelection}
      (hdirectory : package.directory? = some directory) (hselected : marked.selected = uris)
      (hdivides : package.Divides directory marked events result)

/-- What comes before the files are looked for does not count. -/
theorem PackageNode.Receives.after {package : PackageNode} {uris : List Uri}
    {result : Except Problem Outcome} (h : package.Receives uris events result)
    {before : List CallEvent} (hguards : ∀ event ∈ before, event.1.guards = false)
    (hcommits : commitments before = []) : package.Receives uris (before ++ events) result := by
  have hlookups : lookups (before ++ events) = lookups events := by
    rw [lookups_append, lookups_eq_nil hguards, List.nil_append]
  have hwarnings : warningsShown (before ++ events) = warningsShown events := by
    rw [warningsShown_append, warningsShown_eq_nil hguards, List.nil_append]
  have hmoved : commitments (before ++ events) = commitments events := by
    rw [commitments_append, hcommits, List.nil_append]
  cases h with
  | unplaced hdirectory hnone hquiet hall =>
    exact .unplaced hdirectory (hlookups.trans hnone) (hwarnings.trans hquiet) (hmoved.trans hall)
  | placed hdirectory hselected hdivides =>
    exact .placed hdirectory hselected
      ⟨hdivides.takenNames_eq, hlookups.trans hdivides.lookups_eq,
        hwarnings.trans hdivides.warningsShown_eq, hmoved.trans hdivides.commitments_eq,
        hdivides.nothingToDo⟩

end Refactoring
