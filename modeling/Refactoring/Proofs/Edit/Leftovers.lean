import Refactoring.Proofs.Disk.Leftovers
import Refactoring.Proofs.Edit.Files
import Refactoring.Proofs.Edit.Outcomes

/-!
# What failed changes leave behind

Nothing is taken back when a change fails.  What it has done before is left: a creation or rename
has made the directories that were missing on the way to its target, and a deletion has taken away
all that was in a directory if that is called by dots.  Every other change that fails leaves the
disk exactly as it was.
-/

namespace Refactoring

open Disk

variable {disk disk' : Disk} {path : FilePath} {reason : Failure}

/-! ## Failed attempts -/

theorem withPath_eq_failed {uri : Uri} {attempt : FilePath → Attempt}
    (h : withPath disk uri attempt = .failed disk' reason) :
    uri.filePath? = none ∧ disk' = disk ∨
      ∃ path, uri.filePath? = some path ∧ attempt path = .failed disk' reason := by
  unfold withPath localPath at h
  cases hpath : uri.filePath? with
  | none =>
    rw [hpath] at h
    cases h
    exact .inl ⟨rfl, rfl⟩
  | some path =>
    rw [hpath] at h
    exact .inr ⟨path, rfl, h⟩

theorem Attempt.of_eq_failed {outcome : Except Disk.Error Disk}
    (h : Attempt.of disk outcome = .failed disk' reason) : disk' = disk := by
  cases outcome with
  | ok other => cases h
  | error e =>
    cases h
    rfl

/-- What is left of an operation behind a directory is that directory. -/
theorem withParent_eq_failed {operation : Disk → Except Disk.Error Disk}
    (h : withParent disk path (fun made => .of made (operation made)) = .failed disk' reason) :
    disk' = (disk.makeParent path).1 := by
  unfold withParent at h
  generalize disk.makeParent path = outcome at h ⊢
  obtain ⟨made, made?⟩ := outcome
  cases made? with
  | ok => exact Attempt.of_eq_failed h
  | error e =>
    cases h
    rfl

theorem applyTextEdits_eq_failed {edits : List TextEdit}
    (h : applyTextEdits disk path edits = .failed disk' reason) : disk' = disk := by
  unfold applyTextEdits at h
  split at h
  · cases h
    rfl
  · split at h
    · cases h
    · split at h
      · cases h
      · cases h
        rfl

/-- A creation that fails has made the directory for its target; if it is refused, that was there
before. -/
theorem createFile_eq_failed {options : Option TargetOptions}
    (h : createFile disk path options = .failed disk' reason) :
    disk' = (disk.makeParent path).1 := by
  unfold createFile at h
  split at h
  · rename_i hrefused
    rw [Bool.and_eq_true] at hrefused
    rw [makeParent_eq_self (not_lacksWay_of_pathExists hrefused.1)]
    split at h <;> cases h
    rfl
  · exact withParent_eq_failed h

theorem renameFile_eq_failed {old new : FilePath} {options : Option TargetOptions}
    (h : renameFile disk old new options = .failed disk' reason) :
    disk' = (disk.makeParent new).1 := by
  unfold renameFile at h
  split at h
  · rename_i hrefused
    rw [Bool.and_eq_true] at hrefused
    rw [makeParent_eq_self (not_lacksWay_of_pathExists hrefused.1)]
    split at h <;> cases h
    rfl
  · exact withParent_eq_failed h

/-- A deletion that fails was to take away a directory with all that is in it, or it has changed
nothing. -/
theorem deleteFile_eq_failed {options : Option DeleteOptions}
    (h : deleteFile disk path options = .failed disk' reason) :
    (isSet options (·.recursive) ∧ ∃ place e, disk.stat path = .ok (place, .directory) ∧
      disk.removeAll path = (disk', .error e)) ∨
    ¬ (isSet options (·.recursive) ∧ disk.isDirectory path) ∧ disk' = disk := by
  unfold deleteFile at h
  split at h
  · rename_i hnone
    have hdir : ¬ disk.isDirectory path := by
      intro hdir
      obtain ⟨place, hstat⟩ := isDirectory_iff.mp hdir
      have hexists : disk.pathExists path := pathExists_iff.mpr ⟨place, _, hstat⟩
      simp [hexists] at hnone
    split at h <;> cases h
    exact .inr ⟨fun hboth => hdir hboth.2, rfl⟩
  · split at h
    · rename_i hdir
      obtain ⟨place, hstat⟩ := isDirectory_iff.mp hdir
      split at h
      · rename_i hrecursive
        split at h
        · cases h
        · rename_i left e hremove
          cases h
          exact .inl ⟨hrecursive, place, e, hstat, hremove⟩
      · rename_i hrecursive
        exact .inr ⟨fun hboth => hrecursive hboth.1, Attempt.of_eq_failed h⟩
    · rename_i hdir
      exact .inr ⟨fun hboth => hdir hboth.2, Attempt.of_eq_failed h⟩

/-! ## Failed changes -/

namespace Change

/-- A creation or rename makes directories that are missing on the way to the path of its target
first. -/
inductive MakesWay (disk : Disk) : Change → FilePath → Prop where
  | create {uri : Uri} {options : Option TargetOptions} {note : Option String} {path : FilePath}
      (hpath : uri.filePath? = some path) (hlacks : disk.LacksWay path) :
      MakesWay disk (step (.operation (.create uri options note))) path
  | rename {old new : Uri} {options : Option TargetOptions} {note : Option String}
      {path target : FilePath} (hold : old.filePath? = some path)
      (hnew : new.filePath? = some target) (hlacks : disk.LacksWay target) :
      MakesWay disk (step (.operation (.rename old new options note))) target

/-- A recursive deletion takes away what is in the directory of its path first. -/
inductive Empties (disk : Disk) : Change → FilePath → Prop where
  | delete {uri : Uri} {options : Option DeleteOptions} {path : FilePath} {place : Place}
      (hpath : uri.filePath? = some path) (hrecursive : isSet options (·.recursive))
      (hstat : disk.stat path = .ok (place, .directory)) (hchildren : disk.hasChildren place) :
      Empties disk (step (.operation (.delete uri options))) path

/-- What may be left of a change that has failed. -/
structure LeavesOnly (change : Change) (disk disk' : Disk) : Prop where
  way : ∀ {path}, change.MakesWay disk path → LeavesWay path disk disk'
  emptied : ∀ {path}, change.Empties disk path →
    ¬ endsInName path ∧ disk' = disk.clear (placeOf path)
  nothing : (∀ path, ¬ change.MakesWay disk path) → (∀ path, ¬ change.Empties disk path) →
    disk' = disk

variable {change : Change}

/-- A change that neither makes a way nor empties a directory. -/
theorem LeavesOnly.of_eq (hway : ∀ path, ¬ change.MakesWay disk path)
    (hempties : ∀ path, ¬ change.Empties disk path) (h : disk' = disk) :
    change.LeavesOnly disk disk' :=
  ⟨fun hmakes => absurd hmakes (hway _), fun hdoes => absurd hdoes (hempties _), fun _ _ => h⟩

/-- A change that makes the way to its target. -/
theorem LeavesOnly.of_makeParent
    (hway : ∀ other, change.MakesWay disk other ↔ other = path ∧ disk.LacksWay path)
    (hempties : ∀ path, ¬ change.Empties disk path) (h : disk' = (disk.makeParent path).1) :
    change.LeavesOnly disk disk' := by
  subst h
  refine ⟨fun {other} hmakes => ?_, fun hdoes => absurd hdoes (hempties _), fun hnone _ => ?_⟩
  · obtain ⟨rfl, hlacks⟩ := (hway other).mp hmakes
    exact hlacks.leavesWay
  · exact makeParent_eq_self fun hlacks => hnone path ((hway path).mpr ⟨rfl, hlacks⟩)

theorem LeavesOnly.of_create {uri : Uri} {options : Option TargetOptions} {note : Option String}
    (h : Change.apply disk (step (.operation (.create uri options note))) =
      .failed disk' reason) :
    LeavesOnly (step (.operation (.create uri options note))) disk disk' := by
  rcases withPath_eq_failed h with ⟨hnone, hsame⟩ | ⟨path, hpath, h⟩
  · refine .of_eq (fun path hmakes => ?_) nofun hsame
    cases hmakes with
    | create hpath _ => cases hnone.symm.trans hpath
  · refine .of_makeParent (fun other => ⟨?_, ?_⟩) nofun (createFile_eq_failed h)
    · intro hmakes
      cases hmakes with
      | create hother hlacks =>
        obtain rfl := Option.some.inj (hpath.symm.trans hother)
        exact ⟨rfl, hlacks⟩
    · rintro ⟨rfl, hlacks⟩
      exact .create hpath hlacks

theorem LeavesOnly.of_rename {old new : Uri} {options : Option TargetOptions}
    {note : Option String}
    (h : Change.apply disk (step (.operation (.rename old new options note))) =
      .failed disk' reason) :
    LeavesOnly (step (.operation (.rename old new options note))) disk disk' := by
  rcases withPath_eq_failed h with ⟨hnone, hsame⟩ | ⟨path, hold, h⟩
  · refine .of_eq (fun path hmakes => ?_) nofun hsame
    cases hmakes with
    | rename hold _ _ => cases hnone.symm.trans hold
  rcases withPath_eq_failed h with ⟨hnone, hsame⟩ | ⟨target, hnew, h⟩
  · refine .of_eq (fun path hmakes => ?_) nofun hsame
    cases hmakes with
    | rename _ hnew _ => cases hnone.symm.trans hnew
  · refine .of_makeParent (fun other => ⟨?_, ?_⟩) nofun (renameFile_eq_failed h)
    · intro hmakes
      cases hmakes with
      | rename _ hother hlacks =>
        obtain rfl := Option.some.inj (hnew.symm.trans hother)
        exact ⟨rfl, hlacks⟩
    · rintro ⟨rfl, hlacks⟩
      exact .rename hold hnew hlacks

theorem LeavesOnly.of_delete {uri : Uri} {options : Option DeleteOptions}
    (h : Change.apply disk (step (.operation (.delete uri options))) = .failed disk' reason) :
    LeavesOnly (step (.operation (.delete uri options))) disk disk' := by
  rcases withPath_eq_failed h with ⟨hnone, hsame⟩ | ⟨path, hpath, h⟩
  · refine .of_eq nofun (fun path hdoes => ?_) hsame
    cases hdoes with
    | delete hpath _ _ _ => cases hnone.symm.trans hpath
  rcases deleteFile_eq_failed h with ⟨hrecursive, place, e, hstat, hremove⟩ | ⟨hnot, hsame⟩
  · obtain ⟨rfl, hname⟩ := removeAll_eq_error hstat hremove
    have hplace := eq_placeOf_of_locate (stat_eq_ok.mp hstat).1
    refine ⟨nofun, fun {other} hdoes => ?_, fun _ hnone => ?_⟩
    · cases hdoes with
      | delete hother _ _ _ =>
        obtain rfl := Option.some.inj (hpath.symm.trans hother)
        exact ⟨hname, hplace ▸ rfl⟩
    · exact clear_eq_self fun hchildren =>
        hnone path (.delete hpath hrecursive hstat hchildren)
  · refine .of_eq nofun (fun other hdoes => ?_) hsame
    cases hdoes with
    | delete hother hrecursive hstat _ =>
      obtain rfl := Option.some.inj (hpath.symm.trans hother)
      exact hnot ⟨hrecursive, isDirectory_iff.mpr ⟨_, hstat⟩⟩

theorem LeavesOnly.of_textEdits {uri : Uri} {edits : List TextEdit}
    (hway : ∀ path, ¬ change.MakesWay disk path) (hempties : ∀ path, ¬ change.Empties disk path)
    (h : withPath disk uri (fun path => applyTextEdits disk path edits) = .failed disk' reason) :
    change.LeavesOnly disk disk' := by
  rcases withPath_eq_failed h with ⟨-, hsame⟩ | ⟨path, -, h⟩
  · exact .of_eq hway hempties hsame
  · exact .of_eq hway hempties (applyTextEdits_eq_failed h)

/-- Of a change that fails only that is left: of a creation or rename directories on the way to its
target, if some were missing, of a recursive deletion of a directory that is called by dots the
directory without what was in it, and of every other change nothing. -/
theorem leavesOnly_of_failed (h : change.apply disk = .failed disk' reason) :
    change.LeavesOnly disk disk' := by
  cases change with
  | entry uri edits => exact .of_textEdits nofun nofun h
  | step step =>
    cases step with
    | edit e => exact .of_textEdits nofun nofun h
    | operation o =>
      cases o with
      | create uri options note => exact .of_create h
      | rename old new options note => exact .of_rename h
      | delete uri options => exact .of_delete h

/-! ## Runs -/

/-- Where no directory is emptied, nothing but directories is added. -/
theorem LeavesOnly.added (h : change.LeavesOnly disk disk')
    (hempties : ∀ path, ¬ change.Empties disk path) : Extends [] disk disk' := by
  by_cases hway : ∃ path, change.MakesWay disk path
  · obtain ⟨path, hmakes⟩ := hway
    exact (h.way hmakes).added
  · rw [h.nothing (fun path hmakes => hway ⟨path, hmakes⟩) hempties]
    exact .refl [] disk

end Change

/-- A run in which every change fails adds nothing but directories, if none of the changes deletes
recursively. -/
theorem Attempted.added_of_failed {changes : List Change} {results : List (Option Failure)}
    (h : Attempted disk changes results disk') (hfailed : none ∉ results)
    (hempties : ∀ change ∈ changes, ∀ disk path, ¬ change.Empties disk path) :
    Extends [] disk disk' := by
  induction h with
  | nil disk => exact .refl [] disk
  | done _ _ _ => exact absurd List.mem_cons_self hfailed
  | failed h _ ih =>
    rw [List.forall_mem_cons] at hempties
    have hfirst := (Change.leavesOnly_of_failed h).added (hempties.1 _)
    exact hfirst.trans (ih (fun hmem => hfailed (List.mem_cons_of_mem _ hmem)) hempties.2)

/-! ## A source that is missing -/

/-- A file that is not there is to move into a directory `M/N`. -/
def missingSource : Change :=
  .step (.operation (.rename (.localResource ["Z"]) (.localResource ["M", "N", "B"]) none none))

/-- The file `A`, and the directories that were made. -/
def afterMissingSource : Disk :=
  ⟨[([[77], [78]], .directory), ([[77]], .directory), ([[65]], .file [97])]⟩

theorem apply_missingSource : missingSource.apply withoutDirectory =
    .failed afterMissingSource (.of "No such file or directory (os error 2)") := by decide +kernel

theorem makesWay_missingSource :
    missingSource.MakesWay withoutDirectory [47, 77, 47, 78, 47, 66] := by
  have hold : Uri.filePath? (.localResource ["Z"]) = some [47, 90] := by decide
  have hnew : Uri.filePath? (.localResource ["M", "N", "B"]) = some [47, 77, 47, 78, 47, 66] := by
    decide
  have hway : wayTo [47, 77, 47, 78, 47, 66] = [[77], [78]] := by decide
  have hparent : parentPath [47, 77, 47, 78, 47, 66] = [47, 77, 47, 78] := by decide
  have hpath : IsPath [47, 77, 47, 78] := ⟨by decide, by decide⟩
  have hgap : withoutDirectory.Gap [[77], [78]] := ⟨[[77]], [[77]], ⟨[[78]], rfl⟩, rfl, rfl⟩
  exact .rename hold hnew ⟨hparent ▸ hpath, hway ▸ hgap⟩

theorem Change.leavesOnly_of_failed_missingSource :
    missingSource.apply withoutDirectory =
        .failed afterMissingSource (.of "No such file or directory (os error 2)") ∧
      LeavesWay [47, 77, 47, 78, 47, 66] withoutDirectory afterMissingSource :=
  ⟨apply_missingSource, (Change.leavesOnly_of_failed apply_missingSource).way makesWay_missingSource⟩

/-- The directory `D` is to be deleted under the path `D/.`. -/
def deletionByDot : Change :=
  .step (.operation (.delete (.localResource ["D%2F."]) (some ⟨some true, none, none⟩)))

/-- What a change that fails finds at each place still stands there. -/
def Change.LeavesNothing (change : Change) (disk : Disk) : Prop :=
  ∀ disk' reason, change.apply disk = .failed disk' reason →
    ∀ place, disk'.get? place = disk.get? place

/-- Directories are left of the one, and of the other the content of a file is lost. -/
theorem Change.not_leavesNothing :
    (withoutDirectory.Closed ∧ ¬ missingSource.LeavesNothing withoutDirectory) ∧
      beforeChain.Closed ∧ ¬ deletionByDot.LeavesNothing beforeChain := by
  refine ⟨⟨closed_empty.set (by decide) rfl nofun, fun h => ?_⟩, closed_beforeChain, fun h => ?_⟩
  · cases h _ _ apply_missingSource [[77]]
  · have hdeletion : deletionByDot.apply beforeChain =
        .failed (beforeChain.clear [[68]]) (.of "Invalid argument (os error 22)") := by
      decide +kernel
    cases h _ _ hdeletion [[68], [120]]

end Refactoring
