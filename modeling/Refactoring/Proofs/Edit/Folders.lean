import Refactoring.Proofs.Disk.Routes
import Refactoring.Proofs.Edit.Attempts
import Refactoring.Proofs.Edit.Events
import Refactoring.Proofs.Edit.OnDisk

/-!
# Documents in directories that go

The list of touched documents goes by whole URIs, but a directory goes with all that is in it.  So
the documents that an edit lists are all there at every stage if and only if no rename or deletion
takes away anything on the route to a document that is still listed after it.
-/

namespace Refactoring

open Disk
open DocumentEvent (record)

variable {disk disk' next : Disk} {change : Change} {uri : Uri} {listed : List Uri}

/-! ## What changes take away -/

/-- What a change takes away from a disk: a rename that is not skipped what departs, and a deletion
of something that is there what it removes. -/
def Change.Takes (disk : Disk) : Change → Place → Prop
  | .step (.operation (.rename old new options _)), place =>
    ∃ path path', old.filePath? = some path ∧ new.filePath? = some path' ∧
      ¬ leavesTarget disk path' options ∧ Departs path path' place
  | .step (.operation (.delete uri _)), place =>
    ∃ path, uri.filePath? = some path ∧ disk.pathExists path ∧ disk.Removes path place
  | _, _ => False

/-- Nothing is taken away on the route to a document. -/
def Change.Spares (change : Change) (disk : Disk) (uri : Uri) : Prop :=
  ∀ path, uri.filePath? = some path → ∀ stop ∈ routeOf path, ¬ change.Takes disk stop

/-- What a change that was carried out leaves of a disk, and that it leaves the documents there that
it touches, unless it takes them away itself. -/
structure Change.Does (change : Change) (disk next : Disk) : Prop where
  takesAway : TakesAway (change.Takes disk) disk next
  touched : ∀ {uri}, .touched uri ∈ change.events → change.Spares disk uri → uri.ExistsOn next

/-- A deletion that succeeds takes away what stands at or below its place, if there was anything. -/
theorem deleteFile_takesAway (hclosed : disk.Closed) {options : Option DeleteOptions}
    {path : FilePath} (h : deleteFile disk path options = .done next) :
    ¬ disk.pathExists path ∧ isSet options (·.ignoreIfNotExists) ∧ next = disk ∨
      disk.pathExists path ∧ TakesAway (disk.Removes path) disk next := by
  rcases deleteFile_eq_done h with hnone | ⟨hexists, -, hremove⟩ | ⟨hdir, hremove⟩
  · exact .inl hnone
  · exact .inr ⟨hexists, hclosed.removeFile_takesAway hremove⟩
  · obtain ⟨place, hstat⟩ := isDirectory_iff.mp hdir
    refine .inr ⟨pathExists_iff.mpr ⟨place, _, hstat⟩, ?_⟩
    rcases hremove with ⟨-, hremove⟩ | ⟨-, hremove⟩
    · exact hclosed.removeAll_takesAway hremove
    · exact hclosed.removeDirectory_takesAway hremove

namespace Change.Does

/-- A change that takes nothing away and leaves the one document there that it is about. -/
theorem of_stays (hevents : change.events = [.touched uri])
    (hnone : ∀ place, ¬ change.Takes disk place) (hclosed : next.Closed)
    (hstays : ∀ place, Stays disk next place) (hexists : uri.ExistsOn next) :
    change.Does disk next where
  takesAway := .of_stays hclosed hstays hnone
  touched {other} hother _ := by
    rw [hevents, List.mem_singleton] at hother
    rw [DocumentEvent.touched.inj hother]
    exact hexists

/-- A change that writes the document, perhaps into a new directory. -/
theorem of_write (hevents : change.events = [.touched uri])
    (hnone : ∀ place, ¬ change.Takes disk place) {middle : Disk} (hclosed : middle.Closed)
    (hext : Extends [] disk middle) {path : FilePath} (hpath : uri.filePath? = some path)
    {content : List UInt8} (h : middle.write path content = .ok next) : change.Does disk next := by
  obtain ⟨hclosed', place, -, hstat⟩ := hclosed.write h
  exact .of_stays hevents hnone hclosed'
    (fun place => (Stays.of_extends hext place).trans (write_stays h place))
    (Uri.existsOn_of_stat hpath hstat)

theorem of_textEdits (hevents : change.events = [.touched uri])
    (hnone : ∀ place, ¬ change.Takes disk place) (hclosed : disk.Closed) {path : FilePath}
    (hpath : uri.filePath? = some path) {edits : List TextEdit}
    (h : applyTextEdits disk path edits = .done next) : change.Does disk next := by
  obtain ⟨text, changed, -, -, hwrite⟩ := applyTextEdits_eq_done.mp h
  exact .of_write hevents hnone hclosed (Extends.refl [] disk) hpath hwrite

theorem of_create (hclosed : disk.Closed) {options : Option TargetOptions} {note : Option String}
    {path : FilePath} (hpath : uri.filePath? = some path)
    (h : createFile disk path options = .done next) :
    Change.Does (.step (.operation (.create uri options note))) disk next := by
  rcases createFile_eq_done h with ⟨hleft, rfl⟩ | ⟨-, -, hwrite⟩
  · exact .of_stays rfl (fun _ => id) hclosed (fun _ => .of_get? rfl) ⟨path, hpath, hleft.1⟩
  · obtain ⟨hclosed', hext⟩ := hclosed.makeParent path
    exact .of_write rfl (fun _ => id) hclosed' hext hpath hwrite

/-- A rename of anything leaves the new document, unless the route to it has moved as well. -/
theorem of_rename (hclosed : disk.Closed) {old new : Uri} {options : Option TargetOptions}
    {note : Option String} {path path' : FilePath} (hold : old.filePath? = some path)
    (hnew : new.filePath? = some path') (h : renameFile disk path path' options = .done next) :
    Change.Does (.step (.operation (.rename old new options note))) disk next := by
  have htouched {other : Uri} (hother : .touched other ∈
      Change.events (.step (.operation (.rename old new options note)))) : other = new := by
    simpa [Change.events, DocumentChange.events] using hother
  rcases renameFile_eq_done h with ⟨hleft, rfl⟩ | ⟨hgo, -, hrename⟩
  · refine ⟨.of_stays hclosed (fun _ => .of_get? rfl) ?_, fun hother _ => ?_⟩
    · rintro place ⟨_, other, -, hother, hskips, -⟩
      obtain rfl := Option.some.inj (hnew.symm.trans hother)
      exact hskips hleft
    · rw [htouched hother]
      exact ⟨path', hnew, hleft.1⟩
  · obtain ⟨hclosed', hext⟩ := hclosed.makeParent path'
    obtain ⟨htakes, hexists⟩ := hclosed'.rename_takesAway hrename
    have hiff (place : Place) :
        Change.Takes disk (.step (.operation (.rename old new options note))) place ↔
          Departs path path' place := by
      constructor
      · rintro ⟨first, second, hfirst, hsecond, -, hdeparts⟩
        obtain rfl := Option.some.inj (hold.symm.trans hfirst)
        obtain rfl := Option.some.inj (hnew.symm.trans hsecond)
        exact hdeparts
      · exact fun hdeparts => ⟨path, path', hold, hnew, fun hleft => hleft.2.1 (hgo hleft.1),
          hdeparts⟩
    refine ⟨(htakes.after hext).congr hiff, fun hother hspares => ?_⟩
    rw [htouched hother] at hspares ⊢
    exact ⟨path', hnew, hexists fun stop hstop hdeparts =>
      hspares path' hnew stop hstop ((hiff stop).mpr hdeparts)⟩

theorem of_delete (hclosed : disk.Closed) {options : Option DeleteOptions} {path : FilePath}
    (hpath : uri.filePath? = some path) (h : deleteFile disk path options = .done next) :
    Change.Does (.step (.operation (.delete uri options))) disk next := by
  have htaken {place : Place}
      (h : Change.Takes disk (.step (.operation (.delete uri options))) place) :
      disk.pathExists path ∧ disk.Removes path place := by
    obtain ⟨other, hother, htaken⟩ := h
    obtain rfl := Option.some.inj (hpath.symm.trans hother)
    exact htaken
  refine ⟨?_, fun hother => by simp [Change.events, DocumentChange.events] at hother⟩
  rcases deleteFile_takesAway hclosed h with ⟨hnone, -, rfl⟩ | ⟨hexists, htakes⟩
  · exact .of_stays hclosed (fun _ => .of_get? rfl) fun place htakes => hnone (htaken htakes).1
  · exact htakes.congr fun place =>
      ⟨fun htakes => (htaken htakes).2, fun hremoves => ⟨path, hpath, hexists, hremoves⟩⟩

end Change.Does

/-- Every change that is carried out takes away what it is said to, and nothing else. -/
theorem Change.does (hclosed : disk.Closed) (h : change.apply disk = .done next) :
    change.Does disk next := by
  cases change with
  | entry uri edits =>
    obtain ⟨path, hpath, h⟩ := withPath_eq_done.mp h
    exact .of_textEdits rfl (fun _ => id) hclosed hpath h
  | step change =>
    cases change with
    | edit e =>
      obtain ⟨path, hpath, h⟩ := withPath_eq_done.mp h
      exact .of_textEdits rfl (fun _ => id) hclosed hpath h
    | operation o =>
      cases o with
      | create uri options note =>
        obtain ⟨path, hpath, h⟩ := withPath_eq_done.mp h
        exact .of_create hclosed hpath h
      | rename old new options note =>
        obtain ⟨path, hpath, h⟩ := withPath_eq_done.mp h
        obtain ⟨path', hpath', h⟩ := withPath_eq_done.mp h
        exact .of_rename hclosed hpath hpath' h
      | delete uri options =>
        obtain ⟨path, hpath, h⟩ := withPath_eq_done.mp h
        exact .of_delete hclosed hpath h

/-! ## Lists of documents -/

/-- All documents of a list are there. -/
def Stand (disk : Disk) (listed : List Uri) : Prop := ∀ uri ∈ listed, uri.ExistsOn disk

/-- No change that is carried out takes away anything on the route to a document that is listed
after it. -/
def SpareListed : List Change → Disk → List Uri → Prop
  | [], _, _ => True
  | change :: rest, disk, listed => ∀ next, change.apply disk = .done next →
      (∀ uri ∈ change.events.foldl record listed, change.Spares disk uri) ∧
        SpareListed rest next (change.events.foldl record listed)

/-- All documents that are listed are there, at first and after every change that is carried
out. -/
def StandThroughout : List Change → Disk → List Uri → Prop
  | [], disk, listed => Stand disk listed
  | change :: rest, disk, listed => Stand disk listed ∧ ∀ next, change.apply disk = .done next →
      StandThroughout rest next (change.events.foldl record listed)

/-- A document is listed because it has been touched or was listed before. -/
theorem touched_or_mem_of_mem_foldl {events : List DocumentEvent}
    (h : uri ∈ events.foldl record listed) : .touched uri ∈ events ∨ uri ∈ listed := by
  induction events generalizing listed with
  | nil => exact .inr h
  | cons event events ih =>
    rcases ih h with hmem | hmem
    · exact .inl (List.mem_cons_of_mem _ hmem)
    · cases event with
      | touched other =>
        rcases mem_touch.mp hmem with rfl | hmem
        · exact .inl List.mem_cons_self
        · exact .inr hmem
      | removed other => exact .inr (mem_forget.mp hmem).1

/-- After a change all listed documents are there if and only if it has spared them. -/
theorem Change.Does.stand_iff (h : change.Does disk next) (hstand : Stand disk listed) :
    Stand next (change.events.foldl record listed) ↔
      ∀ uri ∈ change.events.foldl record listed, change.Spares disk uri := by
  refine forall₂_congr fun uri huri => ⟨?_, fun hspares => ?_⟩
  · rintro ⟨path, hpath, hexists⟩ path' hpath'
    obtain rfl := Option.some.inj (hpath.symm.trans hpath')
    exact h.takesAway.not_taken hexists
  · rcases touched_or_mem_of_mem_foldl huri with htouched | hlisted
    · exact h.touched htouched hspares
    · obtain ⟨path, hpath, hexists⟩ := hstand uri hlisted
      exact ⟨path, hpath, (h.takesAway.pathExists_iff hexists).mpr (hspares path hpath)⟩

theorem StandThroughout.stand {changes : List Change} (h : StandThroughout changes disk listed) :
    Stand disk listed := by
  cases changes with
  | nil => exact h
  | cons change rest => exact h.1

/-- All listed documents are there at every stage if and only if every change spares those that are
listed after it. -/
theorem standThroughout_iff {changes : List Change} (hclosed : disk.Closed)
    (hstand : Stand disk listed) :
    StandThroughout changes disk listed ↔ SpareListed changes disk listed := by
  induction changes generalizing disk listed with
  | nil => exact iff_of_true hstand trivial
  | cons change rest ih =>
    have hstep {next : Disk} (hdone : change.apply disk = .done next) :=
      (Change.does hclosed hdone).stand_iff hstand
    constructor
    · rintro ⟨-, hrest⟩ next hdone
      have hnext := (hrest next hdone).stand
      exact ⟨(hstep hdone).mp hnext,
        (ih (Change.does hclosed hdone).takesAway.closed hnext).mp (hrest next hdone)⟩
    · intro h
      refine ⟨hstand, fun next hdone => ?_⟩
      obtain ⟨hspares, hrest⟩ := h next hdone
      exact (ih (Change.does hclosed hdone).takesAway.closed ((hstep hdone).mpr hspares)).mpr hrest

/-- What is there at every stage is there in the end. -/
theorem StandThroughout.run {changes : List Change} {count : Nat}
    (h : StandThroughout changes disk listed)
    (happlied : applyChanges changes disk = (disk', .applied count)) :
    Stand disk' ((changes.flatMap Change.events).foldl record listed) := by
  induction changes generalizing disk listed count with
  | nil =>
    cases happlied
    exact h
  | cons change rest ih =>
    obtain ⟨next, before, hdone, -, hrest⟩ := applyChanges_cons_eq_applied.mp happlied
    rw [List.flatMap_cons, List.foldl_append]
    exact ih (h.2 next hdone) hrest

/-- When an edit is carried out, the documents that are listed as touched are there at every stage
if and only if no rename and no deletion takes away anything on the route to a document that is
still listed after it.  In this case all documents that the edit is said to have touched are there
in the end. -/
theorem WorkspaceEdit.touched_stand {edit : WorkspaceEdit} {count : Nat} (hclosed : disk.Closed)
    (happlied : edit.apply disk = (disk', .applied count)) :
    (StandThroughout edit.allChanges disk [] ↔ SpareListed edit.allChanges disk []) ∧
      (SpareListed edit.allChanges disk [] → ∀ uri ∈ edit.touched, uri.ExistsOn disk') := by
  have hiff : StandThroughout edit.allChanges disk [] ↔ SpareListed edit.allChanges disk [] :=
    standThroughout_iff hclosed (by simp [Stand])
  refine ⟨hiff, fun hspare uri huri => ?_⟩
  refine (hiff.mpr hspare).run happlied uri ?_
  rw [touched_eq_foldl, mem_foldl_record, edit.last?_events] at huri
  exact mem_foldl_record.mpr huri

/-! ## A directory that is deleted -/

/-- A directory `A` with a file `F`. -/
def withDirectory : Disk := (Disk.empty.set [[65]] .directory).set [[65], [70]] (.file [])

/-- The text of `A/F` is changed, and then `A` is deleted after some operations. -/
def deletionAfter (operations : List FileOperation) : WorkspaceEdit where
  changes := none
  documentChanges := some (.operations (.edit ⟨.localResource ["A", "F"], none, []⟩ ::
    operations.map .operation ++
      [.operation (.delete (.localResource ["A"]) (some ⟨some true, none, none⟩))]))
  annotations := none

/-- The file is moved to `B/F`. -/
def movedOut : List FileOperation :=
  [.rename (.localResource ["A", "F"]) (.localResource ["B", "F"]) none none]

/-- A disk with the file in its new place only. -/
def withMovedOut : Disk := ⟨[([[66], [70]], .file []), ([[66]], .directory)]⟩

theorem closed_withDirectory : withDirectory.Closed := by
  refine Closed.set (closed_empty.set (by decide) rfl fun _ => rfl) (by decide) (by decide) ?_
  intro h
  cases h

theorem apply_deletionAfter_movedOut :
    (deletionAfter movedOut).apply withDirectory = (withMovedOut, .applied 3) := by decide +kernel

theorem spareListed_movedOut :
    SpareListed (deletionAfter movedOut).allChanges withDirectory [] := by
  -- After the rename and after the deletion the file is listed in its new place.
  have hspares {change : Change} {disk : Disk} {listed : List Uri}
      (hlisted : change.events.foldl record listed = [.localResource ["B", "F"]])
      (hnone : ∀ stop ∈ routeOf [47, 66, 47, 70], ¬ change.Takes disk stop) :
      ∀ uri ∈ change.events.foldl record listed, change.Spares disk uri := by
    rw [hlisted, List.forall_mem_singleton]
    intro path hpath
    obtain rfl : path = [47, 66, 47, 70] := Option.some.inj (hpath.symm.trans (by decide))
    exact hnone
  refine fun _ _ => ⟨fun _ _ _ _ _ _ => id, fun _ _ => ⟨hspares (by decide) ?_, fun _ _ =>
    ⟨hspares (by decide) ?_, trivial⟩⟩⟩
  · rintro stop hstop ⟨path, _, hpath, -, -, -, hbelow⟩
    obtain rfl : path = [47, 65, 47, 70] := Option.some.inj (hpath.symm.trans (by decide))
    revert stop
    decide
  · rintro stop hstop ⟨path, hpath, -, hbelow, -⟩
    obtain rfl : path = [47, 65] := Option.some.inj (hpath.symm.trans (by decide))
    revert stop
    decide

/-- A document that has left the directory is still listed, and it is there. -/
theorem WorkspaceEdit.touched_stand_movedOut :
    withDirectory.Closed ∧
      (deletionAfter movedOut).apply withDirectory = (withMovedOut, .applied 3) ∧
      (deletionAfter movedOut).touched = [.localResource ["B", "F"]] ∧
      StandThroughout (deletionAfter movedOut).allChanges withDirectory [] ∧
      ∀ uri ∈ (deletionAfter movedOut).touched, uri.ExistsOn withMovedOut := by
  obtain ⟨hiff, hexist⟩ :=
    WorkspaceEdit.touched_stand closed_withDirectory apply_deletionAfter_movedOut
  exact ⟨closed_withDirectory, apply_deletionAfter_movedOut, by decide +kernel,
    hiff.mpr spareListed_movedOut, hexist spareListed_movedOut⟩

/-- A document that has gone with its directory is still listed, though nothing is there. -/
theorem touched_deletionAfter_nil :
    withDirectory.Closed ∧ Uri.IsDirectoryOn withDirectory (.localResource ["A"]) ∧
      (deletionAfter []).apply withDirectory = (Disk.empty, .applied 2) ∧
      .localResource ["A", "F"] ∈ (deletionAfter []).touched ∧
      ¬ Uri.ExistsOn Disk.empty (.localResource ["A", "F"]) := by
  have htouched : (deletionAfter []).touched = [.localResource ["A", "F"]] := by decide +kernel
  refine ⟨closed_withDirectory, ⟨[47, 65], by decide, by decide⟩, by decide +kernel, ?_, ?_⟩
  · rw [htouched]
    exact List.mem_singleton_self _
  · rintro ⟨path, hpath, hexists⟩
    obtain rfl : path = [47, 65, 47, 70] := Option.some.inj (hpath.symm.trans (by decide))
    revert hexists
    decide

end Refactoring
