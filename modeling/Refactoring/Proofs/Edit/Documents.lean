import Refactoring.Proofs.Edit.Attempts
import Refactoring.Proofs.Edit.Events
import Refactoring.Proofs.Edit.OnDisk

/-!
# Documents that an edit leaves behind

The list of touched documents is made without a look at the disk.  Still, when an edit has been
carried out it lists those documents of the edit that are there, as long as only files are renamed
and deleted, no rename is skipped, and different URIs lead to different places.  There is one
exception: a document that was renamed or deleted is not listed any more, even if a directory was
made in its place later on.
-/

namespace Refactoring

open Disk
open DocumentEvent (last?)

/-! ## Single changes -/

/-- A rename that leaves what it finds at its target. -/
def FileOperation.Skips (disk : Disk) : FileOperation → Prop
  | .rename _ new options _ => ∃ path, new.filePath? = some path ∧ leavesTarget disk path options
  | _ => False

/-- What a rename or deletion takes away is a file.  A rename makes the directory for its target
before. -/
def FileOperation.TakesFile (disk : Disk) : FileOperation → Prop
  | .create .. => True
  | .rename old new _ _ =>
    ∀ path, new.filePath? = some path → old.IsFileOn (disk.makeParent path).1
  | .delete uri _ => uri.ExistsOn disk → uri.IsFileOn disk

/-- What is asked of a change: it moves or deletes files only, and if it is a rename it is not
skipped. -/
def Change.MovesFiles (disk : Disk) : Change → Prop
  | .step (.operation o) => ¬ o.Skips disk ∧ o.TakesFile disk
  | _ => True

/-- What a change that was carried out leaves behind. -/
structure Change.Leaves (change : Change) (disk disk' : Disk) : Prop where
  closed : disk'.Closed
  elsewhere : ∃ apart, Extends apart disk disk' ∧
    ∀ place ∈ apart, ∃ uri ∈ change.documents, uri.place? = some place
  touched : ∀ uri, last? change.events uri = some (.touched uri) → uri.ExistsOn disk'
  removed : ∀ uri, last? change.events uri = some (.removed uri) → ¬ uri.IsFileOn disk'

section

variable {disk disk' : Disk} {change : Change} {uri : Uri}

/-- A change that does nothing but to touch a document and leaves it there. -/
theorem Change.Leaves.of_touched (hdocuments : change.documents = [uri])
    (hevents : change.events = [.touched uri]) (hclosed : disk'.Closed) {apart : List Place}
    (hext : Extends apart disk disk') (hapart : ∀ place ∈ apart, uri.place? = some place)
    (hexists : uri.ExistsOn disk') : change.Leaves disk disk' where
  closed := hclosed
  elsewhere := ⟨apart, hext, fun place hplace =>
    ⟨uri, by rw [hdocuments]; exact List.mem_singleton_self uri, hapart place hplace⟩⟩
  touched := by
    intro other hlast
    rw [hevents, last?_touched] at hlast
    split at hlast
    · rename_i heq
      rw [← heq]
      exact hexists
    · cases hlast
  removed := by
    intro other hlast
    rw [hevents, last?_touched] at hlast
    split at hlast <;> cases hlast

/-- A change that writes the document, perhaps into a new directory. -/
theorem Change.Leaves.of_write (hdocuments : change.documents = [uri])
    (hevents : change.events = [.touched uri]) {disk₁ : Disk} (hclosed : disk₁.Closed)
    (hext : Extends [] disk disk₁) {path : FilePath} (hpath : uri.filePath? = some path)
    {content : List UInt8} (h : disk₁.write path content = .ok disk') :
    change.Leaves disk disk' := by
  obtain ⟨hclosed', place, hwrite, hstat⟩ := hclosed.write h
  have hplace := Uri.place?_of_locate hpath (stat_eq_ok.mp hstat).1
  refine .of_touched hdocuments hevents hclosed' ((hext.mono (List.nil_subset _)).trans hwrite) ?_
    (Uri.existsOn_of_stat hpath hstat)
  intro other hother
  rw [List.mem_singleton.mp hother]
  exact hplace

/-- Changing a text leaves the document with the new text. -/
theorem Change.Leaves.of_textEdits (hdocuments : change.documents = [uri])
    (hevents : change.events = [.touched uri]) (hclosed : disk.Closed) {path : FilePath}
    (hpath : uri.filePath? = some path) {edits : List TextEdit}
    (h : applyTextEdits disk path edits = .done disk') : change.Leaves disk disk' := by
  obtain ⟨text, changed, -, -, hwrite⟩ := applyTextEdits_eq_done.mp h
  exact .of_write hdocuments hevents hclosed (Extends.refl [] disk) hpath hwrite

/-- A creation leaves the document, be it new or old. -/
theorem Change.Leaves.of_create (hclosed : disk.Closed) {options : Option TargetOptions}
    {note : Option String} {path : FilePath} (hpath : uri.filePath? = some path)
    (h : createFile disk path options = .done disk') :
    Change.Leaves (.step (.operation (.create uri options note))) disk disk' := by
  rcases createFile_eq_done h with ⟨hleft, rfl⟩ | ⟨-, -, hwrite⟩
  · exact .of_touched rfl rfl hclosed (Extends.refl [] _) (by simp) ⟨path, hpath, hleft.1⟩
  · obtain ⟨hclosed₁, hext₁⟩ := hclosed.makeParent path
    exact .of_write rfl rfl hclosed₁ hext₁ hpath hwrite

/-- A rename of a file leaves the new document, and no old one if that was another one. -/
theorem Change.Leaves.of_rename (hclosed : disk.Closed) {old new : Uri}
    {options : Option TargetOptions} {note : Option String} {path path' : FilePath}
    (hold : old.filePath? = some path) (hnew : new.filePath? = some path')
    (hdistinct : Uri.Distinct [old, new])
    (hmoves : Change.MovesFiles disk (.step (.operation (.rename old new options note))))
    (h : renameFile disk path path' options = .done disk') :
    Change.Leaves (.step (.operation (.rename old new options note))) disk disk' := by
  obtain ⟨hskips, htakes⟩ := hmoves
  rcases renameFile_eq_done h with ⟨hleft, -⟩ | ⟨-, -, hrename⟩
  · exact absurd ⟨path', hnew, hleft⟩ hskips
  · obtain ⟨_, content, hold', hread⟩ := htakes path' hnew
    obtain rfl := Option.some.inj (hold.symm.trans hold')
    obtain ⟨hclosed₁, hext₁⟩ := hclosed.makeParent path'
    obtain ⟨hclosed', source, target, hlocate, hext, hgone, hstat⟩ :=
      hclosed₁.renameFile hread hrename
    have hsource := Uri.place?_of_locate hold hlocate
    have htarget := Uri.place?_of_locate hnew (stat_eq_ok.mp hstat).1
    have hlast (other : Uri) : last? (events (.step (.operation (.rename old new options note))))
        other = if new = other then some (.touched new)
          else if old = other then some (.removed old) else none := by
      have := last?_append [.removed old] [.touched new] other
      rw [last?_touched, last?_removed] at this
      refine this.trans ?_
      by_cases heq : new = other
      · rw [if_pos heq, if_pos heq, Option.some_or]
      · rw [if_neg heq, if_neg heq, Option.none_or]
    refine ⟨hclosed', ⟨[source, target], (hext₁.mono (List.nil_subset _)).trans hext, ?_⟩, ?_, ?_⟩
    · intro place hplace
      simp only [List.mem_cons, List.not_mem_nil, or_false] at hplace
      rcases hplace with rfl | rfl
      · exact ⟨old, by simp [documents], hsource⟩
      · exact ⟨new, by simp [documents], htarget⟩
    · intro other hother
      rw [hlast] at hother
      split at hother
      · rename_i heq
        rw [← heq]
        exact Uri.existsOn_of_stat hnew hstat
      · split at hother <;> cases hother
    · intro other hother
      rw [hlast] at hother
      split at hother
      · cases hother
      · rename_i hne
        split at hother
        · rename_i heq
          subst heq
          -- The two documents are different, and so are their places.
          have hplaces : source ≠ target := by
            rintro rfl
            exact hne (hdistinct old (by simp) new (by simp) (by simp [hsource])
              (hsource.trans htarget.symm)).symm
          exact Uri.not_isFileOn_of_get? hsource (hgone hplaces)
        · cases hother

/-- A deletion leaves no document, whether or not there was one. -/
theorem Change.Leaves.of_delete (hclosed : disk.Closed) {options : Option DeleteOptions}
    {path : FilePath} (hpath : uri.filePath? = some path)
    (hmoves : Change.MovesFiles disk (.step (.operation (.delete uri options))))
    (h : deleteFile disk path options = .done disk') :
    Change.Leaves (.step (.operation (.delete uri options))) disk disk' := by
  obtain ⟨-, htakes⟩ := hmoves
  -- It is enough to tell what changes and that no file is left.
  suffices hleft : disk'.Closed ∧ (∃ apart, Extends apart disk disk' ∧
      ∀ place ∈ apart, uri.place? = some place) ∧ ¬ uri.IsFileOn disk' by
    obtain ⟨hclosed', ⟨apart, hext, hapart⟩, hnone⟩ := hleft
    refine ⟨hclosed', ⟨apart, hext, fun place hplace => ⟨uri, by simp [documents, target],
      hapart place hplace⟩⟩, ?_, ?_⟩
    · intro other hlast
      rw [events, DocumentChange.events, last?_removed] at hlast
      split at hlast <;> cases hlast
    · intro other hlast
      rw [events, DocumentChange.events, last?_removed] at hlast
      split at hlast
      · rename_i heq
        rw [← heq]
        exact hnone
      · cases hlast
  rcases deleteFile_eq_done h with ⟨hnone, -, rfl⟩ | ⟨-, -, hremove⟩ | ⟨hdir, -⟩
  · refine ⟨hclosed, ⟨[], Extends.refl [] _, by simp⟩, ?_⟩
    rintro ⟨path', content, hpath', hread⟩
    obtain rfl := Option.some.inj (hpath.symm.trans hpath')
    obtain ⟨place, hstat⟩ := read_eq_ok.mp hread
    exact hnone (pathExists_iff.mpr ⟨place, _, hstat⟩)
  · obtain ⟨hclosed', place, hlocate, hext, hgone⟩ := hclosed.removeFile hremove
    have hplace := Uri.place?_of_locate hpath hlocate
    refine ⟨hclosed', ⟨[place], hext, ?_⟩, Uri.not_isFileOn_of_get? hplace hgone⟩
    intro other hother
    rw [List.mem_singleton.mp hother]
    exact hplace
  · have hdirectory : uri.IsDirectoryOn disk := ⟨path, hpath, hdir⟩
    obtain ⟨place, hstat⟩ := isDirectory_iff.mp hdir
    exact absurd (htakes (Uri.existsOn_of_stat hpath hstat)) hdirectory.not_isFileOn

/-- Every change that was carried out and moves files only leaves its documents as its events
say. -/
theorem Change.leaves (hclosed : disk.Closed) (hdistinct : Uri.Distinct change.documents)
    (hmoves : change.MovesFiles disk) (h : change.apply disk = .done disk') :
    change.Leaves disk disk' := by
  cases change with
  | entry uri edits =>
    obtain ⟨path, hpath, h⟩ := withPath_eq_done.mp h
    exact .of_textEdits rfl rfl hclosed hpath h
  | step change =>
    cases change with
    | edit e =>
      obtain ⟨path, hpath, h⟩ := withPath_eq_done.mp h
      exact .of_textEdits rfl rfl hclosed hpath h
    | operation o =>
      cases o with
      | create uri options note =>
        obtain ⟨path, hpath, h⟩ := withPath_eq_done.mp h
        exact .of_create hclosed hpath h
      | rename old new options note =>
        obtain ⟨path, hpath, h⟩ := withPath_eq_done.mp h
        obtain ⟨path', hpath', h⟩ := withPath_eq_done.mp h
        exact .of_rename hclosed hpath hpath' hdistinct hmoves h
      | delete uri options =>
        obtain ⟨path, hpath, h⟩ := withPath_eq_done.mp h
        exact .of_delete hclosed hpath hmoves h

/-- A document that a change touches is there after it. -/
theorem Change.last?_events_of_touched (h : .touched uri ∈ change.events) :
    last? change.events uri = some (.touched uri) := by
  cases change with
  | entry other edits =>
    obtain rfl : uri = other := by simpa [events] using h
    exact (last?_touched _ _).trans (if_pos rfl)
  | step change =>
    cases change with
    | edit e =>
      obtain rfl : uri = e.uri := by simpa [events, DocumentChange.events] using h
      exact (last?_touched _ _).trans (if_pos rfl)
    | operation o =>
      cases o with
      | create other options note =>
        obtain rfl : uri = other := by simpa [events, DocumentChange.events] using h
        exact (last?_touched _ _).trans (if_pos rfl)
      | rename old new options note =>
        obtain rfl : uri = new := by simpa [events, DocumentChange.events] using h
        refine (last?_append [.removed old] [.touched uri] uri).trans ?_
        rw [last?_touched, if_pos rfl, Option.some_or]
      | delete other options => simp [events, DocumentChange.events] at h

/-- The events of a change are about its documents. -/
theorem Change.mem_documents_iff :
    uri ∈ change.documents ↔ ∃ event ∈ change.events, event.uri = uri := by
  cases change with
  | entry other edits => simp [documents, events, target, DocumentEvent.uri, eq_comm]
  | step change =>
    cases change with
    | edit e => simp [documents, events, target, DocumentChange.events, DocumentEvent.uri, eq_comm]
    | operation o =>
      cases o <;>
        simp [documents, events, target, DocumentChange.events, DocumentEvent.uri, eq_comm]

end

/-! ## Runs -/

/-- Every change of a run moves files only, on the disk that those before it have left. -/
def OnlyMovesFiles : List Change → Disk → Prop
  | [], _ => True
  | change :: rest, disk =>
    change.MovesFiles disk ∧ ∀ next, change.apply disk = .done next → OnlyMovesFiles rest next

/-- What a disk tells about the events so far.  A document that was touched and then removed can
still be reached, but there is no file. -/
structure Tracks (disk : Disk) (seen : List DocumentEvent) : Prop where
  closed : disk.Closed
  reachable : ∀ uri, .touched uri ∈ seen → uri.ReachableOn disk
  touched : ∀ uri, last? seen uri = some (.touched uri) → uri.ExistsOn disk
  removed : ∀ uri, .touched uri ∈ seen → last? seen uri = some (.removed uri) → ¬ uri.IsFileOn disk

section

variable {uris : List Uri} {seen : List DocumentEvent} {disk disk' : Disk}

/-- A change leaves all documents that it does not name as they are. -/
theorem Change.Leaves.apart {change : Change} (h : change.Leaves disk disk')
    (hdistinct : Uri.Distinct uris) (hchange : change.documents ⊆ uris) :
    ∃ apart, Extends apart disk disk' ∧ ∀ uri ∈ uris, uri ∉ change.documents →
      ∀ place ∈ apart, uri.place? ≠ some place := by
  obtain ⟨apart, hext, hapart⟩ := h.elsewhere
  refine ⟨apart, hext, ?_⟩
  intro uri huri hout place hplace heq
  obtain ⟨other, hother, hplace'⟩ := hapart place hplace
  obtain rfl : other = uri := hdistinct other (hchange hother) uri huri (by simp [hplace'])
    (hplace'.trans heq.symm)
  exact hout hother

/-- The events of a change that was carried out join those before it. -/
theorem Tracks.step (h : Tracks disk seen) {change : Change} (hleaves : change.Leaves disk disk')
    (hdistinct : Uri.Distinct uris) (hseen : ∀ event ∈ seen, event.uri ∈ uris)
    (hchange : change.documents ⊆ uris) : Tracks disk' (seen ++ change.events) := by
  obtain ⟨apart, hext, hapart⟩ := hleaves.apart hdistinct hchange
  -- Without an event about it, a document is none of those that the change names.
  have hout (uri : Uri) (hnone : last? change.events uri = none) : uri ∉ change.documents := by
    rw [Change.mem_documents_iff]
    rintro ⟨event, hevent, huri⟩
    exact last?_eq_none_iff.mp hnone event hevent huri
  refine ⟨hleaves.closed, ?_, ?_, ?_⟩
  · intro uri huri
    rcases List.mem_append.mp huri with huri | huri
    · exact (h.reachable uri huri).extend hext
    · exact (hleaves.touched uri (Change.last?_events_of_touched huri)).reachableOn
  · intro uri hlast
    rw [last?_append] at hlast
    cases hnew : last? change.events uri with
    | some event =>
      rw [hnew, Option.some_or] at hlast
      exact hleaves.touched uri (hnew.trans hlast)
    | none =>
      rw [hnew, Option.none_or] at hlast
      have huri := hseen _ (mem_of_last? hlast).1
      exact (h.touched uri hlast).extend hext (hapart uri huri (hout uri hnew))
  · intro uri huri hlast
    rw [last?_append] at hlast
    cases hnew : last? change.events uri with
    | some event =>
      rw [hnew, Option.some_or] at hlast
      exact hleaves.removed uri (hnew.trans hlast)
    | none =>
      rw [hnew, Option.none_or] at hlast
      have hmem : .touched uri ∈ seen := by
        rcases List.mem_append.mp huri with huri | huri
        · exact huri
        · exact absurd rfl (last?_eq_none_iff.mp hnew _ huri)
      intro hfile
      exact h.removed uri hmem hlast (hfile.of_extend hext (h.reachable uri hmem)
        (hapart uri (hseen _ hmem) (hout uri hnew)))

/-- A run whose changes are all carried out keeps track of its events. -/
theorem Tracks.run {changes : List Change} {count : Nat} (h : Tracks disk seen)
    (hdistinct : Uri.Distinct uris) (hseen : ∀ event ∈ seen, event.uri ∈ uris)
    (hchanges : changes.flatMap Change.documents ⊆ uris) (hmoves : OnlyMovesFiles changes disk)
    (happlied : applyChanges changes disk = (disk', .applied count)) :
    Tracks disk' (seen ++ changes.flatMap Change.events) := by
  induction changes generalizing disk seen count with
  | nil =>
    cases happlied
    rw [List.flatMap_nil, List.append_nil]
    exact h
  | cons change rest ih =>
    obtain ⟨next, before, hdone, -, hrest⟩ := applyChanges_cons_eq_applied.mp happlied
    rw [List.flatMap_cons, List.append_subset] at hchanges
    have hleaves : change.Leaves disk next := by
      refine Change.leaves h.closed ?_ hmoves.1 hdone
      intro uri huri other hother
      exact hdistinct uri (hchanges.1 huri) other (hchanges.1 hother)
    have hnext := h.step hleaves hdistinct hseen hchanges.1
    rw [List.flatMap_cons, ← List.append_assoc]
    refine ih hnext ?_ hchanges.2 (hmoves.2 next hdone) hrest
    intro event hevent
    rcases List.mem_append.mp hevent with hevent | hevent
    · exact hseen event hevent
    · exact hchanges.1 (Change.mem_documents_iff.mpr ⟨event, hevent, rfl⟩)

end

/-- The documents that an edit names. -/
def WorkspaceEdit.documents (edit : WorkspaceEdit) : List Uri :=
  edit.allChanges.flatMap Change.documents

/-- When an edit has been carried out, the documents that it is said to have touched are those that
it names by an entry, a text edit, a creation or as the target of a rename, and that are there.
Left out are documents that were renamed or deleted last and whose place has been taken by a
directory. -/
theorem WorkspaceEdit.mem_touched_iff {edit : WorkspaceEdit} {disk disk' : Disk} {count : Nat}
    (hclosed : disk.Closed) (hdistinct : Uri.Distinct edit.documents)
    (hmoves : OnlyMovesFiles edit.allChanges disk)
    (happlied : edit.apply disk = (disk', .applied count)) (uri : Uri) :
    uri ∈ edit.touched ↔ .touched uri ∈ edit.events ∧ uri.ExistsOn disk' ∧
      ¬ (last? edit.events uri = some (.removed uri) ∧ uri.IsDirectoryOn disk') := by
  have hstart : Tracks disk [] := ⟨hclosed, by simp, by simp [last?], by simp⟩
  have htracks : Tracks disk' (edit.allChanges.flatMap Change.events) :=
    hstart.run hdistinct (by simp) (List.Subset.refl _) hmoves happlied
  rw [touched_eq_foldl, mem_foldl_record]
  constructor
  · intro hlast
    refine ⟨(mem_of_last? hlast).1, htracks.touched uri (edit.last?_events uri ▸ hlast), ?_⟩
    rintro ⟨hremoved, -⟩
    rw [hlast] at hremoved
    cases hremoved
  · rintro ⟨hmem, hexists, hnot⟩
    cases hlast : last? edit.events uri with
    | none => exact absurd rfl (last?_eq_none_iff.mp hlast _ hmem)
    | some event =>
      obtain ⟨-, rfl⟩ := mem_of_last? hlast
      cases event with
      | touched uri => rfl
      | removed uri =>
        have hfile := htracks.removed uri (mem_events.mp hmem) (edit.last?_events uri ▸ hlast)
        exact absurd ⟨hlast, hexists.isFileOn_or.resolve_left hfile⟩ hnot

/-! ## A document that became a directory -/

/-- A file `A` is renamed to `B`, and then a file is created in a directory `A`. -/
def replacement : WorkspaceEdit where
  changes := none
  documentChanges := some (.operations [
    .edit ⟨.localResource ["A"], none, []⟩,
    .operation (.rename (.localResource ["A"]) (.localResource ["B"]) none none),
    .operation (.create (.localResource ["A", "C"]) none none)])
  annotations := none

/-- A disk with the file. -/
def beforeReplacement : Disk := Disk.empty.set [[65]] (.file [])

/-- The disk after the edit. -/
def afterReplacement : Disk :=
  ⟨[([[65], [67]], .file []), ([[65]], .directory), ([[66]], .file [])]⟩

theorem closed_beforeReplacement : beforeReplacement.Closed :=
  closed_empty.set (by decide) rfl fun h => by cases h

theorem distinct_replacement : Uri.Distinct replacement.documents := by
  unfold Uri.Distinct
  decide

theorem onlyMovesFiles_replacement :
    OnlyMovesFiles replacement.allChanges beforeReplacement := by
  have hsame : Change.apply beforeReplacement (.step (.edit ⟨.localResource ["A"], none, []⟩)) =
      .done beforeReplacement := by decide +kernel
  refine ⟨trivial, fun first hfirst => ⟨⟨?_, ?_⟩, fun _ _ => ⟨⟨id, trivial⟩, fun _ _ => trivial⟩⟩⟩
  · rintro ⟨_, -, -, -, h⟩
    cases h
  · obtain rfl : first = beforeReplacement := Attempt.done.inj (hfirst.symm.trans hsame)
    intro path hpath
    obtain rfl : path = [47, 66] := Option.some.inj (hpath.symm.trans (by decide))
    exact ⟨[47, 65], [], by decide, by decide +kernel⟩

theorem apply_replacement :
    replacement.apply beforeReplacement = (afterReplacement, .applied 3) := by
  decide +kernel

/-- The renamed document is an exception indeed: it is there, but as a directory. -/
theorem mem_touched_iff_replacement :
    beforeReplacement.Closed ∧ Uri.Distinct replacement.documents ∧
      OnlyMovesFiles replacement.allChanges beforeReplacement ∧
      replacement.apply beforeReplacement = (afterReplacement, .applied 3) ∧
      ∀ uri, uri ∈ replacement.touched ↔
        .touched uri ∈ replacement.events ∧ uri.ExistsOn afterReplacement ∧
          ¬ (last? replacement.events uri = some (.removed uri) ∧
            uri.IsDirectoryOn afterReplacement) :=
  ⟨closed_beforeReplacement, distinct_replacement, onlyMovesFiles_replacement, apply_replacement,
    WorkspaceEdit.mem_touched_iff closed_beforeReplacement distinct_replacement
      onlyMovesFiles_replacement apply_replacement⟩

/-- Not all documents that an edit names and that are there after it are touched ones. -/
theorem not_forall_mem_touched_iff_existsOn :
    ¬ ∀ (edit : WorkspaceEdit) (disk disk' : Disk) (count : Nat), disk.Closed →
      Uri.Distinct edit.documents → OnlyMovesFiles edit.allChanges disk →
      edit.apply disk = (disk', .applied count) →
      ∀ uri, uri ∈ edit.touched ↔ .touched uri ∈ edit.events ∧ uri.ExistsOn disk' := by
  intro h
  have hiff := h replacement beforeReplacement afterReplacement 3 closed_beforeReplacement
    distinct_replacement onlyMovesFiles_replacement apply_replacement (.localResource ["A"])
  have htouched : replacement.touched = [.localResource ["B"], .localResource ["A", "C"]] := by
    decide +kernel
  have hexists : Uri.ExistsOn afterReplacement (.localResource ["A"]) :=
    ⟨[47, 65], by decide, by decide +kernel⟩
  have hevents : .touched (.localResource ["A"]) ∈ replacement.events := by
    rw [WorkspaceEdit.mem_events]
    decide
  rw [htouched] at hiff
  exact absurd (hiff.mpr ⟨hevents, hexists⟩) (by decide)

end Refactoring
