import Refactoring.Proofs.Disk.Files
import Refactoring.Proofs.Edit.Attempts

/-!
# Creations and renames keep all files

A creation or rename that must not overwrite asks first whether its target is free, then makes the
directories for it, and then writes or moves.  In any order and whether they succeed or not, such
changes keep every file with its content, as long as the paths of their targets never step back; a
file leaves its place only with a rename that moves it.  A path that steps back can come to lead to
a file only by the directories that are made on the way, and then that file is lost.
-/

namespace Refactoring

open Disk

/-! ## What is asked of a change -/

namespace Change

/-- A creation or rename that must not overwrite its target. -/
def sparesTarget : Change → Bool
  | step (.operation (.create _ options _)) => !isSet options (·.overwrite)
  | step (.operation (.rename _ _ options _)) => !isSet options (·.overwrite)
  | _ => false

/-- The path that a creation or rename brings something to. -/
def newPath? : Change → Option FilePath
  | step (.operation (.create uri _ _)) => uri.filePath?
  | step (.operation (.rename _ new _ _)) => new.filePath?
  | _ => none

/-- A rename that is carried out moves away what is at or below the place of its old path. -/
inductive Vacates (disk : Disk) : Change → Place → Prop where
  | rename {old new : Uri} {options : Option TargetOptions} {note : Option String}
      {path target : FilePath} {disk' : Disk} (hold : old.filePath? = some path)
      (hnew : new.filePath? = some target) (hfree : ¬ disk.pathExists target)
      (hdone : renameFile disk path target options = .done disk') :
      Vacates disk (step (.operation (.rename old new options note))) (placeOf path)

end Change

/-- In a run of changes a rename is carried out that moves away what is at or below a place. -/
def Vacated (changes : List Change) (disk : Disk) (top : Place) : Prop :=
  ∃ before change after, changes = before ++ change :: after ∧
    change.Vacates (applyChanges before disk).1 top

/-! ## Attempts -/

section

variable {disk next : Disk} {path : FilePath} {options : Option TargetOptions}

/-- What holds when only directories were made, and also when the operation has been carried out
after that, holds in the end. -/
theorem exists_ends_withParent {operation : Disk → Except Disk.Error Disk} {P : Disk → Prop}
    (hmade : P (disk.makeParent path).1)
    (hdone : ∀ disk', withParent disk path (fun made => .of made (operation made)) = .done disk' →
      P disk') :
    ∃ disk', (withParent disk path fun made => .of made (operation made)).Ends disk' ∧ P disk' := by
  unfold withParent at *
  generalize disk.makeParent path = outcome at *
  obtain ⟨made, made?⟩ := outcome
  cases made? with
  | error e => exact ⟨made, .failed made _, hmade⟩
  | ok =>
    cases ho : operation made with
    | error e => exact ⟨made, by simpa [Attempt.of, ho] using .failed made _, hmade⟩
    | ok disk' =>
      have hof : Attempt.of made (operation made) = .done disk' := Attempt.of_eq_done.mpr ho
      refine ⟨disk', ?_, hdone disk' hof⟩
      dsimp only
      rw [hof]
      exact .done disk'

/-- A target that is there and must not be overwritten is left as it is. -/
theorem createFile_ends_of_exists (hexists : disk.pathExists path)
    (hspares : ¬ isSet options (·.overwrite)) : (createFile disk path options).Ends disk := by
  unfold createFile
  rw [if_pos (by simp [hexists, hspares])]
  split
  · exact .done disk
  · exact .failed disk _

theorem renameFile_ends_of_exists (old : FilePath) (hexists : disk.pathExists path)
    (hspares : ¬ isSet options (·.overwrite)) : (renameFile disk old path options).Ends disk := by
  unfold renameFile
  rw [if_pos (by simp [hexists, hspares])]
  split
  · exact .done disk
  · exact .failed disk _

/-- What is not there is made in its directory. -/
theorem createFile_of_free (hfree : ¬ disk.pathExists path) : createFile disk path options =
    withParent disk path fun made => .of made (made.write path []) := by
  unfold createFile
  rw [if_neg (by simp [hfree])]

theorem renameFile_of_free (old : FilePath) (hfree : ¬ disk.pathExists path) :
    renameFile disk old path options =
      withParent disk path fun made => .of made (made.rename old path) := by
  unfold renameFile
  rw [if_neg (by simp [hfree])]

/-! ## Single changes -/

/-- Where the path of a free target leads after its directories were made, there is no file. -/
theorem no_file_at_target (hclosed : disk.Closed) (hstraight : Straight path)
    (hfree : ¬ disk.pathExists path) {place : Place}
    (hlocate : (disk.makeParent path).1.locate path = .ok place) (hwants : ¬ wantsDirectory path)
    (content : List UInt8) : (disk.makeParent path).1.get? place ≠ some (.file content) := by
  intro hfile
  exact hfree ((hclosed.makeParent path).2.pathExists_of_file hclosed hstraight hwants hlocate hfile)

/-- A creation leaves all files where they are. -/
theorem createFile_keeps (hclosed : disk.Closed) (hstraight : Straight path)
    (hspares : ¬ isSet options (·.overwrite)) : ∃ disk', (createFile disk path options).Ends disk' ∧
      disk'.Closed ∧ KeepsFiles id disk disk' := by
  by_cases hexists : disk.pathExists path
  · exact ⟨disk, createFile_ends_of_exists hexists hspares, hclosed, .refl disk⟩
  · rw [createFile_of_free hexists]
    have hmade := (hclosed.makeParent path).1
    have hkept := hclosed.makeParent_keeps path
    refine exists_ends_withParent ⟨hmade, hkept⟩ ?_
    intro disk' hdone
    have hwrite := Attempt.of_eq_done.mp (withParent_eq_done.mp hdone).2
    exact ⟨(hmade.write hwrite).1, hkept.trans (write_keeps hwrite fun _ hlocate hwants =>
      no_file_at_target hclosed hstraight hexists hlocate hwants)⟩

/-- A rename keeps all files; those that leave their places are at or below its old path, and it is
carried out. -/
theorem renameFile_keeps (hclosed : disk.Closed) (old : FilePath) (hstraight : Straight path)
    (hspares : ¬ isSet options (·.overwrite)) :
    ∃ disk', (renameFile disk old path options).Ends disk' ∧ disk'.Closed ∧
      ∃ f, KeepsFiles f disk disk' ∧ ∀ place, f place ≠ place →
        atOrBelow (placeOf old) place ∧ ¬ disk.pathExists path ∧
          renameFile disk old path options = .done disk' := by
  by_cases hexists : disk.pathExists path
  · exact ⟨disk, renameFile_ends_of_exists old hexists hspares, hclosed, id, .refl disk,
      fun _ hne => absurd rfl hne⟩
  · rw [renameFile_of_free old hexists]
    have hmade := (hclosed.makeParent path).1
    have hkept := hclosed.makeParent_keeps path
    refine exists_ends_withParent ⟨hmade, id, hkept, fun _ hne => absurd rfl hne⟩ ?_
    intro disk' hdone
    have hrename := Attempt.of_eq_done.mp (withParent_eq_done.mp hdone).2
    obtain ⟨hclosed', f, hf, hstays⟩ := hmade.rename_keeps hrename fun _ hlocate hwants =>
      no_file_at_target hclosed hstraight hexists hlocate hwants
    refine ⟨hclosed', f, hkept.trans hf, fun place hne => ⟨?_, hexists, hdone⟩⟩
    by_contra hout
    exact hne (hstays place hout)

/-- A change that must not overwrite keeps all files, and only those that it moves away leave their
places. -/
theorem Change.keeps (hclosed : disk.Closed) {change : Change} (hspares : change.sparesTarget)
    (hstraight : ∀ path ∈ change.newPath?, Straight path) :
    ∃ disk', (change.apply disk).Ends disk' ∧ disk'.Closed ∧ ∃ f, KeepsFiles f disk disk' ∧
      ∀ place, (∀ top, change.Vacates disk top → ¬ atOrBelow top place) → f place = place := by
  -- Without a path the change fails at once.
  have hnowhere : disk.Closed ∧ ∃ f, KeepsFiles f disk disk ∧
      ∀ place, (∀ top, change.Vacates disk top → ¬ atOrBelow top place) → f place = place :=
    ⟨hclosed, id, .refl disk, fun _ _ => rfl⟩
  cases change with
  | entry uri edits => cases hspares
  | step inner =>
    cases inner with
    | edit e => cases hspares
    | operation o =>
      cases o with
      | delete uri options => cases hspares
      | create uri options note =>
        rw [Change.apply, FileOperation.apply, withPath, localPath]
        cases hpath : uri.filePath? with
        | none => exact ⟨disk, .failed disk _, hnowhere⟩
        | some path =>
          obtain ⟨disk', hends, hclosed', hkeeps⟩ :=
            createFile_keeps hclosed (hstraight path hpath) (by simpa [sparesTarget] using hspares)
          exact ⟨disk', hends, hclosed', id, hkeeps, fun _ _ => rfl⟩
      | rename old new options note =>
        rw [Change.apply, FileOperation.apply, withPath, localPath]
        cases hold : old.filePath? with
        | none => exact ⟨disk, .failed disk _, hnowhere⟩
        | some path =>
          dsimp only
          rw [withPath, localPath]
          cases hnew : new.filePath? with
          | none => exact ⟨disk, .failed disk _, hnowhere⟩
          | some target =>
            obtain ⟨disk', hends, hclosed', f, hkeeps, hmoved⟩ :=
              renameFile_keeps hclosed path (hstraight target hnew)
                (by simpa [sparesTarget] using hspares)
            refine ⟨disk', hends, hclosed', f, hkeeps, fun place hplace => ?_⟩
            by_contra hne
            obtain ⟨hbelow, hfree, hdone⟩ := hmoved place hne
            exact hplace _ (.rename hold hnew hfree hdone) hbelow

/-! ## Runs -/

/-- What the first change moves away is moved away in the run. -/
theorem Vacated.of_first {change : Change} {top : Place} (rest : List Change)
    (h : change.Vacates disk top) : Vacated (change :: rest) disk top :=
  ⟨[], change, rest, rfl, h⟩

theorem Vacated.of_rest {change : Change} {rest : List Change} {top : Place}
    (hends : (change.apply disk).Ends next) (h : Vacated rest next top) :
    Vacated (change :: rest) disk top := by
  obtain ⟨before, later, after, rfl, hvacates⟩ := h
  refine ⟨change :: before, later, after, rfl, ?_⟩
  rwa [applyChanges_cons_of_ends before hends]

/-- A run of changes that must not overwrite keeps all files. -/
theorem applyChanges_keeps {changes : List Change} (hclosed : disk.Closed)
    (hspares : ∀ change ∈ changes, change.sparesTarget)
    (hstraight : ∀ change ∈ changes, ∀ path ∈ change.newPath?, Straight path) :
    ∃ f, KeepsFiles f disk (applyChanges changes disk).1 ∧
      ∀ place, (∀ top, Vacated changes disk top → ¬ atOrBelow top place) → f place = place := by
  induction changes generalizing disk with
  | nil => exact ⟨id, .refl disk, fun _ _ => rfl⟩
  | cons change rest ih =>
    rw [List.forall_mem_cons] at hspares hstraight
    obtain ⟨next, hends, hnext, f, hf, hstays⟩ := Change.keeps hclosed hspares.1 hstraight.1
    obtain ⟨g, hg, hrest⟩ := ih hnext hspares.2 hstraight.2
    rw [applyChanges_cons_of_ends rest hends]
    refine ⟨g ∘ f, hf.trans hg, fun place hplace => ?_⟩
    have hfirst : f place = place :=
      hstays place fun top htop => hplace top (.of_first rest htop)
    rw [Function.comp_apply, hfirst]
    exact hrest place fun top htop => hplace top (.of_rest hends htop)

end

/-- **Creations and renames lose no file.**  However many of the changes of an edit fail, if they
are creations and renames that must not overwrite and their targets have straight paths, then every
file is found afterwards with its content, different files at different places, and a file has left
its place only if a rename was carried out from there or from above. -/
theorem WorkspaceEdit.exists_keepsFiles {edit : WorkspaceEdit} {disk : Disk}
    (hclosed : disk.Closed) (hspares : ∀ change ∈ edit.allChanges, change.sparesTarget)
    (hstraight : ∀ change ∈ edit.allChanges, ∀ path ∈ change.newPath?, Straight path) :
    ∃ f, KeepsFiles f disk (edit.apply disk).1 ∧ ∀ place,
      (∀ top, Vacated edit.allChanges disk top → ¬ atOrBelow top place) → f place = place :=
  applyChanges_keeps hclosed hspares hstraight

/-! ## Renames in a chain -/

/-- Two files `A` and `C`, and a file `x` in a directory `D`. -/
def beforeChain : Disk :=
  ((((Disk.empty.set [[65]] (.file [97])).set [[67]] (.file [99])).set [[68]] .directory).set
    [[68], [120]] (.file [120]))

/-- `A` makes way for `C`, the directory becomes `E`, which cannot move below itself, and what is
created in it is already there. -/
def chain : WorkspaceEdit where
  changes := none
  documentChanges := some (.operations [
    .operation (.rename (.localResource ["A"]) (.localResource ["B"]) none none),
    .operation (.rename (.localResource ["C"]) (.localResource ["A"]) none none),
    .operation (.rename (.localResource ["D"]) (.localResource ["E"]) none none),
    .operation (.rename (.localResource ["E"]) (.localResource ["E", "F"]) none none),
    .operation (.create (.localResource ["E", "x"]) (some ⟨none, some true⟩) none)])
  annotations := none

theorem closed_beforeChain : beforeChain.Closed := by
  have h₁ : (Disk.empty.set [[65]] (.file [97])).Closed := closed_empty.set (by decide) rfl nofun
  have h₂ : ((Disk.empty.set [[65]] (.file [97])).set [[67]] (.file [99])).Closed :=
    h₁.set (by decide) rfl nofun
  have h₃ : (((Disk.empty.set [[65]] (.file [97])).set [[67]] (.file [99])).set [[68]]
    .directory).Closed := h₂.set (by decide) rfl fun _ => rfl
  exact h₃.set (by decide) rfl nofun

theorem WorkspaceEdit.exists_keepsFiles_chain :
    beforeChain.Closed ∧ (∀ change ∈ chain.allChanges, change.sparesTarget) ∧
      (∀ change ∈ chain.allChanges, ∀ path ∈ change.newPath?, Straight path) ∧
      ∃ f, KeepsFiles f beforeChain (chain.apply beforeChain).1 ∧ ∀ place,
        (∀ top, Vacated chain.allChanges beforeChain top → ¬ atOrBelow top place) →
          f place = place := by
  have hspares : ∀ change ∈ chain.allChanges, change.sparesTarget := by decide
  have hstraight : ∀ change ∈ chain.allChanges, ∀ path ∈ change.newPath?, Straight path := by
    decide
  exact ⟨closed_beforeChain, hspares, hstraight,
    WorkspaceEdit.exists_keepsFiles closed_beforeChain hspares hstraight⟩

/-! ## A target behind a directory that is missing -/

/-- A file is created at a path that leads to a directory `M` and back. -/
def creationThroughMissing : WorkspaceEdit where
  changes := none
  documentChanges := some (.operations [
    .operation (.create (.localResource ["M", "..%2FA"]) none none)])
  annotations := none

/-- A disk with a file `A` and no directory `M`. -/
def withoutDirectory : Disk := Disk.empty.set [[65]] (.file [97])

/-- While the directory is missing the path leads nowhere, and once it is made the path leads to
the file, which is lost. -/
theorem not_forall_exists_keepsFiles : ¬ ∀ (edit : WorkspaceEdit) (disk : Disk), disk.Closed →
    (∀ change ∈ edit.allChanges, change.sparesTarget) →
    ∃ f, KeepsFiles f disk (edit.apply disk).1 := by
  intro h
  have hclosed : withoutDirectory.Closed := closed_empty.set (by decide) rfl nofun
  have happly : creationThroughMissing.apply withoutDirectory =
      (⟨[([[65]], .file []), ([[77]], .directory)]⟩, .applied 1) := by decide +kernel
  obtain ⟨f, hkeeps⟩ := h creationThroughMissing withoutDirectory hclosed (by decide)
  have hbefore : withoutDirectory.get? [[65]] = some (.file [97]) := rfl
  have hfile := hkeeps.content hbefore
  rw [happly] at hfile
  by_cases hroot : f [[65]] = []
  · rw [hroot] at hfile
    cases hfile
  · rw [get?_of_ne_nil hroot] at hfile
    obtain ⟨before, after, hentries, -⟩ := List.lookup_eq_some_iff.mp hfile
    have hmem : (f [[65]], Node.file [97]) ∈ before ++ (f [[65]], Node.file [97]) :: after := by
      simp
    rw [← hentries] at hmem
    simp at hmem

end Refactoring
