import Refactoring.Edit.Apply

/-!
# What carried out a change

When an attempt succeeds, something on the disk has succeeded, or there was nothing to do.  For each
change it is told which of them.
-/

namespace Refactoring

open Disk (FilePath)

variable {disk disk' next : Disk}

/-- An attempt that leaves a disk, be it carried out or not. -/
inductive Attempt.Ends : Attempt → Disk → Prop where
  | done (disk : Disk) : Ends (.done disk) disk
  | failed (disk : Disk) (reason : Failure) : Ends (.failed disk reason) disk

/-! ## Steps of an attempt -/

theorem withPath_eq_done {uri : Uri} {attempt : FilePath → Attempt} :
    withPath disk uri attempt = .done disk' ↔
      ∃ path, uri.filePath? = some path ∧ attempt path = .done disk' := by
  unfold withPath localPath
  cases uri.filePath? with
  | none => simp
  | some path => simp

theorem withParent_eq_done {path : FilePath} {attempt : Disk → Attempt} :
    withParent disk path attempt = .done disk' ↔
      (disk.makeParent path).2 = .ok () ∧ attempt (disk.makeParent path).1 = .done disk' := by
  unfold withParent
  obtain ⟨disk₁, outcome⟩ := disk.makeParent path
  cases outcome with
  | ok => simp
  | error e => simp

theorem Attempt.of_eq_done {outcome : Except Disk.Error Disk} :
    Attempt.of disk outcome = .done disk' ↔ outcome = .ok disk' := by
  cases outcome with
  | ok disk₁ => simp [Attempt.of]
  | error e => simp [Attempt.of]

/-! ## Changes -/

/-- The text of a file is changed by reading and writing it. -/
theorem applyTextEdits_eq_done {path : FilePath} {edits : List TextEdit} :
    applyTextEdits disk path edits = .done disk' ↔ ∃ text changed,
      disk.readText path = .ok text ∧ Text.applyEdits? edits text = some changed ∧
        disk.write path (Utf8.encode changed) = .ok disk' := by
  unfold applyTextEdits
  cases disk.readText path with
  | error e => simp
  | ok text =>
    cases hchanged : Text.applyEdits? edits text with
    | none => simp [hchanged]
    | some changed =>
      cases hwrite : disk.write path (Utf8.encode changed) <;> simp [hchanged, hwrite]

/-- The edits of a file crash exactly if it can be read and they do not fit its text. -/
theorem applyTextEdits_eq_crashed {path : FilePath} {edits : List TextEdit} :
    applyTextEdits disk path edits = .crashed ↔
      ∃ text, disk.readText path = .ok text ∧ Text.applyEdits? edits text = none := by
  unfold applyTextEdits
  cases disk.readText path with
  | error e => simp
  | ok text =>
    cases hchanged : Text.applyEdits? edits text with
    | none => simp [hchanged]
    | some changed =>
      cases hwrite : disk.write path (Utf8.encode changed) <;> simp [hchanged, hwrite]

/-- A creation or rename has nothing to do if its target is there and is to be left. -/
def leavesTarget (disk : Disk) (path : FilePath) (options : Option TargetOptions) : Prop :=
  disk.pathExists path ∧ ¬ isSet options (·.overwrite) ∧ isSet options (·.ignoreIfExists)

/-- A file is created behind its directory. -/
theorem createFile_eq_done {path : FilePath} {options : Option TargetOptions}
    (h : createFile disk path options = .done disk') :
    leavesTarget disk path options ∧ disk' = disk ∨
      (disk.pathExists path → isSet options (·.overwrite)) ∧
        (disk.makeParent path).2 = .ok () ∧
          (disk.makeParent path).1.write path [] = .ok disk' := by
  unfold createFile at h
  split at h
  · rename_i hleft
    rw [Bool.and_eq_true, Bool.not_eq_true'] at hleft
    split at h
    · rename_i hignore
      cases h
      exact .inl ⟨⟨hleft.1, by simp [hleft.2], hignore⟩, rfl⟩
    · cases h
  · rename_i hgo
    rw [withParent_eq_done, Attempt.of_eq_done] at h
    exact .inr ⟨fun hexists => by simpa [hexists] using hgo, h⟩

/-- A move comes after the directory for its target. -/
theorem renameFile_eq_done {old new : FilePath} {options : Option TargetOptions}
    (h : renameFile disk old new options = .done disk') :
    leavesTarget disk new options ∧ disk' = disk ∨
      (disk.pathExists new → isSet options (·.overwrite)) ∧
        (disk.makeParent new).2 = .ok () ∧
          (disk.makeParent new).1.rename old new = .ok disk' := by
  unfold renameFile at h
  split at h
  · rename_i hleft
    rw [Bool.and_eq_true, Bool.not_eq_true'] at hleft
    split at h
    · rename_i hignore
      cases h
      exact .inl ⟨⟨hleft.1, by simp [hleft.2], hignore⟩, rfl⟩
    · cases h
  · rename_i hgo
    rw [withParent_eq_done, Attempt.of_eq_done] at h
    exact .inr ⟨fun hexists => by simpa [hexists] using hgo, h⟩

/-- A deletion has nothing to do, takes away a file, or takes away a directory. -/
theorem deleteFile_eq_done {path : FilePath} {options : Option DeleteOptions}
    (h : deleteFile disk path options = .done disk') :
    ¬ disk.pathExists path ∧ isSet options (·.ignoreIfNotExists) ∧ disk' = disk ∨
      disk.pathExists path ∧ ¬ disk.isDirectory path ∧ disk.removeFile path = .ok disk' ∨
        disk.isDirectory path ∧
          (isSet options (·.recursive) ∧ disk.removeAll path = (disk', .ok ()) ∨
            ¬ isSet options (·.recursive) ∧ disk.removeDirectory path = .ok disk') := by
  unfold deleteFile at h
  split at h
  · rename_i hexists
    rw [Bool.not_eq_true'] at hexists
    split at h
    · rename_i hignore
      cases h
      exact .inl ⟨by simp [hexists], hignore, rfl⟩
    · cases h
  · rename_i hexists
    rw [Bool.not_eq_true', Bool.not_eq_false] at hexists
    split at h
    · rename_i hdir
      refine .inr (.inr ⟨hdir, ?_⟩)
      split at h
      · rename_i hrecursive
        split at h
        · rename_i removed hremoved
          cases h
          exact .inl ⟨hrecursive, hremoved⟩
        · cases h
      · rename_i hrecursive
        exact .inr ⟨hrecursive, Attempt.of_eq_done.mp h⟩
    · rename_i hdir
      exact .inr (.inl ⟨hexists, hdir, Attempt.of_eq_done.mp h⟩)

/-! ## Runs -/

/-- Behind a change that crashes nothing is attempted. -/
theorem applyChanges_cons_of_crashed {change : Change} (h : change.apply disk = .crashed)
    (rest : List Change) : applyChanges (change :: rest) disk = (disk, .crashed) := by
  rw [applyChanges, h]

/-- Further changes go on with the disk that an attempt has left. -/
theorem applyChanges_cons_of_ends {change : Change} (rest : List Change)
    (h : (change.apply disk).Ends next) :
    (applyChanges (change :: rest) disk).1 = (applyChanges rest next).1 := by
  rw [applyChanges]
  cases hc : change.apply disk with
  | done other =>
    rw [hc] at h
    cases h
    rfl
  | failed other reason =>
    rw [hc] at h
    cases h
    rfl
  | crashed =>
    rw [hc] at h
    cases h

/-- Changes were all carried out if the first one was and the others were after it. -/
theorem applyChanges_cons_eq_applied {change : Change} {rest : List Change} {count : Nat} :
    applyChanges (change :: rest) disk = (disk', .applied count) ↔
      ∃ next before, change.apply disk = .done next ∧ count = before + 1 ∧
        applyChanges rest next = (disk', .applied before) := by
  rw [applyChanges]
  cases change.apply disk with
  | done next =>
    dsimp only
    constructor
    · intro h
      cases hrest : applyChanges rest next with
      | mk last report =>
        rw [hrest] at h
        cases report with
        | applied before =>
          cases h
          exact ⟨next, before, rfl, rfl, hrest⟩
        | failed failures => cases h
        | crashed => cases h
    · rintro ⟨_, before, hnext, rfl, hrest⟩
      cases hnext
      rw [hrest]
      rfl
  | failed next reason =>
    cases hrest : applyChanges rest next with
    | mk last report => cases report <;> simp [Report.addFailure, hrest]
  | crashed => simp

end Refactoring
