import Refactoring.Proofs.Edit.Attempts
import Refactoring.Proofs.Text.Splices

/-!
# Every change is attempted

The changes of an edit are attempted one after the other, each on the disk that the ones before have
left, whether they were carried out or not; the report counts them if all were carried out, and else
it lists those that have failed.  This takes that the edits of a document keep apart in its text: if
one of two edits with the same start replaces text and comes first, the other one can spoil its end,
and then nothing more is attempted.
-/

namespace Refactoring

variable {disk next last : Disk} {change : Change} {changes rest : List Change}

/-! ## What is attempted and what is told -/

/-- These changes were attempted one after the other, and this came of them: a change was carried
out, or it has failed for a reason.  Each was attempted on the disk that the ones before have
left. -/
inductive Attempted : Disk → List Change → List (Option Failure) → Disk → Prop
  | nil (disk : Disk) : Attempted disk [] [] disk
  | done {disk next last : Disk} {change : Change} {changes : List Change}
      {results : List (Option Failure)} (h : change.apply disk = .done next)
      (hrest : Attempted next changes results last) :
      Attempted disk (change :: changes) (none :: results) last
  | failed {disk next last : Disk} {change : Change} {changes : List Change} {reason : Failure}
      {results : List (Option Failure)} (h : change.apply disk = .failed next reason)
      (hrest : Attempted next changes results last) :
      Attempted disk (change :: changes) (some reason :: results) last

/-- The changes that have failed, each by its target, with the reasons. -/
def failures (changes : List Change) (results : List (Option Failure)) : List (Uri × Failure) :=
  (changes.zip results).filterMap fun (change, result) => result.map (change.target, ·)

/-- A report tells what came of changes: how many there were if all of them were carried out, and
else which of them have failed. -/
structure Report.Tells (report : Report) (changes : List Change)
    (results : List (Option Failure)) : Prop where
  applied_iff : (∃ count, report = .applied count) ↔ ∀ result ∈ results, result = none
  count : ∀ count, report = .applied count → count = changes.length
  failed : (∃ result ∈ results, result ≠ none) → report = .failed (failures changes results)

/-- All entries of an edit and then all its steps are attempted, and the report tells what came of
them. -/
def WorkspaceEdit.AttemptsAll (edit : WorkspaceEdit) (disk : Disk) : Prop :=
  ∃ results,
    Attempted disk (edit.entries.map (fun entry => .entry entry.1 entry.2) ++ edit.steps.map .step)
      results (edit.apply disk).1 ∧
    (edit.apply disk).2.Tells edit.allChanges results

/-- The report of a run in which these changes have failed. -/
def Report.ofFailures (count : Nat) : List (Uri × Failure) → Report
  | [] => .applied count
  | failure :: failures => .failed (failure :: failures)

@[simp] theorem failures_cons_none (results : List (Option Failure)) :
    failures (change :: changes) (none :: results) = failures changes results := rfl

@[simp] theorem failures_cons_some (reason : Failure) (results : List (Option Failure)) :
    failures (change :: changes) (some reason :: results) =
      (change.target, reason) :: failures changes results := rfl

/-- A run gives what came of its changes. -/
theorem applyChanges_of_attempted {results : List (Option Failure)}
    (h : Attempted disk changes results last) :
    applyChanges changes disk = (last, .ofFailures changes.length (failures changes results)) := by
  induction h with
  | nil => rfl
  | @done disk next last change changes results h _ ih =>
    rw [applyChanges, h]
    dsimp only
    rw [ih, failures_cons_none]
    cases failures changes results <;> rfl
  | @failed disk next last change changes reason results h _ ih =>
    rw [applyChanges, h]
    dsimp only
    rw [ih, failures_cons_some]
    cases failures changes results <;> rfl

theorem failures_eq_nil_iff {results : List (Option Failure)}
    (h : Attempted disk changes results last) :
    failures changes results = [] ↔ ∀ result ∈ results, result = none := by
  induction h with
  | nil => simp [failures]
  | done _ _ ih =>
    rw [failures_cons_none, ih, List.forall_mem_cons]
    exact (and_iff_right rfl).symm
  | failed =>
    rw [failures_cons_some, List.forall_mem_cons]
    constructor
    · intro h
      cases h
    · rintro ⟨h, -⟩
      cases h

/-- What came of changes is told as it is. -/
theorem tells_of_attempted {results : List (Option Failure)}
    (h : Attempted disk changes results last) :
    (applyChanges changes disk).2.Tells changes results := by
  have hnone := failures_eq_nil_iff h
  rw [applyChanges_of_attempted h]
  cases hfailures : failures changes results with
  | nil =>
    have hall := hnone.mp hfailures
    constructor
    · exact ⟨fun _ => hall, fun _ => ⟨_, rfl⟩⟩
    · rintro count ⟨⟩
      rfl
    · rintro ⟨result, hresult, hfailed⟩
      exact absurd (hall result hresult) hfailed
  | cons failure others =>
    constructor
    · constructor
      · rintro ⟨count, ⟨⟩⟩
      · intro hall
        rw [hnone.mpr hall] at hfailures
        cases hfailures
    · rintro count ⟨⟩
    · intro _
      rw [hfailures]
      rfl

/-! ## Attempts that end -/

/-- The text edits of a change. -/
def Change.edits : Change → List TextEdit
  | entry _ edits => edits
  | step (.edit e) => e.edits
  | step (.operation _) => []

/-- The edits of a change keep apart in the text that they are for. -/
def Change.KeepsApart (change : Change) (disk : Disk) : Prop :=
  ∀ path text, change.target.filePath? = some path → disk.readText path = .ok text →
    Text.Apart text.toList change.edits

theorem exists_ends_withPath {uri : Uri} {attempt : Disk.FilePath → Attempt}
    (h : ∀ path, uri.filePath? = some path → ∃ next, (attempt path).Ends next) :
    ∃ next, (withPath disk uri attempt).Ends next := by
  unfold withPath localPath
  cases hpath : uri.filePath? with
  | none => exact ⟨disk, .failed disk _⟩
  | some path => exact h path hpath

theorem exists_ends_of (outcome : Except Disk.Error Disk) :
    ∃ next, (Attempt.of disk outcome).Ends next := by
  cases outcome with
  | ok disk' => exact ⟨disk', .done disk'⟩
  | error e => exact ⟨disk, .failed disk _⟩

theorem exists_ends_withParent_of (path : Disk.FilePath)
    (operation : Disk → Except Disk.Error Disk) :
    ∃ next, (withParent disk path fun made => .of made (operation made)).Ends next := by
  unfold withParent
  split
  · exact exists_ends_of _
  · exact ⟨_, .failed _ _⟩

theorem exists_ends_applyTextEdits {path : Disk.FilePath} {edits : List TextEdit}
    (h : ∀ text, disk.readText path = .ok text → Text.Apart text.toList edits) :
    ∃ next, (applyTextEdits disk path edits).Ends next := by
  unfold applyTextEdits
  cases hread : disk.readText path with
  | error e => exact ⟨disk, .failed disk _⟩
  | ok text =>
    obtain ⟨result, -, hresult⟩ := Text.applyEdits?_of_apart (h text hread)
    dsimp only
    rw [hresult]
    dsimp only
    split
    · exact ⟨_, .done _⟩
    · exact ⟨disk, .failed disk _⟩

theorem exists_ends_operation (operation : FileOperation) :
    ∃ next, (operation.apply disk).Ends next := by
  cases operation with
  | create uri options note =>
    refine exists_ends_withPath fun path _ => ?_
    unfold createFile
    split
    · split
      · exact ⟨disk, .done disk⟩
      · exact ⟨disk, .failed disk _⟩
    · exact exists_ends_withParent_of path _
  | rename old new options note =>
    refine exists_ends_withPath fun old _ => exists_ends_withPath fun new _ => ?_
    unfold renameFile
    split
    · split
      · exact ⟨disk, .done disk⟩
      · exact ⟨disk, .failed disk _⟩
    · exact exists_ends_withParent_of new _
  | delete uri options =>
    refine exists_ends_withPath fun path _ => ?_
    unfold deleteFile
    split
    · split
      · exact ⟨disk, .done disk⟩
      · exact ⟨disk, .failed disk _⟩
    · split
      · split
        · split
          · exact ⟨_, .done _⟩
          · exact ⟨_, .failed _ _⟩
        · exact exists_ends_of _
      · exact exists_ends_of _

/-- A change ends if its edits keep apart. -/
theorem Change.KeepsApart.exists_ends (h : change.KeepsApart disk) :
    ∃ next, (change.apply disk).Ends next := by
  cases change with
  | entry uri edits =>
    exact exists_ends_withPath fun path hpath => exists_ends_applyTextEdits fun text => h path text hpath
  | step step =>
    cases step with
    | edit edit =>
      exact exists_ends_withPath fun path hpath =>
        exists_ends_applyTextEdits fun text => h path text hpath
    | operation operation => exact exists_ends_operation operation

/-! ## Runs -/

/-- In a run of changes, the edits of each of them keep apart in the text that they meet. -/
def KeepApart (changes : List Change) (disk : Disk) : Prop :=
  ∀ before change after, changes = before ++ change :: after →
    change.KeepsApart (applyChanges before disk).1

theorem KeepApart.first (h : KeepApart (change :: rest) disk) : change.KeepsApart disk :=
  h [] change rest rfl

theorem KeepApart.after_first (h : KeepApart (change :: rest) disk)
    (hends : (change.apply disk).Ends next) : KeepApart rest next := by
  rintro before other after rfl
  rw [← applyChanges_cons_of_ends before hends]
  exact h (change :: before) other after rfl

theorem KeepApart.cons (hfirst : change.KeepsApart disk)
    (hrest : ∀ next, (change.apply disk).Ends next → KeepApart rest next) :
    KeepApart (change :: rest) disk := by
  intro before other after hsplit
  cases before with
  | nil =>
    cases hsplit
    exact hfirst
  | cons first before =>
    cases hsplit
    obtain ⟨next, hends⟩ := hfirst.exists_ends
    rw [applyChanges_cons_of_ends before hends]
    exact hrest next hends before other after rfl

/-- A run in which edits keep apart gets to its end. -/
theorem exists_attempted (h : KeepApart changes disk) :
    ∃ results last, Attempted disk changes results last := by
  induction changes generalizing disk with
  | nil => exact ⟨[], disk, .nil disk⟩
  | cons change rest ih =>
    obtain ⟨next, hends⟩ := h.first.exists_ends
    obtain ⟨results, last, hrest⟩ := ih (h.after_first hends)
    cases hresult : change.apply disk with
    | done other =>
      rw [hresult] at hends
      cases hends
      exact ⟨none :: results, last, .done hresult hrest⟩
    | failed other reason =>
      rw [hresult] at hends
      cases hends
      exact ⟨some reason :: results, last, .failed hresult hrest⟩
    | crashed =>
      rw [hresult] at hends
      cases hends

/-- If the edits of each document keep apart in its text, all changes of an edit are attempted,
however many of them fail; it counts as applied exactly if none does, and else exactly those that
have failed are told in their order. -/
theorem WorkspaceEdit.attemptsAll_of_keepApart {edit : WorkspaceEdit} {disk : Disk}
    (h : KeepApart edit.allChanges disk) : edit.AttemptsAll disk := by
  obtain ⟨results, last, hattempted⟩ := exists_attempted h
  refine ⟨results, ?_, tells_of_attempted hattempted⟩
  rw [WorkspaceEdit.apply, applyChanges_of_attempted hattempted]
  exact hattempted

/-! ## Edits with the same start -/

/-- Two edits share no character: one of them ends before the other starts, or there. -/
def TextEdit.ShareNothing (a b : TextEdit) : Prop :=
  a.range.stop ≤ b.range.start ∨ b.range.stop ≤ a.range.start

/-- Puts a character of two bytes in front. -/
def insertion : TextEdit := ⟨⟨⟨0, 0⟩, ⟨0, 0⟩⟩, "é"⟩

/-- Exchanges the first character. -/
def exchange : TextEdit := ⟨⟨⟨0, 0⟩, ⟨0, 1⟩⟩, "x"⟩

/-- A file `A` with the text `abc`. -/
def beforeEdits : Disk := Disk.empty.set [[65]] (.file [97, 98, 99])

/-- Edits of the file, a deletion that fails, a rename, and an edit under the new name. -/
def insertionFirst : WorkspaceEdit where
  changes := some [(.localResource ["A"], [insertion, exchange])]
  documentChanges := some (.operations [
    .operation (.delete (.localResource ["Z"]) none),
    .operation (.rename (.localResource ["A"]) (.localResource ["B"]) none none),
    .edit ⟨.localResource ["B"], none, [insertion]⟩])
  annotations := none

/-- The same edits of the file the other way round. -/
def exchangeFirst : WorkspaceEdit where
  changes := some [(.localResource ["A"], [exchange, insertion])]
  documentChanges := none
  annotations := none

theorem readText_beforeEdits : beforeEdits.readText [47, 65] = .ok "abc" := by decide +kernel

theorem keepApart_insertionFirst : KeepApart insertionFirst.allChanges beforeEdits := by
  refine .cons ?_ fun _ _ => .cons ?_ fun _ _ => .cons ?_ fun _ _ => .cons ?_ fun _ _ => ?_
  · intro path text hpath hread
    obtain rfl : path = [47, 65] := Option.some.inj (hpath.symm.trans (by decide))
    obtain rfl : text = "abc" := Except.ok.inj (hread.symm.trans readText_beforeEdits)
    have hresolved : Text.resolveAll "abc".toList [insertion, exchange] =
        [⟨0, 0, ['é']⟩, ⟨0, 1, ['x']⟩] := by
      simp only [Text.resolveAll_cons]
      decide +kernel
    have hapart : Text.Apart "abc".toList [insertion, exchange] := by
      rw [Text.Apart, hresolved]
      decide
    exact hapart
  · exact fun _ text _ _ => Text.apart_nil text.toList
  · exact fun _ text _ _ => Text.apart_nil text.toList
  · exact fun _ text _ _ => Text.apart_singleton text.toList insertion
  · rintro before change after hsplit
    cases before <;> cases hsplit

theorem applyEdits?_insertionFirst :
    Text.applyEdits? [insertion, exchange] "abc" = some "éxbc" := by
  simp only [Text.applyEdits?, Text.resolveAll_cons]
  decide +kernel

theorem WorkspaceEdit.attemptsAll_of_keepApart_insertionFirst :
    KeepApart insertionFirst.allChanges beforeEdits ∧ insertionFirst.AttemptsAll beforeEdits :=
  ⟨keepApart_insertionFirst, WorkspaceEdit.attemptsAll_of_keepApart keepApart_insertionFirst⟩

/-- The failure is told, and the changes behind it are carried out. -/
example : insertionFirst.apply beforeEdits =
    (⟨[([[66]], .file (Utf8.encode "ééxbc"))]⟩,
      .failed [(.localResource ["Z"], .of "File does not exist")]) := by
  have hchange : Change.apply beforeEdits (.entry (.localResource ["A"]) [insertion, exchange]) =
      .done ⟨[([[65]], .file (Utf8.encode "éxbc"))]⟩ :=
    applyTextEdits_eq_done.mpr
      ⟨"abc", "éxbc", readText_beforeEdits, applyEdits?_insertionFirst, by decide +kernel⟩
  have hall : insertionFirst.allChanges = .entry (.localResource ["A"]) [insertion, exchange] ::
      insertionFirst.steps.map .step := rfl
  rw [WorkspaceEdit.apply, hall, applyChanges, hchange]
  decide +kernel

theorem WorkspaceEdit.AttemptsAll.ne_crashed {edit : WorkspaceEdit} (h : edit.AttemptsAll disk) :
    (edit.apply disk).2 ≠ .crashed := by
  obtain ⟨results, -, htells⟩ := h
  intro hcrashed
  by_cases hall : ∀ result ∈ results, result = none
  · obtain ⟨count, hcount⟩ := htells.applied_iff.mpr hall
    cases hcrashed.symm.trans hcount
  · simp only [not_forall, exists_prop] at hall
    cases hcrashed.symm.trans (htells.failed hall)

theorem applyEdits?_exchangeFirst : Text.applyEdits? [exchange, insertion] "abc" = none := by
  simp only [Text.applyEdits?, Text.resolveAll_cons]
  decide +kernel

theorem crashed_exchangeFirst : (exchangeFirst.apply beforeEdits).2 = .crashed := by
  have hchange : Change.apply beforeEdits (.entry (.localResource ["A"]) [exchange, insertion]) =
      .crashed := applyTextEdits_eq_crashed.mpr ⟨"abc", readText_beforeEdits, applyEdits?_exchangeFirst⟩
  exact congrArg Prod.snd (applyChanges_cons_of_crashed hchange [])

/-- That edits share no character is not enough: the insertion is carried out first, and then the
exchange ends within the character that was put in. -/
theorem WorkspaceEdit.not_forall_attemptsAll : ¬ ∀ (edit : WorkspaceEdit) (disk : Disk),
    (∀ change ∈ edit.allChanges, change.edits.Pairwise TextEdit.ShareNothing) →
    edit.AttemptsAll disk := by
  intro h
  have hshare : TextEdit.ShareNothing exchange insertion := .inr (.inr ⟨rfl, Nat.le_refl 0⟩)
  refine (h exchangeFirst beforeEdits fun change hchange => ?_).ne_crashed crashed_exchangeFirst
  obtain rfl : change = .entry (.localResource ["A"]) [exchange, insertion] :=
    List.mem_singleton.mp hchange
  exact List.pairwise_pair.mpr hshare

end Refactoring
