import Refactoring.Proofs.Disk.Routes
import Refactoring.Proofs.Edit.Outcomes
import Refactoring.Proofs.Text.Overlaps

/-!
# Documents with edits that overlap

Edits that overlap in the text of a document are not refused.  If one of them strays, the whole run
ends there, the changes behind it are not attempted, and no failure is told.  If none does, the
document is written, and one of the edits has removed some of what the next one has put there.
-/

namespace Refactoring

open Disk (FilePath)

variable {disk middle : Disk} {path : FilePath} {text : String}

/-! ## Attempts -/

/-- The document that a change edits, with its edits. -/
def Change.textEdits? : Change → Option (Uri × List TextEdit)
  | entry uri edits => some (uri, edits)
  | step (.edit e) => some (e.uri, e.edits)
  | step (.operation _) => none

theorem Change.apply_of_textEdits? {change : Change} {uri : Uri} {edits : List TextEdit}
    (h : change.textEdits? = some (uri, edits)) (hpath : uri.filePath? = some path) :
    change.apply disk = applyTextEdits disk path edits := by
  have hwith : withPath disk uri (fun path => applyTextEdits disk path edits) =
      applyTextEdits disk path edits := by
    rw [withPath, localPath, hpath]
  cases change with
  | entry uri edits =>
    cases h
    exact hwith
  | step step =>
    cases step with
    | edit e =>
      cases h
      exact hwith
    | operation o => cases h

/-- What has been read can be written. -/
theorem Disk.write_of_readText (h : disk.readText path = .ok text) (content : List UInt8) :
    disk.write path content = .ok (disk.set (placeOf path) (.file content)) := by
  obtain ⟨bytes, hread, -⟩ := bind_eq_ok.mp h
  obtain ⟨place, hstat⟩ := read_eq_ok.mp hread
  obtain ⟨hlocate, hfile, hwants⟩ := stat_eq_ok.mp hstat
  obtain ⟨above, hholder⟩ := exists_holder_of_locate hlocate
  have hwants : ¬ wantsDirectory path := fun hw => Node.noConfusion (hwants hw)
  refine bind_eq_ok.mpr ⟨above, hholder, ?_⟩
  rw [if_neg hwants]
  refine bind_eq_ok.mpr ⟨place, hlocate, ?_⟩
  rw [hfile, ← eq_placeOf_of_locate hlocate]

/-- The edits of a document that can be read either end the run or are written. -/
theorem applyTextEdits_of_readText (h : disk.readText path = .ok text) (edits : List TextEdit) :
    applyTextEdits disk path edits =
      match Text.applyEdits? edits text with
      | none => .crashed
      | some result => .done (disk.set (Disk.placeOf path) (.file (Utf8.encode result))) := by
  rw [applyTextEdits, h]
  dsimp only
  cases Text.applyEdits? edits text with
  | none => rfl
  | some result =>
    dsimp only
    rw [Disk.write_of_readText h]

/-! ## Runs -/

/-- Changes that were attempted leave the disk to those behind them. -/
theorem Attempted.fst_applyChanges_append {before : List Change} {results : List (Option Failure)}
    (h : Attempted disk before results middle) (rest : List Change) :
    (applyChanges (before ++ rest) disk).1 = (applyChanges rest middle).1 := by
  induction h with
  | nil => rfl
  | @done disk next last change changes results h _ ih =>
    have hends : (change.apply disk).Ends next := h ▸ .done next
    rw [List.cons_append, applyChanges_cons_of_ends _ hends, ih]
  | @failed disk next last change changes reason results h _ ih =>
    have hends : (change.apply disk).Ends next := h ▸ .failed next reason
    rw [List.cons_append, applyChanges_cons_of_ends _ hends, ih]

/-- If those behind them end the run, nothing is told of what came of them. -/
theorem Attempted.crashed_append {before : List Change} {results : List (Option Failure)}
    (h : Attempted disk before results middle) {rest : List Change}
    (hrest : (applyChanges rest middle).2 = .crashed) :
    (applyChanges (before ++ rest) disk).2 = .crashed := by
  induction h with
  | nil => exact hrest
  | done h _ ih =>
    rw [List.cons_append, applyChanges, h]
    dsimp only
    rw [ih hrest]
    rfl
  | failed h _ ih =>
    rw [List.cons_append, applyChanges, h]
    dsimp only
    rw [ih hrest]
    rfl

/-- Wherever an edit comes to a document with edits that overlap in its text, they are not refused.
Either one of them strays: then the run ends with the disk as it is, and neither are the changes
behind it attempted nor is any failure told.  Or none does: then the document is written, one of the
edits encroaches on another one, and the run goes on. -/
theorem WorkspaceEdit.apply_of_overlap {edit : WorkspaceEdit} {before after : List Change}
    {change : Change} {results : List (Option Failure)} {uri : Uri} {edits : List TextEdit}
    (hsplit : edit.allChanges = before ++ change :: after)
    (hbefore : Attempted disk before results middle)
    (hchange : change.textEdits? = some (uri, edits)) (hpath : uri.filePath? = some path)
    (hread : middle.readText path = .ok text) (hoverlap : Text.Overlap text.toList edits) :
    Text.Strays text.toList (Text.resolveAll text.toList edits) ∧
        change.apply middle = .crashed ∧ edit.apply disk = (middle, .crashed) ∨
      ¬ Text.Strays text.toList (Text.resolveAll text.toList edits) ∧
        Text.Encroaches text.toList edits ∧
        ∃ next content, change.apply middle = .done next ∧
          next = middle.set (Disk.placeOf path) (.file content) ∧
          content = Text.overlaid (Utf8.encode text) (Text.resolveAll text.toList edits) ∧
          (edit.apply disk).1 = (applyChanges after next).1 := by
  have happly : change.apply middle = applyTextEdits middle path edits :=
    Change.apply_of_textEdits? hchange hpath
  rw [applyTextEdits_of_readText hread] at happly
  rw [WorkspaceEdit.apply, hsplit]
  cases hresult : Text.applyEdits? edits text with
  | none =>
    rw [hresult] at happly
    have hrest := applyChanges_cons_of_crashed happly after
    refine .inl ⟨Text.applyEdits?_eq_none_iff.mp hresult, happly, Prod.ext ?_ ?_⟩
    · rw [hbefore.fst_applyChanges_append, hrest]
    · exact hbefore.crashed_append (by rw [hrest])
  | some result =>
    rw [hresult] at happly
    have hcarried : ¬ Text.Strays text.toList (Text.resolveAll text.toList edits) := by
      intro hstrays
      rw [Text.applyEdits?_eq_none_iff.mpr hstrays] at hresult
      cases hresult
    refine .inr ⟨hcarried, hoverlap.encroaches hcarried, _, _, happly, rfl,
      Text.encode_of_applyEdits? hresult, ?_⟩
    have hends : (change.apply middle).Ends
        (middle.set (Disk.placeOf path) (.file (Utf8.encode result))) := by
      rw [happly]
      exact .done _
    rw [hbefore.fst_applyChanges_append, applyChanges_cons_of_ends after hends]

/-! ## An edit within another one -/

/-- Exchanges the first four characters. -/
def outerEdit : TextEdit := ⟨⟨⟨0, 0⟩, ⟨0, 4⟩⟩, "x"⟩

/-- Removes two of them. -/
def innerEdit : TextEdit := ⟨⟨⟨0, 1⟩, ⟨0, 3⟩⟩, ""⟩

/-- A file `A` with six characters. -/
def sixCharacters : Disk := Disk.empty.set [[65]] (.file (Utf8.encode "abcdef"))

/-- A deletion that fails, the two edits of the file, and a creation. -/
def nestedEdits : WorkspaceEdit where
  changes := none
  documentChanges := some (.operations [
    .operation (.delete (.localResource ["Z"]) none),
    .edit ⟨.localResource ["A"], none, [outerEdit, innerEdit]⟩,
    .operation (.create (.localResource ["B"]) none none)])
  annotations := none

theorem allChanges_nestedEdits : nestedEdits.allChanges =
    [.step (.operation (.delete (.localResource ["Z"]) none))] ++
      .step (.edit ⟨.localResource ["A"], none, [outerEdit, innerEdit]⟩) ::
        [.step (.operation (.create (.localResource ["B"]) none none))] := rfl

theorem overlap_nestedEdits : Text.Overlap "abcdef".toList [outerEdit, innerEdit] := by
  have hresolved : [outerEdit, innerEdit].map (Text.resolve "abcdef".toList) =
      [⟨0, 4, ['x']⟩, ⟨1, 3, []⟩] := by decide +kernel
  rw [Text.Overlap, hresolved, List.pairwise_pair, not_not]
  exact Nat.lt_succ_self 1 |>.trans (Nat.lt_succ_self 2)

theorem attempted_nestedEdits : Attempted sixCharacters
    [.step (.operation (.delete (.localResource ["Z"]) none))]
    [some (.of "File does not exist")] sixCharacters :=
  .failed (by decide +kernel) (.nil _)

theorem readText_sixCharacters : sixCharacters.readText [47, 65] = .ok "abcdef" := by
  decide +kernel

/-- Only four characters are in the ranges, and the last two are gone with them. -/
theorem apply_nestedEdits : Change.apply sixCharacters
    (.step (.edit ⟨.localResource ["A"], none, [outerEdit, innerEdit]⟩)) =
      .done ⟨[([[65]], .file (Utf8.encode "x"))]⟩ := by
  have hchanged : Text.applyEdits? [outerEdit, innerEdit] "abcdef" = some "x" := by
    simp only [Text.applyEdits?, Text.resolveAll_cons]
    decide +kernel
  have hpath : Uri.filePath? (.localResource ["A"]) = some [47, 65] := by decide
  rw [Change.apply_of_textEdits? rfl hpath, applyTextEdits_of_readText readText_sixCharacters,
    hchanged]
  rfl

theorem WorkspaceEdit.apply_of_overlap_nestedEdits :
    Text.Overlap "abcdef".toList [outerEdit, innerEdit] ∧
      Text.Encroaches "abcdef".toList [outerEdit, innerEdit] ∧
      ∃ next, Change.apply sixCharacters
          (.step (.edit ⟨.localResource ["A"], none, [outerEdit, innerEdit]⟩)) = .done next ∧
        next = sixCharacters.set [[65]] (.file (Utf8.encode "x")) ∧
        (nestedEdits.apply sixCharacters).1 =
          (applyChanges [.step (.operation (.create (.localResource ["B"]) none none))] next).1 := by
  have hpath : Uri.filePath? (.localResource ["A"]) = some [47, 65] := by decide
  rcases WorkspaceEdit.apply_of_overlap allChanges_nestedEdits attempted_nestedEdits rfl hpath
    readText_sixCharacters overlap_nestedEdits with
    ⟨-, hcrashed, -⟩ | ⟨-, hencroaches, next, content, hdone, hnext, hcontent, hrest⟩
  · rw [apply_nestedEdits] at hcrashed
    cases hcrashed
  · have hresolved : Text.resolveAll "abcdef".toList [outerEdit, innerEdit] =
        [⟨0, 4, ['x']⟩, ⟨1, 3, []⟩] := by
      simp only [Text.resolveAll_cons]
      decide +kernel
    rw [hresolved] at hcontent
    obtain rfl : content = Utf8.encode "x" := hcontent.trans (by decide +kernel)
    exact ⟨overlap_nestedEdits, hencroaches, next, hdone, hnext, hrest⟩

/-- A document whose edits overlap is left as it is and told as a failure. -/
def WorkspaceEdit.RefusesOverlaps (edit : WorkspaceEdit) (disk : Disk) : Prop :=
  ∀ before change after results middle uri edits path text,
    edit.allChanges = before ++ change :: after → Attempted disk before results middle →
    change.textEdits? = some (uri, edits) → uri.filePath? = some path →
    middle.readText path = .ok text → Text.Overlap text.toList edits →
    ∃ reason, change.apply middle = .failed middle reason

theorem WorkspaceEdit.not_forall_refusesOverlaps :
    ¬ ∀ (edit : WorkspaceEdit) (disk : Disk), edit.RefusesOverlaps disk := by
  intro h
  have hpath : Uri.filePath? (.localResource ["A"]) = some [47, 65] := by decide
  obtain ⟨reason, hfailed⟩ := h nestedEdits sixCharacters _ _ _ _ _ _ _ _ _ allChanges_nestedEdits
    attempted_nestedEdits rfl hpath readText_sixCharacters overlap_nestedEdits
  cases apply_nestedEdits.symm.trans hfailed

/-- Removes all six characters. -/
def removal : TextEdit := ⟨⟨⟨0, 0⟩, ⟨0, 6⟩⟩, ""⟩

/-- They are removed twice, and nothing is left that the first removal could end in. -/
example : WorkspaceEdit.apply
    ⟨none, some (.edits [⟨.localResource ["A"], none, [removal, removal]⟩]), none⟩ sixCharacters =
      (sixCharacters, .crashed) := by
  have hstrays : Text.applyEdits? [removal, removal] "abcdef" = none := by
    simp only [Text.applyEdits?, Text.resolveAll_cons]
    decide +kernel
  have hchange : Change.apply sixCharacters
      (.step (.edit ⟨.localResource ["A"], none, [removal, removal]⟩)) = .crashed :=
    applyTextEdits_eq_crashed.mpr ⟨"abcdef", readText_sixCharacters, hstrays⟩
  exact applyChanges_cons_of_crashed hchange []

end Refactoring
