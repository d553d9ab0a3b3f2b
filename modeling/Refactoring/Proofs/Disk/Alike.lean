import Refactoring.Proofs.Disk.Files
import Refactoring.Proofs.Disk.Leftovers

/-!
# Trees that hold the same

The entries of a tree stand in some order, and what counts is only what stands at each place.  An
operation does not tell apart two trees that hold the same everywhere: it fails on both with the
same error, or leaves trees that hold the same again.  Where paths lead does not even depend on what
is written in files.
-/

namespace Refactoring.Disk

/-- Two trees hold the same at every place. -/
def Alike (disk disk' : Disk) : Prop := ∀ place, disk.get? place = disk'.get? place

/-- Two trees hold the same, except that files at some places may differ in their contents. -/
def AlikeApart (apart : List Place) (disk disk' : Disk) : Prop :=
  ∀ place, disk.get? place = disk'.get? place ∨ place ∈ apart ∧
    ∃ content content', disk.get? place = some (.file content) ∧
      disk'.get? place = some (.file content')

variable {disk disk' : Disk} {path : FilePath}

/-! ## Where paths lead -/

namespace AlikeApart

variable {apart : List Place}

theorem follow (h : AlikeApart apart disk disk') (place : Place) (names : List Name) :
    disk.follow place names = disk'.follow place names := by
  induction names generalizing place with
  | nil => rfl
  | cons name rest ih =>
    rw [Disk.follow, Disk.follow, ih, ih, ih]
    rcases h place with heq | ⟨-, content, content', hfile, hfile'⟩
    · rw [heq]
    · rw [hfile, hfile']

theorem locate (h : AlikeApart apart disk disk') (path : FilePath) :
    disk.locate path = disk'.locate path := by
  simp only [Disk.locate, h.follow]

theorem holder (h : AlikeApart apart disk disk') (path : FilePath) :
    disk.holder path = disk'.holder path := by
  rw [Disk.holder, Disk.holder]
  simp only [h.follow]
  refine bind_congr fun found => bind_congr fun place => ?_
  rcases h place with heq | ⟨-, content, content', hfile, hfile'⟩
  · rw [heq]
  · rw [hfile, hfile']

/-- A path to another place leads to the same in both trees. -/
theorem stat (h : AlikeApart apart disk disk') (hpath : placeOf path ∉ apart) :
    disk.stat path = disk'.stat path := by
  rw [Disk.stat, Disk.stat, h.locate]
  cases hlocate : disk'.locate path with
  | error e => rfl
  | ok place =>
    rw [ok_bind, ok_bind]
    rcases h place with heq | ⟨hmem, -⟩
    · rw [heq]
    · exact absurd (eq_placeOf_of_locate hlocate ▸ hmem) hpath

theorem readText (h : AlikeApart apart disk disk') (hpath : placeOf path ∉ apart) :
    disk.readText path = disk'.readText path := by
  rw [Disk.readText, Disk.readText, Disk.read, Disk.read, h.stat hpath]

/-- A file may be written anew at one of the places. -/
theorem of_set {place : Place} {content : List UInt8}
    (hfile : disk.get? place = some (.file content)) (content' : List UInt8) :
    AlikeApart [place] disk (disk.set place (.file content')) := by
  intro other
  rw [get?_set (ne_nil_of_file hfile)]
  by_cases heq : other = place
  · subst heq
    exact .inr ⟨List.mem_singleton_self other, content, content', hfile, if_pos rfl⟩
  · exact .inl (if_neg heq).symm

end AlikeApart

namespace Alike

theorem refl (disk : Disk) : Alike disk disk := fun _ => rfl

theorem symm (h : Alike disk disk') : Alike disk' disk := fun place => (h place).symm

theorem trans {other : Disk} (h : Alike disk disk') (h' : Alike disk' other) : Alike disk other :=
  fun place => (h place).trans (h' place)

theorem get? (h : Alike disk disk') (place : Place) : disk.get? place = disk'.get? place := h place

theorem apart (h : Alike disk disk') : AlikeApart [] disk disk' := fun place => .inl (h place)

theorem locate (h : Alike disk disk') (path : FilePath) : disk.locate path = disk'.locate path :=
  h.apart.locate path

theorem holder (h : Alike disk disk') (path : FilePath) : disk.holder path = disk'.holder path :=
  h.apart.holder path

theorem stat (h : Alike disk disk') (path : FilePath) : disk.stat path = disk'.stat path :=
  h.apart.stat List.not_mem_nil

theorem readText (h : Alike disk disk') (path : FilePath) :
    disk.readText path = disk'.readText path :=
  h.apart.readText List.not_mem_nil

theorem pathExists (h : Alike disk disk') (path : FilePath) :
    disk.pathExists path = disk'.pathExists path := by
  rw [Disk.pathExists, Disk.pathExists, h.stat]

theorem isDirectory (h : Alike disk disk') (path : FilePath) :
    disk.isDirectory path = disk'.isDirectory path := by
  rw [Disk.isDirectory, Disk.isDirectory, h.stat]

end Alike

/-- Something lies strictly below a place exactly if it stands at a place there. -/
theorem hasChildren_iff {place : Place} : disk.hasChildren place ↔
    ∃ other, atOrBelow place other ∧ other ≠ place ∧ disk.get? other ≠ none := by
  rw [hasChildren, List.any_eq_true]
  constructor
  · rintro ⟨⟨other, node⟩, hmem, hbelow⟩
    rw [Bool.and_eq_true, decide_eq_true_eq] at hbelow
    have hne : other ≠ [] := by
      rintro rfl
      obtain ⟨rest, hrest⟩ := atOrBelow_iff.mp hbelow.1
      exact hbelow.2 (List.append_eq_nil_iff.mp hrest.symm).1.symm
    refine ⟨other, hbelow.1, hbelow.2, fun hnone => ?_⟩
    rw [get?_of_ne_nil hne, List.lookup_eq_none_iff] at hnone
    exact absurd rfl (bne_iff_ne.mp (hnone _ hmem))
  · rintro ⟨other, hbelow, hne, hsome⟩
    obtain ⟨rest, rfl⟩ := atOrBelow_iff.mp hbelow
    rw [← List.any_eq_true]
    by_contra hnone
    exact hsome (get?_append_of_not_hasChildren (by simpa using hne) hnone)

namespace Alike

theorem hasChildren (h : Alike disk disk') (place : Place) :
    disk.hasChildren place = disk'.hasChildren place := by
  rw [Bool.eq_iff_iff, hasChildren_iff, hasChildren_iff]
  simp only [h.get?]

/-! ## Changes to trees -/

theorem set (h : Alike disk disk') {place : Place} (hplace : place ≠ []) (node : Node) :
    Alike (disk.set place node) (disk'.set place node) := by
  intro other
  rw [get?_set hplace, get?_set hplace, h.get?]

/-- It does not matter which of two places is set first. -/
theorem set_swap {place place' : Place} (hplace : place ≠ []) (hplace' : place' ≠ [])
    (hne : place ≠ place') (disk : Disk) (node node' : Node) :
    Alike ((disk.set place node).set place' node') ((disk.set place' node').set place node) := by
  intro other
  rw [get?_set hplace', get?_set hplace, get?_set hplace, get?_set hplace']
  by_cases heq : other = place
  · have hother : other ≠ place' := by rwa [heq]
    rw [if_neg hother, if_pos heq, if_pos heq]
  · rw [if_neg heq, if_neg heq]

theorem cut (h : Alike disk disk') (top : Place) : Alike (disk.cut top) (disk'.cut top) := by
  intro place
  by_cases hnil : place = []
  · rw [hnil, get?_nil, get?_nil]
  · rw [get?_cut top hnil, get?_cut top hnil, h.get?]

theorem clear (h : Alike disk disk') (top : Place) : Alike (disk.clear top) (disk'.clear top) := by
  intro place
  by_cases hnil : place = []
  · rw [hnil, get?_nil, get?_nil]
  · rw [get?_clear top hnil, get?_clear top hnil, h.get?]

theorem graft (h : Alike disk disk') {source : Place} (hsource : source ≠ []) (target : Place) :
    Alike (disk.graft source target) (disk'.graft source target) := by
  intro place
  by_cases hnil : place = []
  · rw [hnil, get?_nil, get?_nil]
  · rw [get?_graft hsource hnil, get?_graft hsource hnil, h.get?, h.get?]

end Alike

/-! ## Operations -/

/-- Two operations come out alike: they leave trees that hold the same, or fail with the same
error. -/
inductive SameOutcome : Except Error Disk → Except Error Disk → Prop where
  | ok {disk disk' : Disk} (h : Alike disk disk') : SameOutcome (.ok disk) (.ok disk')
  | error (e : Error) : SameOutcome (.error e) (.error e)

namespace SameOutcome

theorem cases {outcome outcome' : Except Error Disk} (h : SameOutcome outcome outcome') :
    (∃ left left', outcome = .ok left ∧ outcome' = .ok left' ∧ Alike left left') ∨
      ∃ e, outcome = .error e ∧ outcome' = .error e := by
  cases h with
  | ok h => exact .inl ⟨_, _, rfl, rfl, h⟩
  | error e => exact .inr ⟨e, rfl, rfl⟩

theorem bind {α : Type} {first : Except Error α} {next next' : α → Except Error Disk}
    (h : ∀ value, first = .ok value → SameOutcome (next value) (next' value)) :
    SameOutcome (first >>= next) (first >>= next') := by
  cases first with
  | error e => exact .error e
  | ok value => exact h value rfl

theorem guard {fails : Prop} [Decidable fails] {e : Error} {β : Type}
    {never never' : β → Except Error Disk} {next next' : Except Error Disk}
    (h : ¬ fails → SameOutcome next next') :
    SameOutcome (if fails then throw e >>= never else next)
      (if fails then throw e >>= never' else next') := by
  split
  · exact .error e
  · rename_i hpassed
    exact h hpassed

end SameOutcome

namespace Alike

theorem write (h : Alike disk disk') (path : FilePath) (content : List UInt8) :
    SameOutcome (disk.write path content) (disk'.write path content) := by
  rw [Disk.write, Disk.write]
  simp only [h.holder, h.locate]
  refine .bind fun above _ => .guard fun _ => .bind fun place _ => ?_
  rw [h.get?]
  split
  · exact .error _
  · rename_i hnode
    exact .ok (h.set (ne_nil_of_not_directory hnode) _)

theorem make (h : Alike disk disk') (path : FilePath) :
    SameOutcome (disk.make path) (disk'.make path) := by
  rw [Disk.make, Disk.make]
  simp only [h.locate]
  refine .bind fun place _ => ?_
  rw [h.get?]
  split
  · exact .error _
  · rename_i hnone
    exact .ok (h.set (ne_nil_of_none hnone) _)

theorem rename (h : Alike disk disk') (old new : FilePath) :
    SameOutcome (disk.rename old new) (disk'.rename old new) := by
  rw [Disk.rename, Disk.rename]
  simp only [h.holder, h.locate, h.get?, h.hasChildren]
  refine .guard fun _ => .bind fun _ _ => .bind fun _ _ => .guard fun _ => .bind fun source _ => ?_
  split
  · refine .bind fun target _ => .guard fun _ => .guard fun hbelow => .guard fun _ => ?_
    by_cases heq : source = target
    · rw [if_pos heq, if_pos heq]
      exact .ok h
    · rw [if_neg heq, if_neg heq]
      have hsource : source ≠ [] := by
        rintro rfl
        exact hbelow ⟨rfl, heq⟩
      have hgraft := h.graft hsource target
      split
      · exact .error _
      · exact .error _
      · exact .guard fun _ => .ok hgraft
      · exact .ok hgraft
  · exact .error _

theorem removeFile (h : Alike disk disk') (path : FilePath) :
    SameOutcome (disk.removeFile path) (disk'.removeFile path) := by
  rw [Disk.removeFile, Disk.removeFile, h.stat]
  refine .bind fun found _ => ?_
  split
  · exact .ok (h.cut _)
  · exact .error _

theorem removeDirectory (h : Alike disk disk') (path : FilePath) :
    SameOutcome (disk.removeDirectory path) (disk'.removeDirectory path) := by
  rw [Disk.removeDirectory, Disk.removeDirectory]
  simp only [h.holder, h.stat, h.hasChildren]
  refine .bind fun above _ => ?_
  split
  · exact .error _
  · refine .guard fun _ => .guard fun _ => .bind fun found _ => ?_
    split
    · exact .error _
    · exact .guard fun _ => .ok (h.cut _)

end Alike

/-! ## Operations that leave something behind -/

/-- Two operations that may leave something behind when they fail come out alike. -/
def SameLeft (left left' : Disk × Except Error Unit) : Prop :=
  Alike left.1 left'.1 ∧ left.2 = left'.2

namespace Alike

theorem makeAfter (h : Alike disk disk') (path : FilePath)
    {above above' : Disk × Except Error Unit} (habove : SameLeft above above') :
    SameLeft (disk.makeAfter path above) (disk'.makeAfter path above') := by
  rcases (h.make path).cases with ⟨made, made', hm, hm', hmade⟩ | ⟨e, hm, hm'⟩
  · rw [makeAfter_of_ok above hm, makeAfter_of_ok above' hm']
    exact ⟨hmade, rfl⟩
  by_cases he : e = .noEntry
  · subst he
    obtain ⟨middle, result⟩ := above
    obtain ⟨middle', result'⟩ := above'
    have hmiddle : Alike middle middle' := habove.1
    obtain rfl : result = result' := habove.2
    unfold Disk.makeAfter
    rw [hm, hm']
    cases result with
    | error e => exact ⟨hmiddle, rfl⟩
    | ok =>
      dsimp only
      rcases (hmiddle.make path).cases with ⟨made, made', hm, hm', hmade⟩ | ⟨e, hm, hm'⟩
      · rw [hm, hm']
        exact ⟨hmade, rfl⟩
      · rw [hm, hm', hmiddle.isDirectory]
        exact ⟨hmiddle, rfl⟩
  · rw [makeAfter_of_error above hm he, makeAfter_of_error above' hm' he, h.isDirectory]
    exact ⟨h, rfl⟩

theorem makeUp (h : Alike disk disk') (pieces : List Name) :
    SameLeft (disk.makeUp pieces) (disk'.makeUp pieces) := by
  induction pieces with
  | nil => exact ⟨h, rfl⟩
  | cons piece above ih =>
    rw [Disk.makeUp, Disk.makeUp]
    split
    · exact ih
    · exact h.makeAfter _ ih

theorem makeParent (h : Alike disk disk') (path : FilePath) :
    SameLeft (disk.makeParent path) (disk'.makeParent path) := h.makeUp (piecesAbove path)

theorem removeAll (h : Alike disk disk') (path : FilePath) :
    SameLeft (disk.removeAll path) (disk'.removeAll path) := by
  rw [Disk.removeAll, Disk.removeAll, h.stat]
  split
  · exact ⟨h, rfl⟩
  · exact ⟨h, rfl⟩
  · rename_i place hstat
    have hcleared := h.clear place
    dsimp only
    rcases (hcleared.removeDirectory path).cases with
      ⟨removed, removed', hr, hr', hremoved⟩ | ⟨e, hr, hr'⟩
    · rw [hr, hr']
      exact ⟨hremoved, rfl⟩
    · rw [hr, hr']
      cases e <;> exact ⟨hcleared, rfl⟩

end Alike

end Refactoring.Disk
