import Refactoring.Proofs.Edit.Alike
import Refactoring.Proofs.Edit.OnDisk
import Refactoring.Proofs.Edit.Overlaps

/-!
# The order of the entries

The entries of an edit come in no certain order.  If each of them leads to a place of its own, the
order makes no difference as long as none of them crashes: an entry reads and writes one file only,
and what it does there does not depend on what is written in others.  What comes behind the entries
finds trees that hold the same.  An entry that crashes keeps those behind it from being attempted,
and then the order decides which files are written.
-/

namespace Refactoring

open Disk (Place placeOf)

variable {disk disk' : Disk}

/-! ## What an entry does -/

/-- A document with its text edits. -/
abbrev Entry := Uri × List TextEdit

/-- What an entry does: it writes a file, or fails, or crashes. -/
inductive Effect where
  | writes (place : Place) (content : List UInt8)
  | fails (reason : Failure)
  | crashes
  deriving DecidableEq

namespace Entry

variable {entry other : Entry} {place : Place} {content : List UInt8} {reason : Failure}

/-- The entry as a change. -/
def change (entry : Entry) : Change := .entry entry.1 entry.2

/-- What an entry does on a disk. -/
def effect (entry : Entry) (disk : Disk) : Effect :=
  match localPath entry.1 with
  | .error reason => .fails reason
  | .ok path =>
    match disk.readText path with
    | .error e => .fails ((Failure.ofDisk e).within ("Failed to read " ++ Disk.shown path))
    | .ok text =>
      match Text.applyEdits? entry.2 text with
      | none => .crashes
      | some changed => .writes (placeOf path) (Utf8.encode changed)

/-- The attempt of an entry is what its effect says; what it has read it can write. -/
theorem apply_change (entry : Entry) (disk : Disk) : entry.change.apply disk =
    match entry.effect disk with
    | .writes place content => .done (disk.set place (.file content))
    | .fails reason => .failed disk reason
    | .crashes => .crashed := by
  rw [change, Change.apply, withPath, effect]
  cases localPath entry.1 with
  | error reason => rfl
  | ok path =>
    dsimp only
    cases hread : disk.readText path with
    | error e => rw [applyTextEdits, hread]
    | ok text =>
      rw [applyTextEdits_of_readText hread]
      dsimp only
      cases Text.applyEdits? entry.2 text <;> rfl

/-- An entry whose document can be read writes it or crashes. -/
theorem effect_of_readText {path : Disk.FilePath} {text : String}
    (hpath : entry.1.filePath? = some path) (h : disk.readText path = .ok text) :
    entry.effect disk =
      match Text.applyEdits? entry.2 text with
      | none => .crashes
      | some changed => .writes (placeOf path) (Utf8.encode changed) := by
  rw [effect, localPath, hpath]
  dsimp only
  rw [h]

theorem apply_eq_crashed_iff :
    entry.change.apply disk = .crashed ↔ entry.effect disk = .crashes := by
  rw [apply_change]
  cases entry.effect disk <;> simp

theorem apply_eq_done_iff {next : Disk} : entry.change.apply disk = .done next ↔
    ∃ place content, entry.effect disk = .writes place content ∧
      next = disk.set place (.file content) := by
  rw [apply_change]
  cases entry.effect disk with
  | writes place content =>
    constructor
    · rintro ⟨⟩
      exact ⟨place, content, rfl, rfl⟩
    · rintro ⟨_, _, ⟨⟩, rfl⟩
      rfl
  | fails reason => simp
  | crashes => simp

/-- What an entry writes belongs to its own place, and there is a file. -/
theorem file_of_effect (h : entry.effect disk = .writes place content) :
    entry.1.place? = some place ∧ ∃ old, disk.get? place = some (.file old) := by
  unfold effect localPath at h
  cases hpath : entry.1.filePath? with
  | none =>
    rw [hpath] at h
    cases h
  | some path =>
    rw [hpath] at h
    dsimp only at h
    split at h
    · cases h
    · rename_i text hread
      split at h
      · cases h
      · cases h
        obtain ⟨bytes, hbytes, -⟩ := bind_eq_ok.mp hread
        obtain ⟨place, hstat⟩ := Disk.read_eq_ok.mp hbytes
        obtain ⟨hlocate, hfile, -⟩ := Disk.stat_eq_ok.mp hstat
        rw [← Disk.eq_placeOf_of_locate hlocate]
        exact ⟨Uri.place?_of_locate hpath hlocate, bytes, hfile⟩

/-- An entry does the same whatever is written in files at other places. -/
theorem effect_congr {apart : List Place} (h : disk.AlikeApart apart disk')
    (hplace : ∀ place ∈ apart, entry.1.place? ≠ some place) :
    entry.effect disk = entry.effect disk' := by
  unfold effect localPath
  cases hpath : entry.1.filePath? with
  | none => rfl
  | some path =>
    have hout : placeOf path ∉ apart := by
      intro hmem
      exact hplace _ hmem (by rw [Uri.place?, hpath, Option.map_some])
    dsimp only
    rw [h.readText hout]

/-- What one entry writes makes no difference to another one with another place. -/
theorem effect_set (h : entry.effect disk = .writes place content)
    (hother : other.1.place? ≠ some place) :
    other.effect (disk.set place (.file content)) = other.effect disk := by
  obtain ⟨-, old, hfile⟩ := file_of_effect h
  refine (effect_congr (Disk.AlikeApart.of_set hfile content) fun place' hmem => ?_).symm
  rwa [List.mem_singleton.mp hmem]

/-- Two entries do not lead to the same place. -/
def Apart (a b : Entry) : Prop :=
  ∀ place, a.1.place? = some place → b.1.place? ≠ some place

theorem Apart.symm {a b : Entry} (h : a.Apart b) : b.Apart a := fun place hb ha => h place ha hb

instance (a b : Entry) : Decidable (a.Apart b) :=
  decidable_of_iff (∀ place ∈ a.1.place?, b.1.place? ≠ some place) Iff.rfl

end Entry

/-! ## Runs of entries -/

section

variable {entry : Entry} {place : Place} {content : List UInt8} {reason : Failure}

/-- A run goes on with what the effect of its first entry leaves. -/
theorem applyChanges_of_writes (h : entry.effect disk = .writes place content)
    (rest : List Change) : applyChanges (entry.change :: rest) disk =
      ((applyChanges rest (disk.set place (.file content))).1,
        (applyChanges rest (disk.set place (.file content))).2.addDone) := by
  rw [applyChanges, entry.apply_change, h]

theorem applyChanges_of_fails (h : entry.effect disk = .fails reason) (rest : List Change) :
    applyChanges (entry.change :: rest) disk = ((applyChanges rest disk).1,
      (applyChanges rest disk).2.addFailure entry.1 reason) := by
  rw [applyChanges, entry.apply_change, h]
  rfl

theorem applyChanges_of_crashes (h : entry.effect disk = .crashes) (rest : List Change) :
    applyChanges (entry.change :: rest) disk = (disk, .crashed) :=
  applyChanges_cons_of_crashed (Entry.apply_eq_crashed_iff.mpr h) rest

end

/-- An entry that writes may change places with one that fails, -/
theorem applyChanges_swap_of_fails {a b : Entry} {place : Place} {content : List UInt8}
    {reason : Failure} (ha : a.effect disk = .writes place content)
    (hb : b.effect disk = .fails reason) (hplace : b.1.place? ≠ some place) (rest : List Change) :
    applyChanges (a.change :: b.change :: rest) disk =
      applyChanges (b.change :: a.change :: rest) disk := by
  have hb' := (Entry.effect_set ha hplace).trans hb
  rw [applyChanges_of_writes ha, applyChanges_of_fails hb', applyChanges_of_fails hb,
    applyChanges_of_writes ha, Report.addFailure_addDone]

/-- and so may any two entries with places of their own, if neither crashes. -/
theorem applyChanges_swap {a b : Entry} (hapart : a.Apart b) (ha : a.effect disk ≠ .crashes)
    (hb : b.effect disk ≠ .crashes) (rest : List Change) :
    SameResult (applyChanges (a.change :: b.change :: rest) disk)
      (applyChanges (b.change :: a.change :: rest) disk) := by
  cases hea : a.effect disk with
  | crashes => exact absurd hea ha
  | fails reason =>
    cases heb : b.effect disk with
    | crashes => exact absurd heb hb
    | fails reason' =>
      rw [applyChanges_of_fails hea, applyChanges_of_fails heb, applyChanges_of_fails heb,
        applyChanges_of_fails hea]
      exact ⟨.refl _, Report.addFailure_swap _ _ _ _ _⟩
    | writes place content =>
      have hplace := hapart.symm place (Entry.file_of_effect heb).1
      rw [applyChanges_swap_of_fails heb hea hplace]
      exact .refl _
  | writes place content =>
    obtain ⟨hplace, old, hfile⟩ := Entry.file_of_effect hea
    cases heb : b.effect disk with
    | crashes => exact absurd heb hb
    | fails reason =>
      rw [applyChanges_swap_of_fails hea heb (hapart place hplace)]
      exact .refl _
    | writes place' content' =>
      obtain ⟨hplace', old', hfile'⟩ := Entry.file_of_effect heb
      have hne : place ≠ place' := by
        rintro rfl
        exact hapart place hplace hplace'
      have hea' := (Entry.effect_set heb (hapart.symm place' hplace')).trans hea
      have heb' := (Entry.effect_set hea (hapart place hplace)).trans heb
      rw [applyChanges_of_writes hea, applyChanges_of_writes heb', applyChanges_of_writes heb,
        applyChanges_of_writes hea']
      have hsets : Disk.Alike ((disk.set place (.file content)).set place' (.file content'))
          ((disk.set place' (.file content')).set place (.file content)) :=
        Disk.Alike.set_swap (Disk.ne_nil_of_file hfile) (Disk.ne_nil_of_file hfile') hne _ _ _
      obtain ⟨hlast, hreport⟩ := hsets.applyChanges rest
      exact ⟨hlast, hreport.addDone.addDone⟩

/-! ## Orders -/

section

variable {order order' : List Entry}

/-- Entries with places of their own may be visited in any order if none of them crashes. -/
theorem applyChanges_perm (hperm : order.Perm order') (hapart : order.Pairwise Entry.Apart)
    (hends : ∀ entry ∈ order, entry.effect disk ≠ .crashes) (rest : List Change) :
    SameResult (applyChanges (order.map Entry.change ++ rest) disk)
      (applyChanges (order'.map Entry.change ++ rest) disk) := by
  induction hperm generalizing disk with
  | nil => exact .refl _
  | @cons entry order order' _ ih =>
    obtain ⟨hfirst, hrest⟩ := List.pairwise_cons.mp hapart
    obtain ⟨hentry, hothers⟩ := List.forall_mem_cons.mp hends
    rw [List.map_cons, List.map_cons, List.cons_append, List.cons_append]
    cases heffect : entry.effect disk with
    | crashes => exact absurd heffect hentry
    | fails reason =>
      rw [applyChanges_of_fails heffect, applyChanges_of_fails heffect]
      obtain ⟨hlast, hreport⟩ := ih hrest hothers
      exact ⟨hlast, hreport.addFailure _ _⟩
    | writes place content =>
      have hplace := (Entry.file_of_effect heffect).1
      rw [applyChanges_of_writes heffect, applyChanges_of_writes heffect]
      obtain ⟨hlast, hreport⟩ := ih hrest fun other hother => by
        rw [Entry.effect_set heffect (hfirst other hother place hplace)]
        exact hothers other hother
      exact ⟨hlast, hreport.addDone⟩
  | swap a b order =>
    obtain ⟨hfirst, -⟩ := List.pairwise_cons.mp hapart
    exact applyChanges_swap (hfirst a List.mem_cons_self) (hends b List.mem_cons_self)
      (hends a (List.mem_cons_of_mem b List.mem_cons_self)) _
  | trans hperm _ ih ih' =>
    have hapart' := (hperm.pairwise_iff Entry.Apart.symm).mp hapart
    exact (ih hapart hends).trans (ih' hapart' fun entry hentry =>
      hends entry (hperm.mem_iff.mpr hentry))

/-- If an entry crashes and no file is changed by any other one, the run ends there with the disk
as it was. -/
theorem applyChanges_of_idle (hcrash : ∃ entry ∈ order, entry.effect disk = .crashes)
    (hidle : ∀ entry ∈ order, ∀ place content, entry.effect disk = .writes place content →
      (disk.set place (.file content)).Alike disk) (rest : List Change) :
    SameResult (applyChanges (order.map Entry.change ++ rest) disk) (disk, .crashed) := by
  induction order with
  | nil =>
    obtain ⟨entry, hmem, -⟩ := hcrash
    cases hmem
  | cons entry order ih =>
    rw [List.map_cons, List.cons_append]
    obtain ⟨hentry, hothers⟩ := List.forall_mem_cons.mp hidle
    -- If the first entry does not crash, one behind it does.
    have hlater (hends : entry.effect disk ≠ .crashes) :
        ∃ entry ∈ order, entry.effect disk = .crashes := by
      obtain ⟨bad, hbad, hcrashes⟩ := hcrash
      rcases List.mem_cons.mp hbad with rfl | hbad
      · exact absurd hcrashes hends
      · exact ⟨bad, hbad, hcrashes⟩
    cases heffect : entry.effect disk with
    | crashes =>
      rw [applyChanges_of_crashes heffect]
      exact .refl _
    | fails reason =>
      rw [applyChanges_of_fails heffect]
      obtain ⟨hlast, hreport⟩ := ih (hlater (by simp [heffect])) hothers
      exact ⟨hlast, hreport.addFailure _ _⟩
    | writes place content =>
      rw [applyChanges_of_writes heffect]
      have hsame := (hentry place content heffect).applyChanges (order.map Entry.change ++ rest)
      obtain ⟨hlast, hreport⟩ := hsame.trans (ih (hlater (by simp [heffect])) hothers)
      exact ⟨hlast, hreport.addDone⟩

end

namespace WorkspaceEdit

/-- The edit with its entries in another order. -/
def inOrder (edit : WorkspaceEdit) (order : List Entry) : WorkspaceEdit :=
  { edit with changes := some order }

theorem apply_inOrder (edit : WorkspaceEdit) (order : List Entry) (disk : Disk) :
    (edit.inOrder order).apply disk =
      applyChanges (order.map Entry.change ++ edit.steps.map .step) disk := rfl

/-- In whatever order the entries of an edit are visited, it comes to the same: the same stands at
each place, and it is told that as many changes were carried out, or that the same ones have failed
for the same reasons. -/
def OrderFree (edit : WorkspaceEdit) (disk : Disk) : Prop :=
  ∀ order order' : List Entry, order.Perm edit.entries → order'.Perm edit.entries →
    SameResult ((edit.inOrder order).apply disk) ((edit.inOrder order').apply disk)

variable {edit : WorkspaceEdit}

theorem orderFree_of_effects (hapart : edit.entries.Pairwise Entry.Apart)
    (hends : ∀ entry ∈ edit.entries, Entry.effect entry disk ≠ .crashes) :
    edit.OrderFree disk := by
  intro order order' horder horder'
  rw [apply_inOrder, apply_inOrder]
  have hsame {order : List Entry} (horder : order.Perm edit.entries) :=
    applyChanges_perm horder.symm hapart hends (edit.steps.map .step)
  exact (hsame horder).symm.trans (hsame horder')

/-- It makes no difference in which order entries are visited whose edits keep apart in their
texts. -/
theorem orderFree_of_keepsApart (hapart : edit.entries.Pairwise Entry.Apart)
    (hkeeps : ∀ entry ∈ edit.entries, (Entry.change entry).KeepsApart disk) :
    edit.OrderFree disk := by
  refine orderFree_of_effects hapart fun entry hentry hcrashes => ?_
  obtain ⟨next, hends⟩ := (hkeeps entry hentry).exists_ends
  rw [Entry.apply_eq_crashed_iff.mpr hcrashes] at hends
  cases hends

theorem orderFree_of_idle
    (hcrash : ∃ entry ∈ edit.entries, Entry.effect entry disk = .crashes)
    (hidle : ∀ entry ∈ edit.entries, ∀ place content,
      Entry.effect entry disk = .writes place content →
        (disk.set place (.file content)).Alike disk) : edit.OrderFree disk := by
  intro order order' horder horder'
  rw [apply_inOrder, apply_inOrder]
  have hsame {order : List Entry} (horder : order.Perm edit.entries) :
      SameResult (applyChanges (order.map Entry.change ++ edit.steps.map .step) disk)
        (disk, .crashed) := by
    refine applyChanges_of_idle ?_ (fun entry hentry => ?_) _
    · obtain ⟨bad, hbad, hcrashes⟩ := hcrash
      exact ⟨bad, horder.mem_iff.mpr hbad, hcrashes⟩
    · exact hidle entry (horder.mem_iff.mp hentry)
  exact (hsame horder).trans (hsame horder').symm

/-- If one entry crashes and another one writes, it matters which of them comes first. -/
theorem OrderFree.alike_of_writes (h : edit.OrderFree disk)
    (hapart : edit.entries.Pairwise Entry.Apart) {bad good : Entry} (hbad : bad ∈ edit.entries)
    (hgood : good ∈ edit.entries) {place : Place} {content : List UInt8}
    (hcrashes : bad.effect disk = .crashes) (hwrites : good.effect disk = .writes place content) :
    (disk.set place (.file content)).Alike disk := by
  have hne : bad ≠ good := by
    rintro rfl
    rw [hcrashes] at hwrites
    cases hwrites
  obtain ⟨rest, hrest⟩ : ∃ rest, edit.entries.Perm (good :: bad :: rest) :=
    ⟨_, (List.perm_cons_erase hgood).trans
      (.cons good (List.perm_cons_erase ((List.mem_erase_of_ne hne).mpr hbad)))⟩
  obtain ⟨hfirst, -⟩ := List.pairwise_cons.mp ((hrest.pairwise_iff Entry.Apart.symm).mp hapart)
  have hplace := hfirst bad List.mem_cons_self place (Entry.file_of_effect hwrites).1
  have hcrashes' := (Entry.effect_set hwrites hplace).trans hcrashes
  obtain ⟨hlast, -⟩ := h _ _ hrest.symm ((List.Perm.swap good bad rest).trans hrest.symm)
  rw [apply_inOrder, apply_inOrder] at hlast
  simp only [List.map_cons, List.cons_append] at hlast
  rwa [applyChanges_of_writes hwrites, applyChanges_of_crashes hcrashes',
    applyChanges_of_crashes hcrashes] at hlast

/-- **The order of the entries.**  If each entry of an edit leads to a place of its own, it makes no
difference in which order they are visited, whatever steps come behind them, unless one of them
crashes while another one changes its file. -/
theorem orderFree_iff (hapart : edit.entries.Pairwise Entry.Apart) : edit.OrderFree disk ↔
    ((∃ entry ∈ edit.entries, (Entry.change entry).apply disk = .crashed) →
      ∀ entry ∈ edit.entries, ∀ next, (Entry.change entry).apply disk = .done next →
        next.Alike disk) := by
  simp only [Entry.apply_eq_crashed_iff, Entry.apply_eq_done_iff]
  constructor
  · rintro hfree ⟨bad, hbad, hcrashes⟩ good hgood next ⟨place, content, hwrites, rfl⟩
    exact hfree.alike_of_writes hapart hbad hgood hcrashes hwrites
  · intro hidle
    by_cases hcrash : ∃ entry ∈ edit.entries, Entry.effect entry disk = .crashes
    · exact orderFree_of_idle hcrash fun entry hentry place content hwrites =>
        hidle hcrash entry hentry _ ⟨place, content, hwrites, rfl⟩
    · exact orderFree_of_effects hapart fun entry hentry hcrashes =>
        hcrash ⟨entry, hentry, hcrashes⟩

/-! ## Entries that fail for different reasons -/

/-- Files `A` and `N`, the second of them no text, and a directory `D` with a file `B` in it. -/
def beforeEntries : Disk :=
  (((Disk.empty.set [[65]] (.file [97, 98, 99])).set [[78]] (.file [255])).set [[68]]
    .directory).set [[68], [66]] (.file [98])

/-- Entries of which the first four fail: a document that is no file, a missing one, a directory and
a file that is no text; and steps behind them, one of which fails. -/
def mixedEntries : WorkspaceEdit where
  changes := some [
    (⟨"untitled", none, .rootless "A", none, none⟩, [insertion]),
    (.localResource ["M"], [insertion]),
    (.localResource ["D"], [insertion]),
    (.localResource ["N"], [insertion]),
    (.localResource ["A"], [insertion, exchange]),
    (.localResource ["D", "B"], [insertion])]
  documentChanges := some (.operations [
    .operation (.rename (.localResource ["A"]) (.localResource ["C"]) none none),
    .operation (.delete (.localResource ["D"]) none)])
  annotations := none

theorem effects_mixedEntries : mixedEntries.entries.map (Entry.effect · beforeEntries) =
    [.fails (.of "Not a file URI: untitled:A"),
      .fails ⟨["Failed to read /M", "No such file or directory (os error 2)"]⟩,
      .fails ⟨["Failed to read /D", "Is a directory (os error 21)"]⟩,
      .fails ⟨["Failed to read /N", "stream did not contain valid UTF-8"]⟩,
      .writes [[65]] (Utf8.encode "éxbc"),
      .writes [[68], [66]] (Utf8.encode "éb")] := by
  have hread : beforeEntries.readText [47, 65] = .ok "abc" := by decide +kernel
  have heffect : Entry.effect (.localResource ["A"], [insertion, exchange]) beforeEntries =
      .writes [[65]] (Utf8.encode "éxbc") := by
    rw [Entry.effect_of_readText rfl hread, applyEdits?_insertionFirst]
    rfl
  simp only [entries, mixedEntries, Option.getD_some, List.map_cons, List.map_nil, heffect]
  decide +kernel

theorem orderFree_iff_mixedEntries : mixedEntries.entries.Pairwise Entry.Apart ∧
    mixedEntries.OrderFree beforeEntries := by
  have hapart : mixedEntries.entries.Pairwise Entry.Apart := by decide
  refine ⟨hapart, (orderFree_iff hapart).mpr ?_⟩
  rintro ⟨entry, hentry, hcrashed⟩
  have hmem := List.mem_map_of_mem (f := (Entry.effect · beforeEntries)) hentry
  rw [effects_mixedEntries, Entry.apply_eq_crashed_iff.mp hcrashed] at hmem
  simp at hmem

/-! ## An entry that crashes beside another one -/

/-- Two files. -/
def twoFiles : Disk := beforeEdits.set [[66]] (.file [98])

/-- Edits of the first one that crash, and an edit of the second one. -/
def exchangeBesideInsertion : WorkspaceEdit where
  changes := some [
    (.localResource ["A"], [exchange, insertion]),
    (.localResource ["B"], [insertion])]
  documentChanges := none
  annotations := none

/-- It is not enough that the edits of each entry share no character: if one of them crashes for
all that, the order decides whether the other one is carried out. -/
theorem not_forall_orderFree : ¬ ∀ (edit : WorkspaceEdit) (disk : Disk),
    edit.entries.Pairwise Entry.Apart →
    (∀ entry ∈ edit.entries, entry.2.Pairwise TextEdit.ShareNothing) → edit.OrderFree disk := by
  intro h
  have hshare : TextEdit.ShareNothing exchange insertion := .inr (.inr ⟨rfl, Nat.le_refl 0⟩)
  have hfree := h exchangeBesideInsertion twoFiles (by decide) <| by
    intro entry hentry
    rcases List.mem_pair.mp hentry with rfl | rfl
    · exact List.pairwise_pair.mpr hshare
    · exact List.pairwise_singleton _ _
  obtain ⟨hlast, -⟩ := hfree _ _ (.refl _) (List.reverse_perm _)
  have hcrashes {disk : Disk} (hread : disk.readText [47, 65] = .ok "abc") :
      Entry.effect (.localResource ["A"], [exchange, insertion]) disk = .crashes := by
    rw [Entry.effect_of_readText rfl hread, applyEdits?_exchangeFirst]
  have hwrites : Entry.effect (.localResource ["B"], [insertion]) twoFiles =
      .writes [[66]] (Utf8.encode "éb") := by decide +kernel
  have hlisted : (exchangeBesideInsertion.inOrder exchangeBesideInsertion.entries).apply twoFiles =
      (twoFiles, .crashed) := applyChanges_of_crashes (hcrashes (by decide +kernel)) _
  have hreversed : (exchangeBesideInsertion.inOrder
      exchangeBesideInsertion.entries.reverse).apply twoFiles =
        (twoFiles.set [[66]] (.file (Utf8.encode "éb")), .crashed) := by
    have hread : (twoFiles.set [[66]] (.file (Utf8.encode "éb"))).readText [47, 65] =
        .ok "abc" := by decide +kernel
    refine (applyChanges_of_writes hwrites [Entry.change (.localResource ["A"], _)]).trans ?_
    rw [applyChanges_of_crashes (hcrashes hread)]
    rfl
  rw [hlisted, hreversed] at hlast
  cases hlast [[66]]

end WorkspaceEdit

end Refactoring
