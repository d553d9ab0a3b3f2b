import Refactoring.Proofs.Disk.Operations

/-!
# Files that are kept

From one tree to another every file is kept if it is found again with its content, at its place or
at another one, and no two files at the same place.  A file is lost only where something is written
or moved onto it.  Whether a target is free is asked before the directories for it are made, and
these can make a path followable: it then leads to a file that was not in sight when it was asked
for.  A path that never steps back cannot do so.
-/

namespace Refactoring.Disk

variable {disk disk' : Disk} {path : FilePath}

/-! ## Keeping files -/

/-- Every file is found again with its content at the place that `f` has for it, and different
files at different places. -/
structure KeepsFiles (f : Place → Place) (disk disk' : Disk) : Prop where
  content : ∀ {place content}, disk.get? place = some (.file content) →
    disk'.get? (f place) = some (.file content)
  injective : ∀ {place other content content'}, disk.get? place = some (.file content) →
    disk.get? other = some (.file content') → f place = f other → place = other

namespace KeepsFiles

variable {f g : Place → Place} {middle : Disk}

theorem refl (disk : Disk) : KeepsFiles id disk disk := ⟨id, fun _ _ h => h⟩

theorem trans (h : KeepsFiles f disk middle) (h' : KeepsFiles g middle disk') :
    KeepsFiles (g ∘ f) disk disk' where
  content hfile := h'.content (h.content hfile)
  injective hfile hother heq :=
    h.injective hfile hother (h'.injective (h.content hfile) (h.content hother) heq)

/-- Files stay where they are if none is where something changes. -/
theorem of_extends {apart : List Place} (hext : Extends apart disk disk')
    (hfree : ∀ place ∈ apart, ∀ content, disk.get? place ≠ some (.file content)) :
    KeepsFiles id disk disk' where
  content hfile := hext.get?_eq_some (fun hmem => hfree _ hmem _ hfile) hfile
  injective _ _ heq := heq

end KeepsFiles

/-! ## Paths that never step back -/

/-- A path that never leads from a directory to the one above it. -/
def Straight (path : FilePath) : Prop := [46, 46] ∉ names path

instance (path : FilePath) : Decidable (Straight path) := inferInstanceAs (Decidable (¬ _))

/-- Names that never step back lead to a place at or below the first one. -/
theorem atOrBelow_of_follow {place target : Place} {names : List Name}
    (hstraight : [46, 46] ∉ names) (h : disk.follow place names = .ok target) :
    atOrBelow place target := by
  induction names generalizing place with
  | nil =>
    cases h
    exact atOrBelow_refl _
  | cons name rest ih =>
    rw [List.mem_cons, not_or] at hstraight
    obtain ⟨-, ⟨-, h⟩ | ⟨hname, -⟩ | ⟨-, -, -, h⟩⟩ := follow_cons_eq_ok.mp h
    · exact ih hstraight.2 h
    · exact absurd hname.symm hstraight.1
    · obtain ⟨more, rfl⟩ := atOrBelow_iff.mp (ih hstraight.2 h)
      exact atOrBelow_iff.mpr ⟨name :: more, by simp⟩

/-- Directories that are added bring nothing into sight that was there before. -/
theorem Extends.follow_back (hext : Extends [] disk disk') (hclosed : disk.Closed)
    {place target : Place} {names : List Name} (hstraight : [46, 46] ∉ names)
    (h : disk'.follow place names = .ok target) {node : Node}
    (hnode : disk.get? target = some node) : disk.follow place names = .ok target := by
  induction names generalizing place with
  | nil => exact h
  | cons name rest ih =>
    obtain ⟨hdir, hrest⟩ := follow_cons_eq_ok.mp h
    -- The names pass through this place on their way, so it has been a directory all along.
    have hplace : disk.get? place = some .directory := by
      obtain ⟨more, rfl⟩ := atOrBelow_iff.mp (atOrBelow_of_follow hstraight h)
      by_contra hnot
      by_cases hmore : more = []
      · rw [hmore, List.append_nil] at hnode
        rw [hext.get?_eq_some (by simp) hnode] at hdir
        exact hnot (hnode.trans hdir)
      · rw [hclosed.get?_below hnot hmore] at hnode
        cases hnode
    rw [List.mem_cons, not_or] at hstraight
    refine follow_cons_eq_ok.mpr ⟨hplace, ?_⟩
    rcases hrest with ⟨hname, h⟩ | ⟨hname, h⟩ | ⟨hdot, hdots, hlong, h⟩
    · exact .inl ⟨hname, ih hstraight.2 h⟩
    · exact .inr (.inl ⟨hname, ih hstraight.2 h⟩)
    · exact .inr (.inr ⟨hdot, hdots, hlong, ih hstraight.2 h⟩)

/-- When a straight path leads to a file after directories were made, it led there before. -/
theorem Extends.pathExists_of_file (hext : Extends [] disk disk') (hclosed : disk.Closed)
    (hstraight : Straight path) (hwants : ¬ wantsDirectory path) {place : Place}
    (hlocate : disk'.locate path = .ok place) {content : List UInt8}
    (hfile : disk'.get? place = some (.file content)) : disk.pathExists path := by
  have hbefore := hext.get?_eq_file (by simp) hfile
  obtain ⟨hchecked, hfollow⟩ := locate_eq_ok.mp hlocate
  have hlocated : disk.locate path = .ok place :=
    locate_eq_ok.mpr ⟨hchecked, hext.follow_back hclosed hstraight hfollow hbefore⟩
  exact pathExists_iff.mpr ⟨place, .file content,
    stat_eq_ok.mpr ⟨hlocated, hbefore, fun hw => absurd hw hwants⟩⟩

/-! ## Operations -/

/-- Making directories keeps all files. -/
theorem Closed.makeParent_keeps (hclosed : disk.Closed) (path : FilePath) :
    KeepsFiles id disk (disk.makeParent path).1 :=
  .of_extends (hclosed.makeParent path).2 (by simp)

/-- Writing keeps all files if there is none where it is written to. -/
theorem write_keeps {content : List UInt8} (h : disk.write path content = .ok disk')
    (hfree : ∀ place, disk.locate path = .ok place → ¬ wantsDirectory path →
      ∀ old, disk.get? place ≠ some (.file old)) :
    KeepsFiles id disk disk' := by
  obtain ⟨place, hlocate, hnode, hwants, rfl⟩ := write_eq_ok h
  refine .of_extends (Extends.of_set hnode (.file content)) ?_
  intro other hother old
  obtain rfl := List.mem_singleton.mp hother
  exact hfree other hlocate hwants old

/-- Where something at or below a source is found when all of that has moved to a target. -/
def moveBelow (source target place : Place) : Place :=
  if atOrBelow source place then target ++ place.drop source.length else place

theorem moveBelow_of_not {source target place : Place} (h : ¬ atOrBelow source place) :
    moveBelow source target place = place := if_neg h

theorem moveBelow_append (source target rest : Place) :
    moveBelow source target (source ++ rest) = target ++ rest := by
  rw [moveBelow, if_pos (atOrBelow_iff.mpr ⟨rest, rfl⟩), List.drop_left' rfl]

/-- What moves keeps its files if there is none at or below the target. -/
theorem graft_keeps {source target : Place} (hs : source ≠ []) (ht : target ≠ [])
    (hfree : ∀ rest content, disk.get? (target ++ rest) ≠ some (.file content)) :
    KeepsFiles (moveBelow source target) disk (disk.graft source target) := by
  have hout {place : Place} {content : List UInt8}
      (hfile : disk.get? place = some (.file content)) : ¬ atOrBelow target place := by
    intro hb
    obtain ⟨rest, rfl⟩ := atOrBelow_iff.mp hb
    exact hfree rest content hfile
  constructor
  · intro place content hfile
    by_cases hb : atOrBelow source place
    · obtain ⟨rest, rfl⟩ := atOrBelow_iff.mp hb
      rw [moveBelow_append, get?_graft hs (by simp [ht]), if_pos (atOrBelow_iff.mpr ⟨rest, rfl⟩),
        List.drop_left' rfl]
      exact hfile
    · have hne : place ≠ [] := by
        rintro rfl
        cases hfile
      rw [moveBelow_of_not hb, get?_graft hs hne, if_neg (hout hfile), if_neg hb]
      exact hfile
  · intro place other content content' hfile hother heq
    by_cases hb : atOrBelow source place <;> by_cases hb' : atOrBelow source other
    · obtain ⟨rest, rfl⟩ := atOrBelow_iff.mp hb
      obtain ⟨rest', rfl⟩ := atOrBelow_iff.mp hb'
      rw [moveBelow_append, moveBelow_append, List.append_cancel_left_eq] at heq
      rw [heq]
    · obtain ⟨rest, rfl⟩ := atOrBelow_iff.mp hb
      rw [moveBelow_append, moveBelow_of_not hb'] at heq
      exact absurd (atOrBelow_iff.mpr ⟨rest, heq.symm⟩) (hout hother)
    · obtain ⟨rest, rfl⟩ := atOrBelow_iff.mp hb'
      rw [moveBelow_of_not hb, moveBelow_append] at heq
      exact absurd (atOrBelow_iff.mpr ⟨rest, heq⟩) (hout hfile)
    · rwa [moveBelow_of_not hb, moveBelow_of_not hb'] at heq

/-- Nothing lies below an empty directory. -/
theorem get?_append_of_not_hasChildren {place rest : Place} (hrest : rest ≠ [])
    (h : ¬ disk.hasChildren place) : disk.get? (place ++ rest) = none := by
  rw [get?_of_ne_nil (by simp [hrest]), List.lookup_eq_none_iff]
  intro e he
  rw [bne_iff_ne]
  intro heq
  refine h (List.any_eq_true.mpr ⟨e, he, ?_⟩)
  rw [← heq]
  simpa [hrest] using atOrBelow_iff.mpr ⟨rest, rfl⟩

namespace Moves

variable {old new : FilePath} {source target : Place} {node : Node}

/-- Neither the root moves, nor anything to its place. -/
theorem ne_nil (h : Moves disk old new source target node) (hne : source ≠ target) :
    source ≠ [] ∧ target ≠ [] := by
  obtain ⟨hbelow, habove⟩ := h.apart hne
  constructor
  · rintro rfl
    exact hbelow (atOrBelow_iff.mpr ⟨target, rfl⟩)
  · rintro rfl
    exact habove (atOrBelow_iff.mpr ⟨source, rfl⟩)

/-- Nothing lies below the target of a move. -/
theorem get?_below_target (h : Moves disk old new source target node) (hclosed : disk.Closed)
    (hne : source ≠ target) {rest : Place} (hrest : rest ≠ []) :
    disk.get? (target ++ rest) = none := by
  by_cases hnode : node = .directory
  · rcases h.directory hne hnode with hnone | ⟨-, hempty⟩
    · exact hclosed.get?_below (by simp [hnone]) hrest
    · exact get?_append_of_not_hasChildren hrest hempty
  · exact hclosed.get?_below (h.file hne hnode) hrest

/-- What a move finds at or below its target is no file, unless it moves onto a file. -/
theorem no_file_below (h : Moves disk old new source target node) (hclosed : disk.Closed)
    (hne : source ≠ target)
    (hfree : ¬ wantsDirectory new → ∀ content, disk.get? target ≠ some (.file content))
    (rest : Place) (content : List UInt8) :
    disk.get? (target ++ rest) ≠ some (.file content) := by
  by_cases hrest : rest = []
  · rw [hrest, List.append_nil]
    by_cases hnode : node = .directory
    · rcases h.directory hne hnode with hnone | ⟨hdir, -⟩
      · simp [hnone]
      · simp [hdir]
    · exact hfree (h.plain hnode).2 content
  · simp [h.get?_below_target hclosed hne hrest]

end Moves

/-- A move keeps all files if there is none where it moves to; those at or below its source move
along. -/
theorem Closed.rename_keeps (hclosed : disk.Closed) {old new : FilePath}
    (h : disk.rename old new = .ok disk')
    (hfree : ∀ place, disk.locate new = .ok place → ¬ wantsDirectory new →
      ∀ content, disk.get? place ≠ some (.file content)) :
    disk'.Closed ∧ ∃ f, KeepsFiles f disk disk' ∧
      ∀ place, ¬ atOrBelow (placeOf old) place → f place = place := by
  obtain ⟨source, target, node, hmoves, hdisk⟩ := rename_eq_ok h
  by_cases heq : source = target
  · rw [if_pos heq] at hdisk
    subst hdisk
    exact ⟨hclosed, id, .refl _, fun _ _ => rfl⟩
  · rw [if_neg heq] at hdisk
    subst hdisk
    obtain ⟨hs, ht⟩ := hmoves.ne_nil heq
    refine ⟨hclosed.graft hs ht (hclosed.above_of_locate hmoves.to_target) (hmoves.apart heq).1,
      moveBelow source target,
      graft_keeps hs ht (hmoves.no_file_below hclosed heq (hfree target hmoves.to_target)), ?_⟩
    intro place hplace
    rw [← eq_placeOf_of_locate hmoves.from_source] at hplace
    exact moveBelow_of_not hplace

end Refactoring.Disk
