import Refactoring.Proofs.Disk.Leftovers
import Refactoring.Proofs.Edit.Folders

/-!
# What operations have done

An operation that succeeds changes one tree at or below the place of each of its paths, and
elsewhere nothing but that directories are added on the way to a target.  The way is made before
anything moves.  It may go through what is to move, and what is made there moves along; just so a
path may go through what is to be deleted, and then the directory that it leads to is emptied but
stays.
-/

namespace Refactoring

open Disk

variable {disk disk' middle : Disk} {path : FilePath}

namespace Disk

/-! ## Ways -/

/-- A place that the way to a path goes through. -/
def OnWay (path : FilePath) (place : Place) : Prop :=
  ∃ above, above <+: wayTo path ∧ place = walk [] above

/-- What stood at a place stands at another one afterwards, or, if there was nothing, a directory
that was made on the way to a path. -/
def KeptOrMade (path : FilePath) (disk disk' : Disk) (place place' : Place) : Prop :=
  disk'.get? place' = disk.get? place ∨
    disk.get? place = none ∧ disk'.get? place' = some .directory ∧ OnWay path place

/-- What is the same as on a disk with the way to a path is kept, or was made there. -/
theorem AddsOnWay.keptOrMade {place place' : Place} (h : AddsOnWay (wayTo path) disk middle)
    (hsame : disk'.get? place' = middle.get? place) : KeptOrMade path disk disk' place place' := by
  rw [KeptOrMade, hsame]
  by_cases hkept : middle.get? place = disk.get? place
  · exact .inl hkept
  · obtain ⟨hnone, hdir⟩ := (h.added.other place List.not_mem_nil).resolve_left hkept
    exact .inr ⟨hnone, hdir, h.on_way place hkept⟩

/-- When a path can be followed, there are directories all along the way to it. -/
theorem OnWay.get? {stop place : Place} (hstop : OnWay path stop)
    (h : disk.locate path = .ok place) : disk.get? stop = some .directory := by
  obtain ⟨above, habove, rfl⟩ := hstop
  have hfollow := follow_filter (locate_eq_ok.mp h).2
  rw [← pathSteps_eq] at hfollow
  obtain ⟨more, hmore⟩ := habove.trans (List.dropLast_prefix (pathSteps path))
  cases more with
  | nil =>
    -- The names of the way are fewer than those of the path, unless there are none at all.
    have hlength := habove.length_le
    rw [List.append_nil] at hmore
    rw [wayTo, List.length_dropLast, ← hmore] at hlength
    obtain rfl : above = [] := List.length_eq_zero_iff.mp (by omega)
    rfl
  | cons name rest =>
    rw [← hmore, follow_append] at hfollow
    obtain ⟨next, hnext, hrest⟩ := bind_eq_ok.mp hfollow
    rw [← eq_walk_of_follow hnext]
    exact (follow_cons_eq_ok.mp hrest).1

/-! ## Deletions -/

/-- A path leads through something below the place that it leads to in the end. -/
def ComesFromBelow (path : FilePath) : Prop :=
  ∃ rest, rest ≠ [] ∧ placeOf path ++ rest ∈ routeOf path

theorem walk_mem_route (place : Place) (names : List Name) :
    walk place names ∈ route place names := by
  induction names generalizing place with
  | nil => exact List.mem_singleton_self place
  | cons name rest ih =>
    rw [walk, route]
    refine List.mem_cons_of_mem _ ?_
    split
    · exact ih _
    · split <;> exact ih _

/-- When the place of a path is cleared, the path still leads there if it does not come from
below. -/
theorem Closed.pathExists_clear_iff (hclosed : disk.Closed) (hexists : disk.pathExists path) :
    (disk.clear (placeOf path)).pathExists path ↔ ¬ ComesFromBelow path := by
  rw [(hclosed.clear_takesAway (placeOf path)).pathExists_iff hexists]
  constructor
  · rintro hout ⟨rest, hrest, hmem⟩
    exact hout _ hmem ⟨atOrBelow_iff.mpr ⟨rest, rfl⟩, by simpa using hrest⟩
  · rintro hout stop hstop ⟨hbelow, hne⟩
    obtain ⟨rest, rfl⟩ := atOrBelow_iff.mp hbelow
    exact hout ⟨rest, by simpa using hne, hstop⟩

/-- What a deletion leaves at and below its place, and elsewhere. -/
structure Deletes (path : FilePath) (disk disk' : Disk) : Prop where
  below : ∀ rest, rest ≠ [] → disk'.get? (placeOf path ++ rest) = none
  gone : ¬ ComesFromBelow path → disk'.get? (placeOf path) = none
  left : ComesFromBelow path → disk'.get? (placeOf path) = some .directory
  lost : ¬ disk'.pathExists path
  other : ∀ place, ¬ atOrBelow (placeOf path) place → disk'.get? place = disk.get? place

theorem Closed.deletes (hclosed : disk.Closed) (hexists : disk.pathExists path)
    (htakes : TakesAway (disk.Removes path) disk disk')
    (hother : ∀ place, ¬ atOrBelow (placeOf path) place → disk'.get? place = disk.get? place) :
    Deletes path disk disk' := by
  have hself : disk.Removes path (placeOf path) ↔ ¬ ComesFromBelow path := by
    rw [← hclosed.pathExists_clear_iff hexists]
    exact ⟨fun h => h.2 rfl, fun h => ⟨atOrBelow_refl _, fun _ => h⟩⟩
  have hbelow {rest : Place} (hrest : rest ≠ []) : disk.Removes path (placeOf path ++ rest) :=
    ⟨atOrBelow_iff.mpr ⟨rest, rfl⟩, fun heq => absurd heq (by simpa using hrest)⟩
  refine ⟨fun rest hrest => htakes.gone (hbelow hrest),
    fun hout => htakes.gone (hself.mpr hout), ?_, fun hthere => ?_, hother⟩
  · rintro ⟨rest, hrest, hmem⟩
    refine (htakes.stays fun htaken => hself.mp htaken ⟨rest, hrest, hmem⟩).directory ?_
    -- Only a directory has something below it.
    by_contra hnode
    exact get?_of_mem_routeOf hexists _ hmem (hclosed.get?_below hnode hrest)
  · have hroute := htakes.not_taken hthere
    by_cases hfrom : ComesFromBelow path
    · obtain ⟨rest, hrest, hmem⟩ := hfrom
      exact hroute _ hmem (hbelow hrest)
    · exact hroute _ (walk_mem_route [] (names path)) (hself.mpr hfrom)

/-! ## Creations and moves -/

/-- What a creation leaves at its place, and elsewhere. -/
structure Creates (path : FilePath) (disk disk' : Disk) : Prop where
  stands : disk'.stat path = .ok (placeOf path, .file [])
  other : ∀ place, place ≠ placeOf path → KeptOrMade path disk disk' place place

theorem Closed.creates (hclosed : disk.Closed)
    (h : (disk.makeParent path).1.write path [] = .ok disk') : Creates path disk disk' := by
  obtain ⟨-, place, -, hstat⟩ := (hclosed.makeParent path).1.write h
  obtain rfl := eq_placeOf_of_locate (stat_eq_ok.mp hstat).1
  obtain ⟨place, hlocate, hnode, -, rfl⟩ := write_eq_ok h
  obtain rfl := eq_placeOf_of_locate hlocate
  refine ⟨hstat, fun other hother => (makeParent_addsOnWay disk path).keptOrMade ?_⟩
  rw [get?_set (ne_nil_of_not_directory hnode), if_neg hother]

/-- What a move leaves at and below its new place, at and below its old place, and elsewhere. -/
structure Relocates (old new : FilePath) (disk disk' : Disk) : Prop where
  stands : disk'.get? (placeOf new) ≠ none
  moved : ∀ rest, KeptOrMade new disk disk' (placeOf old ++ rest) (placeOf new ++ rest)
  way : ∀ rest, OnWay new (placeOf old ++ rest) → disk'.get? (placeOf new ++ rest) = some .directory
  gone : placeOf old ≠ placeOf new → ∀ rest, disk'.get? (placeOf old ++ rest) = none
  other : ∀ place, ¬ atOrBelow (placeOf old) place → ¬ atOrBelow (placeOf new) place →
    KeptOrMade new disk disk' place place

theorem Closed.relocates (hclosed : disk.Closed) {old new : FilePath}
    (h : (disk.makeParent new).1.rename old new = .ok disk') : Relocates old new disk disk' := by
  have hway := makeParent_addsOnWay disk new
  obtain ⟨hclosed', -⟩ := hclosed.makeParent new
  obtain ⟨source, target, node, hmoves, hdisk⟩ := rename_eq_ok h
  obtain rfl := eq_placeOf_of_locate hmoves.from_source
  -- It is enough to compare with the disk on which the way was made.
  suffices hmiddle : (∀ rest, disk'.get? (placeOf new ++ rest) =
        (disk.makeParent new).1.get? (placeOf old ++ rest)) ∧
      (placeOf old ≠ placeOf new → ∀ rest, disk'.get? (placeOf old ++ rest) = none) ∧
      ∀ place, ¬ atOrBelow (placeOf old) place → ¬ atOrBelow (placeOf new) place →
        disk'.get? place = (disk.makeParent new).1.get? place by
    obtain ⟨hmoved, hgone, hother⟩ := hmiddle
    refine ⟨?_, fun rest => hway.keptOrMade (hmoved rest), fun rest hon => ?_, hgone,
      fun place hold hnew => hway.keptOrMade (hother place hold hnew)⟩
    · have hsame := hmoved []
      rw [List.append_nil, List.append_nil] at hsame
      simp [hsame, hmoves.node_source]
    · rw [hmoved, hon.get? hmoves.to_target]
  obtain rfl := eq_placeOf_of_locate hmoves.to_target
  by_cases heq : placeOf old = placeOf new
  · rw [if_pos heq] at hdisk
    subst hdisk
    exact ⟨fun rest => by rw [heq], fun hne => absurd heq hne, fun place _ _ => rfl⟩
  · rw [if_neg heq] at hdisk
    subst hdisk
    obtain ⟨hs, ht⟩ := hmoves.ne_nil heq
    refine ⟨fun rest => ?_, fun _ rest => ?_, fun place hold hnew => ?_⟩
    · rw [Disk.get?_graft hs (by simp [ht]), if_pos (atOrBelow_iff.mpr ⟨rest, rfl⟩),
        List.drop_left' rfl]
    · exact (hmoves.takesAway hclosed' heq).gone (atOrBelow_iff.mpr ⟨rest, rfl⟩)
    · exact get?_graft_of_not hs hold hnew

end Disk

/-- Away from its place a deletion changes nothing. -/
theorem get?_of_deleteFile {options : Option DeleteOptions} {place : Place}
    (h : deleteFile disk path options = .done disk') (hout : ¬ atOrBelow (placeOf path) place) :
    disk'.get? place = disk.get? place := by
  rcases deleteFile_eq_done h with ⟨-, -, rfl⟩ | ⟨-, -, hremove⟩ | ⟨-, ⟨-, hremove⟩ | ⟨-, hremove⟩⟩
  · rfl
  · obtain ⟨top, content, hstat, rfl⟩ := removeFile_eq_ok hremove
    obtain rfl := eq_placeOf_of_locate (stat_eq_ok.mp hstat).1
    exact get?_cut_of_not hout
  · obtain ⟨top, hstat, hremoved | ⟨-, rfl⟩⟩ := removeAll_eq_ok hremove
    · obtain rfl := eq_placeOf_of_locate (stat_eq_ok.mp hstat).1
      obtain ⟨top, hstat', -, -, rfl⟩ := removeDirectory_eq_ok hremoved
      obtain rfl := eq_placeOf_of_locate (stat_eq_ok.mp hstat').1
      rw [get?_cut_of_not hout, get?_clear_of_not fun hboth => hout hboth.1]
    · obtain rfl := eq_placeOf_of_locate (stat_eq_ok.mp hstat).1
      exact get?_clear_of_not fun hboth => hout hboth.1
  · obtain ⟨top, hstat, -, -, rfl⟩ := removeDirectory_eq_ok hremove
    obtain rfl := eq_placeOf_of_locate (stat_eq_ok.mp hstat).1
    exact get?_cut_of_not hout

namespace FileOperation

/-! ## Operations -/

/-- What an operation that has succeeded has done.  It has left everything as it was, because its
target was there and was to be left, or because there was nothing to delete; or it has created,
moved or deleted, and onto something that was there only if that was to be overwritten. -/
inductive Effects (disk disk' : Disk) : FileOperation → Prop where
  | leftTarget {uri : Uri} {options : Option TargetOptions} {note : Option String}
      {path : FilePath} (hpath : uri.filePath? = some path)
      (hleft : leavesTarget disk path options) (hsame : disk' = disk) :
      Effects disk disk' (.create uri options note)
  | created {uri : Uri} {options : Option TargetOptions} {note : Option String}
      {path : FilePath} (hpath : uri.filePath? = some path)
      (hover : disk.pathExists path → isSet options (·.overwrite))
      (hcreates : Creates path disk disk') : Effects disk disk' (.create uri options note)
  | leftNew {old new : Uri} {options : Option TargetOptions} {note : Option String}
      {path target : FilePath} (hold : old.filePath? = some path)
      (hnew : new.filePath? = some target) (hleft : leavesTarget disk target options)
      (hsame : disk' = disk) : Effects disk disk' (.rename old new options note)
  | moved {old new : Uri} {options : Option TargetOptions} {note : Option String}
      {path target : FilePath} (hold : old.filePath? = some path)
      (hnew : new.filePath? = some target)
      (hover : disk.pathExists target → isSet options (·.overwrite))
      (hrelocates : Relocates path target disk disk') :
      Effects disk disk' (.rename old new options note)
  | absent {uri : Uri} {options : Option DeleteOptions} {path : FilePath}
      (hpath : uri.filePath? = some path) (hnone : ¬ disk.pathExists path)
      (hignore : isSet options (·.ignoreIfNotExists)) (hsame : disk' = disk) :
      Effects disk disk' (.delete uri options)
  | deleted {uri : Uri} {options : Option DeleteOptions} {path : FilePath}
      (hpath : uri.filePath? = some path) (hexists : disk.pathExists path)
      (hdeletes : Deletes path disk disk') : Effects disk disk' (.delete uri options)

variable {operation : FileOperation}

theorem effects_of_done (hclosed : disk.Closed) (h : operation.apply disk = .done disk') :
    operation.Effects disk disk' := by
  cases operation with
  | create uri options note =>
    obtain ⟨path, hpath, h⟩ := withPath_eq_done.mp h
    rcases createFile_eq_done h with ⟨hleft, hsame⟩ | ⟨hover, -, hwrite⟩
    · exact .leftTarget hpath hleft hsame
    · exact .created hpath hover (hclosed.creates hwrite)
  | rename old new options note =>
    obtain ⟨path, hold, h⟩ := withPath_eq_done.mp h
    obtain ⟨target, hnew, h⟩ := withPath_eq_done.mp h
    rcases renameFile_eq_done h with ⟨hleft, hsame⟩ | ⟨hover, -, hrename⟩
    · exact .leftNew hold hnew hleft hsame
    · exact .moved hold hnew hover (hclosed.relocates hrename)
  | delete uri options =>
    obtain ⟨path, hpath, h⟩ := withPath_eq_done.mp h
    rcases deleteFile_takesAway hclosed h with ⟨hnone, hignore, hsame⟩ | ⟨hexists, htakes⟩
    · exact .absent hpath hnone hignore hsame
    · exact .deleted hpath hexists
        (hclosed.deletes hexists htakes fun _ hout => get?_of_deleteFile h hout)

/-- What was at and below the old place of a rename is what is at and below the new one, and of what
was to be deleted nothing is left. -/
def Exact (disk disk' : Disk) : FileOperation → Prop
  | .create _ _ _ => True
  | .rename old new options _ => ∀ path target, old.filePath? = some path →
    new.filePath? = some target → ¬ leavesTarget disk target options →
    ∀ rest, disk'.get? (placeOf target ++ rest) = disk.get? (placeOf path ++ rest)
  | .delete uri _ => ∀ path, uri.filePath? = some path → disk.pathExists path →
    disk'.get? (placeOf path) = none

/-- The way to the new place of a rename lacks something at or below the old one, or the path of a
deletion comes from below its place. -/
def Entangled (disk : Disk) : FileOperation → Prop
  | .create _ _ _ => False
  | .rename old new _ _ => ∃ path target place, old.filePath? = some path ∧
    new.filePath? = some target ∧ OnWay target place ∧ atOrBelow (placeOf path) place ∧
    disk.get? place = none
  | .delete uri _ => ∃ path, uri.filePath? = some path ∧ disk.pathExists path ∧ ComesFromBelow path

theorem Effects.exact_iff (h : operation.Effects disk disk') :
    operation.Exact disk disk' ↔ ¬ operation.Entangled disk := by
  cases h with
  | leftTarget | created => exact iff_of_true trivial id
  | leftNew hold hnew hleft hsame =>
    refine iff_of_true (fun path target hold' hnew' hgo => ?_) ?_
    · obtain rfl := Option.some.inj (hnew.symm.trans hnew')
      exact absurd hleft hgo
    · -- Nothing is missing on the way to what is there.
      rintro ⟨path, target, place, -, hnew', hon, -, hnone⟩
      obtain rfl := Option.some.inj (hnew.symm.trans hnew')
      obtain ⟨found, node, hstat⟩ := pathExists_iff.mp hleft.1
      cases (hon.get? (stat_eq_ok.mp hstat).1).symm.trans hnone
  | moved hold hnew hover hrelocates =>
    constructor
    · rintro hexact ⟨path, target, place, hold', hnew', hon, hbelow, hnone⟩
      obtain rfl := Option.some.inj (hold.symm.trans hold')
      obtain rfl := Option.some.inj (hnew.symm.trans hnew')
      obtain ⟨rest, rfl⟩ := atOrBelow_iff.mp hbelow
      have hsame := hexact _ _ hold hnew (fun hleft => hleft.2.1 (hover hleft.1)) rest
      cases (hrelocates.way rest hon).symm.trans (hsame.trans hnone)
    · intro hnot path target hold' hnew' _ rest
      obtain rfl := Option.some.inj (hold.symm.trans hold')
      obtain rfl := Option.some.inj (hnew.symm.trans hnew')
      rcases hrelocates.moved rest with hsame | ⟨hnone, -, hon⟩
      · exact hsame
      · exact absurd ⟨_, _, _, hold, hnew, hon, atOrBelow_iff.mpr ⟨rest, rfl⟩, hnone⟩ hnot
  | absent hpath hnone hignore hsame =>
    refine iff_of_true (fun path hpath' hexists => ?_) ?_
    · obtain rfl := Option.some.inj (hpath.symm.trans hpath')
      exact absurd hexists hnone
    · rintro ⟨path, hpath', hexists, -⟩
      obtain rfl := Option.some.inj (hpath.symm.trans hpath')
      exact hnone hexists
  | deleted hpath hexists hdeletes =>
    constructor
    · rintro hexact ⟨path, hpath', -, hfrom⟩
      obtain rfl := Option.some.inj (hpath.symm.trans hpath')
      cases (hdeletes.left hfrom).symm.trans (hexact _ hpath hexists)
    · intro hnot path hpath' _
      obtain rfl := Option.some.inj (hpath.symm.trans hpath')
      exact hdeletes.gone fun hfrom => hnot ⟨_, hpath, hexists, hfrom⟩

/-- An operation that succeeds creates, moves or deletes what it is to, if it does not leave all as
it was.  Elsewhere it changes nothing, but it makes the directories that are missing on the way to
its target.  It moves neither more nor less than was there, and leaves nothing of what it deletes,
exactly if it is not entangled: if a directory is missing at or below the old place on the way to
the new one, that is moved along, and if the path of a deletion comes from below its place, an empty
directory is left there. -/
theorem effects_and_exact_iff (hclosed : disk.Closed) (h : operation.apply disk = .done disk') :
    operation.Effects disk disk' ∧ (operation.Exact disk disk' ↔ ¬ operation.Entangled disk) := by
  have heffects := effects_of_done hclosed h
  exact ⟨heffects, heffects.exact_iff⟩

/-- The directory `A` is to move into a directory `M` that is not there. -/
def intoMissing : FileOperation :=
  .rename (.localResource ["A"]) (.localResource ["M", "B"]) none none

theorem not_entangled_intoMissing : ¬ intoMissing.Entangled withDirectory := by
  rintro ⟨path, target, place, hold, hnew, ⟨above, habove, rfl⟩, hbelow, -⟩
  obtain rfl : [47, 65] = path := Option.some.inj hold
  obtain rfl : [47, 77, 47, 66] = target := Option.some.inj hnew
  have hway : above <+: [[77]] := habove
  rcases List.prefix_concat_iff.mp (show above <+: [] ++ [[77]] from hway) with rfl | hnil
  · cases hbelow
  · obtain rfl := List.prefix_nil.mp hnil
    cases hbelow

/-- The directory `M`, and in it `B` with what was in `A`. -/
def afterIntoMissing : Disk :=
  ⟨[([[77], [66], [70]], .file []), ([[77], [66]], .directory), ([[77]], .directory)]⟩

theorem effects_and_exact_iff_intoMissing :
    intoMissing.apply withDirectory = .done afterIntoMissing ∧
      intoMissing.Effects withDirectory afterIntoMissing ∧
      intoMissing.Exact withDirectory afterIntoMissing := by
  have happly : intoMissing.apply withDirectory = .done afterIntoMissing := by decide +kernel
  obtain ⟨heffects, hexact⟩ := effects_and_exact_iff closed_withDirectory happly
  exact ⟨happly, heffects, hexact.mpr not_entangled_intoMissing⟩

/-- The directory `A` is to become `B`, on a way that goes through a directory `x` in it. -/
def throughItself : FileOperation :=
  .rename (.localResource ["A"]) (.localResource ["A", "x%2F..%2F..%2FB"]) none none

theorem not_forall_exact : ¬ ∀ (operation : FileOperation) (disk disk' : Disk), disk.Closed →
    operation.apply disk = .done disk' → operation.Exact disk disk' := by
  intro h
  have happly : throughItself.apply withDirectory =
      .done ⟨[([[66], [120]], .directory), ([[66], [70]], .file []), ([[66]], .directory)]⟩ := by
    decide +kernel
  have hunset : ¬ isSet (none : Option TargetOptions) (·.ignoreIfExists) := Bool.false_ne_true
  cases h _ _ _ closed_withDirectory happly _ _ rfl rfl (fun hleft => hunset hleft.2.2) [[120]]

end FileOperation
end Refactoring
