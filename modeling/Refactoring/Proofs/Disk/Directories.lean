import Refactoring.Proofs.Disk.Files
import Refactoring.Proofs.Disk.Leftovers

/-!
# Making a directory again

A directory is made with those above it that are missing, and those stay when it cannot be made.
Trying again then makes nothing more, and it fails as before.  There is one exception: a path that
steps back can run into a file that only came into sight when directories were made.  The first
attempt tells that something is there already; later ones tell that it is no directory.
-/

namespace Refactoring.Disk

variable {disk made : Disk} {path : FilePath} {steps above pieces : List Name} {e : Error}

/-! ## What is in the way -/

theorem follow_append_of_error {place : Place} (h : disk.follow place above = .error e)
    (rest : List Name) : disk.follow place (above ++ rest) = .error e := by
  rw [follow_append, h]
  rfl

/-- Nothing is found behind a file. -/
theorem follow_append_of_file {place top : Place} (h : disk.follow place above = .ok top)
    {content : List UInt8} (hfile : disk.get? top = some (.file content)) {rest : List Name}
    (hrest : rest ≠ []) : disk.follow place (above ++ rest) = .error .notDirectory := by
  rw [follow_append, h]
  cases rest with
  | nil => exact absurd rfl hrest
  | cons name rest =>
    change disk.follow top (name :: rest) = .error .notDirectory
    rw [follow, hfile]

/-- Names that fail without single dots fail with them. -/
theorem follow_of_filter_eq_error {place : Place}
    (h : disk.follow place (steps.filter (· ≠ [46])) = .error e) :
    disk.follow place steps = .error e := by
  induction steps generalizing place with
  | nil => cases h
  | cons name rest ih =>
    by_cases hdot : name = [46]
    · subst hdot
      have h : disk.follow place (rest.filter (· ≠ [46])) = .error e := h
      have hrest := ih h
      rw [follow]
      cases rest with
      | nil => cases hrest
      | cons second more =>
        -- Without a directory here, what comes behind the dot has failed for the same reason.
        cases hnode : disk.get? place with
        | none =>
          rw [follow, hnode] at hrest
          exact hrest
        | some node =>
          cases node with
          | file content =>
            rw [follow, hnode] at hrest
            exact hrest
          | directory =>
            dsimp only
            rw [if_pos rfl]
            exact hrest
    · rw [List.filter_cons, if_pos (by simpa using hdot)] at h
      rw [follow] at h ⊢
      cases hnode : disk.get? place with
      | none =>
        rw [hnode] at h
        exact h
      | some node =>
        rw [hnode] at h
        cases node with
        | file content => exact h
        | directory =>
          dsimp only at h ⊢
          rw [if_neg hdot] at h ⊢
          split
          · rename_i hdots
            rw [if_pos hdots] at h
            exact ih h
          · rename_i hdots
            rw [if_neg hdots] at h
            split
            · rename_i hlong
              rw [if_pos hlong] at h
              exact h
            · rename_i hlong
              rw [if_neg hlong] at h
              exact ih h

/-- Why a path whose steps fail is not found, if it is a path at all. -/
theorem locate_of_follow_eq_error {found : List Name} (hchecked : checkedNames path = .ok found)
    (h : disk.follow [] (pathSteps path) = .error e) : disk.locate path = .error e := by
  rw [locate, hchecked, ok_bind, checkedNames_eq_ok hchecked]
  rw [pathSteps_eq] at h
  exact follow_of_filter_eq_error h

/-- When a path is not found although it is one, something is missing on the way that its steps
go. -/
theorem gap_of_locate (h : disk.locate path = .error .noEntry) :
    path = [] ∨ (∃ found, checkedNames path = .ok found) ∧ disk.Gap (pathSteps path) := by
  by_cases hnil : path = []
  · exact .inl hnil
  · right
    cases hchecked : checkedNames path with
    | error e =>
      rw [locate, hchecked] at h
      obtain rfl : e = .noEntry := Except.error.inj h
      rw [checkedNames, if_neg hnil] at hchecked
      split at hchecked
      · cases hchecked
      · split at hchecked <;> cases hchecked
    | ok found =>
      rw [locate, hchecked, ok_bind, checkedNames_eq_ok hchecked] at h
      refine ⟨⟨found, rfl⟩, ?_⟩
      obtain ⟨above, place, habove, -, hfollow, hnone⟩ := exists_missing_of_follow h
      refine ⟨_, place, ?_, follow_filter hfollow, hnone⟩
      rw [pathSteps_eq]
      exact habove.filter _

/-- A directory can be made for want of nothing but directories above it, or not at all. -/
theorem make_eq_noEntry (h : disk.make path = .error .noEntry) :
    disk.locate path = .error .noEntry := by
  rw [make] at h
  cases hlocate : disk.locate path with
  | error e =>
    rw [hlocate, error_bind] at h
    exact congrArg _ (Except.error.inj h)
  | ok place =>
    rw [hlocate, ok_bind] at h
    cases hnode : disk.get? place with
    | none =>
      rw [hnode] at h
      cases h
    | some node =>
      rw [hnode] at h
      cases h

theorem make_of_locate_eq_error (h : disk.locate path = .error e) : disk.make path = .error e := by
  rw [make, h]
  rfl

theorem not_pathExists_of_locate_eq_error (h : disk.locate path = .error e) :
    ¬ disk.pathExists path := by
  intro hexists
  obtain ⟨place, node, hstat⟩ := pathExists_iff.mp hexists
  cases h.symm.trans (stat_eq_ok.mp hstat).1

theorem pathExists_of_isDirectory (h : disk.isDirectory path) : disk.pathExists path := by
  obtain ⟨place, hstat⟩ := isDirectory_iff.mp h
  exact pathExists_iff.mpr ⟨place, .directory, hstat⟩

/-- A directory that was made is there. -/
theorem isDirectory_of_make (h : disk.make path = .ok made) : made.isDirectory path := by
  have hext := Extends.of_make h
  obtain ⟨place, hlocate, hnone, rfl⟩ := make_eq_ok h
  exact isDirectory_iff.mpr ⟨place, stat_eq_ok.mpr
    ⟨hext.locate hlocate, get?_set_self disk _ (ne_nil_of_none hnone), fun _ => rfl⟩⟩

/-- Where a path leads to a place, only a file keeps a directory from being made or being there. -/
theorem file_of_make_eq_error {place : Place} (hlocate : disk.locate path = .ok place)
    (hmake : disk.make path = .error e) (hdir : ¬ disk.isDirectory path) :
    e = .fileExists ∧ ∃ content, disk.get? place = some (.file content) := by
  rw [make, hlocate, ok_bind] at hmake
  cases hnode : disk.get? place with
  | none =>
    rw [hnode] at hmake
    cases hmake
  | some node =>
    rw [hnode] at hmake
    cases hmake
    cases node with
    | file content => exact ⟨rfl, content, rfl⟩
    | directory =>
      exact absurd (isDirectory_iff.mpr ⟨place, stat_eq_ok.mpr
        ⟨hlocate, hnode, fun _ => rfl⟩⟩) hdir

/-! ## One directory -/

section

variable {first : Disk × Except Error Unit}

theorem isDirectory_of_makeAfter (h : disk.makeAfter path first = (made, .ok ())) :
    made.isDirectory path := by
  unfold makeAfter at h
  split at h
  · rename_i hmake
    cases h
    exact isDirectory_of_make hmake
  · split at h
    · cases h
    · split at h
      · rename_i hmake
        cases h
        exact isDirectory_of_make hmake
      · split at h
        · rename_i hdir
          cases h
          exact hdir
        · cases h
  · split at h
    · rename_i hdir
      cases h
      exact hdir
    · cases h

/-- A directory is not made because of what is in its place, because those above it cannot be made,
or because of what is in its place when they have been made. -/
theorem makeAfter_eq_error (h : disk.makeAfter path first = (made, .error e)) :
    (made = disk ∧ e ≠ .noEntry ∧ disk.make path = .error e ∧ ¬ disk.isDirectory path) ∨
      disk.make path = .error .noEntry ∧ (first = (made, .error e) ∨
        first = (made, .ok ()) ∧ made.make path = .error e ∧ ¬ made.isDirectory path) := by
  cases hmake : disk.make path with
  | ok next =>
    rw [makeAfter_of_ok _ hmake] at h
    cases h
  | error reason =>
    by_cases hreason : reason = .noEntry
    · subst hreason
      obtain ⟨middle, outcome⟩ := first
      rcases makeAfter_of_noEntry (middle, outcome) hmake with
        ⟨other, -, hsame⟩ | ⟨rfl, ⟨-, hok⟩ | ⟨other, hagain, hsame⟩⟩
      · exact .inr ⟨rfl, .inl (hsame.symm.trans h)⟩
      · rw [h] at hok
        cases hok
      · rw [hsame] at h
        split at h
        · cases h
        · rename_i hdir
          cases h
          exact .inr ⟨rfl, .inr ⟨rfl, hagain, hdir⟩⟩
    · rw [makeAfter_of_error _ hmake hreason] at h
      split at h
      · cases h
      · rename_i hdir
        cases h
        exact .inl ⟨rfl, hreason, rfl, hdir⟩

/-- A directory that is there need not be made. -/
theorem makeAfter_of_isDirectory (h : disk.isDirectory path) :
    disk.makeAfter path first = (disk, .ok ()) := by
  obtain ⟨place, hstat⟩ := isDirectory_iff.mp h
  obtain ⟨hlocate, hnode, -⟩ := stat_eq_ok.mp hstat
  have hmake : disk.make path = .error .fileExists := by
    rw [make, hlocate, ok_bind, hnode]
  rw [makeAfter_of_error _ hmake (by decide), if_pos h]

/-- What has failed for another reason than a missing directory fails again. -/
theorem makeAfter_again (hmake : disk.make path = .error e) (he : e ≠ .noEntry)
    (hdir : ¬ disk.isDirectory path) : disk.makeAfter path first = (disk, .error e) := by
  rw [makeAfter_of_error _ hmake he, if_neg hdir]

end

/-! ## The directories above -/

/-- Steps that are hindered: they fail for another reason than that something is missing, or they
lead to a file. -/
def Hindered (disk : Disk) (steps : List Name) (e : Error) : Prop :=
  e ≠ .noEntry ∧ disk.follow [] steps = .error e ∨
    e = .fileExists ∧ ∃ place content, disk.follow [] steps = .ok place ∧
      disk.get? place = some (.file content)

/-- When a directory that steps lead to cannot be made although nothing is missing, the steps are
hindered. -/
theorem hindered_of_make (hlocate : disk.locate path = disk.follow [] steps)
    (hmake : disk.make path = .error e) (he : e ≠ .noEntry) (hdir : ¬ disk.isDirectory path) :
    disk.Hindered steps e := by
  cases hfollow : disk.follow [] steps with
  | error other =>
    rw [hfollow] at hlocate
    rw [make_of_locate_eq_error hlocate] at hmake
    cases hmake
    exact .inl ⟨he, hfollow⟩
  | ok place =>
    obtain ⟨he, content, hfile⟩ := file_of_make_eq_error (hlocate.trans hfollow) hmake hdir
    exact .inr ⟨he, place, content, hfollow, hfile⟩

/-- Nothing is missing on the way to directories that were made. -/
theorem not_gap_of_makeUp (hslash : ∀ piece ∈ pieces, 47 ∉ piece) (hpath : IsPath (stepPath pieces))
    (h : disk.makeUp pieces = (made, .ok ())) : ¬ made.Gap (stepsUp pieces) := by
  induction pieces with
  | nil => exact not_gap_nil made
  | cons piece above ih =>
    by_cases hidle : isIdle piece
    · rw [makeUp_of_idle disk hidle] at h
      rw [stepPath_of_idle hidle] at hpath
      rw [stepsUp_cons_of_idle hidle]
      exact ih (fun p hp => hslash p (List.mem_cons_of_mem _ hp)) hpath h
    · rw [makeUp_cons disk hidle] at h
      rw [stepPath_cons hidle] at hpath
      have hexists := pathExists_of_isDirectory (isDirectory_of_makeAfter h)
      obtain ⟨place, node, hstat⟩ := pathExists_iff.mp hexists
      obtain ⟨hlocate, hnode, -⟩ := stat_eq_ok.mp hstat
      rw [made.locate_pathUp hidle hslash hpath] at hlocate
      exact not_gap_of_follow_eq_ok hlocate (by simp [hnode])

/-- Directories above cannot be made because of what hinders the steps to one of them. -/
theorem exists_hindered_of_makeUp (hslash : ∀ piece ∈ pieces, 47 ∉ piece)
    (hpath : IsPath (stepPath pieces)) (h : disk.makeUp pieces = (made, .error e)) :
    ∃ above, above <+: stepsUp pieces ∧ made.Hindered above e := by
  induction pieces with
  | nil => cases h
  | cons piece above ih =>
    have habove : ∀ p ∈ above, 47 ∉ p := fun p hp => hslash p (List.mem_cons_of_mem _ hp)
    by_cases hidle : isIdle piece
    · rw [makeUp_of_idle disk hidle] at h
      rw [stepPath_of_idle hidle] at hpath
      rw [stepsUp_cons_of_idle hidle]
      exact ih habove hpath h
    · rw [makeUp_cons disk hidle] at h
      rw [stepPath_cons hidle] at hpath
      have hlocate (disk : Disk) := disk.locate_pathUp hidle hslash hpath
      rcases makeAfter_eq_error h with ⟨rfl, he, hmake, hdir⟩ | ⟨-, hfirst | ⟨hok, hmake, hdir⟩⟩
      · exact ⟨_, List.prefix_rfl, hindered_of_make (hlocate _) hmake he hdir⟩
      · obtain ⟨top, htop, hhindered⟩ := ih habove hpath.stepPath hfirst
        rw [stepsUp_cons hidle]
        exact ⟨top, htop.trans (List.prefix_append _ _), hhindered⟩
      · refine ⟨_, List.prefix_rfl, hindered_of_make (hlocate _) hmake ?_ hdir⟩
        rintro rfl
        have hgap := not_gap_of_makeUp habove hpath.stepPath hok
        rcases make_cases (hlocate made) with
          ⟨hfollow, -⟩ | ⟨place, -, -, hother⟩ | ⟨-, e', he', hother⟩
        · rw [stepsUp_cons hidle] at hfollow
          exact hgap (.of_follow hfollow)
        · cases hother.symm.trans hmake
        · exact he' (Except.error.inj (hother.symm.trans hmake))

/-- Directories above that were made need not be made again. -/
theorem makeUp_again (h : disk.makeUp pieces = (made, .ok ())) :
    made.makeUp pieces = (made, .ok ()) := by
  induction pieces with
  | nil => rfl
  | cons piece above ih =>
    by_cases hidle : isIdle piece
    · rw [makeUp_of_idle _ hidle] at h ⊢
      exact ih h
    · rw [makeUp_cons _ hidle] at h ⊢
      exact makeAfter_of_isDirectory (isDirectory_of_makeAfter h)

/-! ## A directory with those above it -/

/-- Nothing is missing on a way on which there is a file. -/
theorem not_gap_of_file {place : Place} {content : List UInt8} (habove : above <+: steps)
    (hfollow : disk.follow [] above = .ok place)
    (hfile : disk.get? place = some (.file content)) : ¬ disk.Gap steps := by
  obtain ⟨rest, rfl⟩ := habove
  by_cases hnil : rest = []
  · subst hnil
    rw [List.append_nil]
    exact not_gap_of_follow_eq_ok hfollow (by simp [hfile])
  · exact not_gap_of_follow_eq_error (follow_append_of_file hfollow hfile hnil) nofun

/-- In a tree something is missing on the way that a path goes, and when directories have been
made there is a file on it.  Then the path steps back. -/
theorem Extends.not_straight (hext : Extends [] disk made) (hclosed : disk.Closed)
    (hgap : disk.Gap (pathSteps path)) (habove : above <+: pathSteps path) {place : Place}
    {content : List UInt8} (hfollow : made.follow [] above = .ok place)
    (hfile : made.get? place = some (.file content)) : ¬ Straight path := by
  intro hstraight
  have hback : [46, 46] ∉ above := by
    intro hmem
    have hstep := habove.subset hmem
    rw [pathSteps_eq] at hstep
    exact hstraight (List.mem_of_mem_filter hstep)
  have hfile' : disk.get? place = some (.file content) := hext.get?_eq_file (by simp) hfile
  exact not_gap_of_file habove (hext.follow_back hclosed hback hfollow hfile') hfile' hgap

/-- What comes of a second attempt to make a directory when the first one has failed: it fails for
the same reason and makes nothing, or the path steps back and ran into a file after directories had
been made. -/
inductive FailsAgain (path : FilePath) (disk made : Disk) (e : Error) : Prop
  | same (hexists : ¬ made.pathExists path) (h : made.makeAll path = (made, .error e))
  | behind (he : e = .fileExists) (hstraight : ¬ Straight path) (hmade : made ≠ disk)
      (hfile : made.locate path = .error .notDirectory)
  | file (he : e = .fileExists) (hstraight : ¬ Straight path) (hmade : made ≠ disk) {place : Place}
      {content : List UInt8} (hfile : made.stat path = .ok (place, .file content))

theorem makeAll_eq (hpath : path ≠ []) (disk : Disk) :
    disk.makeAll path = disk.makeAfter path (disk.makeParent path) :=
  if_neg hpath

theorem makeAll_of_locate_eq_error (hpath : path ≠ []) (h : disk.locate path = .error e)
    (he : e ≠ .noEntry) : disk.makeAll path = (disk, .error e) := by
  rw [makeAll_eq hpath]
  exact makeAfter_again (make_of_locate_eq_error h) he fun hdir =>
    not_pathExists_of_locate_eq_error h (pathExists_of_isDirectory hdir)

/-- A directory that cannot be made because of the ones above it. -/
theorem Closed.failsAgain_of_makeParent (hclosed : disk.Closed) (hnil : path ≠ [])
    (hlocate : disk.locate path = .error .noEntry) (hmade : made ≠ disk)
    (h : disk.makeParent path = (made, .error e)) : FailsAgain path disk made e := by
  have hext : Extends [] disk made := by
    have := (hclosed.makeParent path).2
    rwa [h] at this
  have hpath : IsPath (parentPath path) := by
    by_contra hpath
    have hself : (disk.makeParent path).1 = disk :=
      makeParent_eq_self fun hlacks => hpath hlacks.1
    rw [h] at hself
    exact hmade hself
  obtain ⟨above, habove, hhindered⟩ :=
    exists_hindered_of_makeUp (fun _ => not_mem_of_mem_piecesAbove) hpath h
  rw [stepsUp_piecesAbove] at habove
  -- Something is missing on the way, and so the path has one more step behind it.
  have hsteps : pathSteps path ≠ [] := by
    intro hnil
    have hself : (disk.makeParent path).1 = disk := makeParent_eq_self fun hlacks => by
      have hgap := hlacks.2
      rw [wayTo, hnil] at hgap
      exact disk.not_gap_nil hgap
    rw [h] at hself
    exact hmade hself
  obtain ⟨more, hmore⟩ := habove
  have hsplit : pathSteps path = above ++ (more ++ [(pathSteps path).getLast hsteps]) := by
    rw [← List.append_assoc, hmore, wayTo, List.dropLast_append_getLast]
  obtain rfl | ⟨⟨found, hchecked⟩, hgap⟩ := gap_of_locate hlocate
  · exact absurd rfl hsteps
  · rcases hhindered with ⟨he, hfollow⟩ | ⟨rfl, place, content, hfollow, hfile⟩
    · have hfails : made.locate path = .error e := by
        refine locate_of_follow_eq_error hchecked ?_
        rw [hsplit]
        exact follow_append_of_error hfollow _
      exact .same (not_pathExists_of_locate_eq_error hfails)
        (makeAll_of_locate_eq_error hnil hfails he)
    · refine .behind rfl ?_ hmade (locate_of_follow_eq_error hchecked ?_)
      · exact hext.not_straight hclosed hgap ⟨_, hsplit.symm⟩ hfollow hfile
      · rw [hsplit]
        exact follow_append_of_file hfollow hfile (by simp)

/-- When the ones above it are there, another attempt fails as the last one did. -/
theorem makeAll_again (hnil : path ≠ []) (h : disk.makeParent path = (made, .ok ()))
    (hmake : made.make path = .error e) (hdir : ¬ made.isDirectory path) :
    made.makeAll path = (made, .error e) := by
  rw [makeAll_eq hnil]
  by_cases he : e = .noEntry
  · subst he
    have hparent : made.makeParent path = (made, .ok ()) := makeUp_again h
    unfold makeAfter
    rw [hmake, hparent]
    dsimp only
    rw [hmake]
    dsimp only
    rw [if_neg hdir]
  · exact makeAfter_again hmake he hdir

/-- A directory that cannot be made although the ones above it are there. -/
theorem Closed.failsAgain_of_make (hclosed : disk.Closed) (hnil : path ≠ [])
    (hlocate : disk.locate path = .error .noEntry) (hmade : made ≠ disk)
    (h : disk.makeParent path = (made, .ok ())) (hmake : made.make path = .error e)
    (hdir : ¬ made.isDirectory path) : FailsAgain path disk made e := by
  have hext : Extends [] disk made := by
    have := (hclosed.makeParent path).2
    rwa [h] at this
  have hagain := makeAll_again hnil h hmake hdir
  by_cases hexists : made.pathExists path
  · obtain ⟨place, node, hstat⟩ := pathExists_iff.mp hexists
    obtain ⟨hplace, hnode, -⟩ := stat_eq_ok.mp hstat
    obtain ⟨he, content, hfile⟩ := file_of_make_eq_error hplace hmake hdir
    obtain rfl : node = .file content := Option.some.inj (hnode.symm.trans hfile)
    obtain rfl | ⟨-, hgap⟩ := gap_of_locate hlocate
    · cases h
      exact absurd rfl hmade
    · have hfollow := follow_filter (locate_eq_ok.mp hplace).2
      rw [← pathSteps_eq] at hfollow
      exact .file he (hext.not_straight hclosed hgap List.prefix_rfl hfollow hfile) hmade hstat
  · exact .same hexists hagain

/-- A directory that could not be made cannot be made in a second attempt either. -/
theorem Closed.failsAgain (hclosed : disk.Closed) (hexists : ¬ disk.pathExists path)
    (h : disk.makeAll path = (made, .error e)) : FailsAgain path disk made e := by
  by_cases hmade : made = disk
  · subst hmade
    exact .same hexists h
  · have hnil : path ≠ [] := by
      rintro rfl
      cases h
    rw [makeAll_eq hnil] at h
    rcases makeAfter_eq_error h with ⟨hsame, -⟩ | ⟨hnone, hfirst | ⟨hok, hmake, hdir⟩⟩
    · exact absurd hsame hmade
    · exact hclosed.failsAgain_of_makeParent hnil (make_eq_noEntry hnone) hmade hfirst
    · exact hclosed.failsAgain_of_make hnil (make_eq_noEntry hnone) hmade hok hmake hdir

/-! ## What is made -/

/-- Only directories on the way are made, and the one that the path leads to. -/
theorem makeAll_addsOnWay (disk : Disk) (path : FilePath) :
    AddsOnWay (pathSteps path) disk (disk.makeAll path).1 := by
  have hparent := (makeParent_addsOnWay disk path).mono (List.dropLast_prefix (pathSteps path))
  have hmake {start made : Disk} (h : start.make path = .ok made) :
      AddsOnWay (pathSteps path) start made :=
    .of_make h (placeOf_eq_walk_pathSteps path)
  by_cases hnil : path = []
  · subst hnil
    exact .refl _ disk
  rw [makeAll_eq hnil]
  unfold makeAfter
  split
  · rename_i made hmade
    exact hmake hmade
  · split
    · rename_i made e hfirst
      rw [hfirst] at hparent
      exact hparent
    · rename_i made hfirst
      rw [hfirst] at hparent
      split
      · rename_i last hlast
        exact hparent.trans (hmake hlast)
      · exact hparent
  · exact .refl _ disk

end Refactoring.Disk
