import Mathlib.Data.List.Basic
import Mathlib.Data.List.Induction
import Refactoring.Proofs.Disk.Routes

/-!
# What is left of operations that fail

The directories on the way to a target are made one after the other, from the first one that is
missing, and those that are made stay when the next one cannot be.  The tree is as before if and
only if none of them is missing or the way can be no path.  A deletion of a directory with all that
is in it takes that away first; it can fail after that only when its path does not end in a name.
-/

namespace Refactoring.Disk

variable {disk disk' middle : Disk} {path : FilePath} {steps pieces : List Name}

/-! ## Names and paths -/

theorem names_append_slash (front rest : FilePath) :
    names (front ++ 47 :: rest) = names front ++ names rest := by
  rw [names, List.splitOn_append_cons_self, List.filter_append]
  rfl

/-- The names of a path that count when its parent is taken. -/
def pathSteps (path : FilePath) : List Name := Uri.pathNames path

/-- The steps of a path are its names without single dots. -/
theorem pathSteps_eq (path : FilePath) : pathSteps path = (names path).filter (· ≠ [46]) := by
  rw [names, List.filter_filter]
  refine List.filter_congr fun name _ => ?_
  rw [← Bool.decide_and, decide_eq_decide]
  exact and_comm

theorem not_mem_of_mem_splitOn {name : Name} (h : name ∈ path.splitOn 47) : 47 ∉ name := by
  induction path generalizing name with
  | nil =>
    rw [List.splitOn_nil, List.mem_singleton] at h
    simp [h]
  | cons byte rest ih =>
    rw [List.splitOn_cons_eq_if_modifyHead] at h
    split at h
    · rcases List.mem_cons.mp h with rfl | h
      · simp
      · exact ih h
    · -- The byte is no slash and goes to the first name of the rest.
      rename_i hbyte
      cases hrest : rest.splitOn 47 with
      | nil => exact absurd hrest (List.splitOn_ne_nil 47 rest)
      | cons first others =>
        rw [hrest] at h ih
        rcases List.mem_cons.mp h with rfl | h
        · rw [List.mem_cons, not_or]
          exact ⟨fun heq => hbyte (beq_iff_eq.mpr heq.symm), ih List.mem_cons_self⟩
        · exact ih (List.mem_cons_of_mem _ h)

/-- Some bytes can be a path. -/
def IsPath (path : FilePath) : Prop := 0 ∉ path ∧ path.length ≤ longestPath

theorem IsPath.of_isPrefix {front : FilePath} (h : IsPath path) (hfront : front <+: path) :
    IsPath front :=
  ⟨fun hnul => h.1 (hfront.subset hnul), Nat.le_trans hfront.length_le h.2⟩

theorem checkedNames_of_isPath (h : IsPath path) (hnil : path ≠ []) :
    checkedNames path = .ok (names path) := by
  unfold checkedNames
  rw [if_neg (by simpa using h.1), if_neg hnil, if_neg (Nat.not_lt_of_ge h.2)]

theorem isPath_of_checkedNames {found : List Name} (h : checkedNames path = .ok found) :
    IsPath path := by
  unfold checkedNames at h
  split at h
  · cases h
  · rename_i hnul
    split at h
    · cases h
    · split at h
      · cases h
      · rename_i hlong
        exact ⟨by simpa using hnul, Nat.le_of_not_gt hlong⟩

/-! ## Pieces of paths

The pieces of a path are what stands between its slashes, and here the last one comes first, so that
the path of the pieces above one is the front of a path. -/

section

variable {piece : Name}

/-- The steps among pieces. -/
def stepsUp (pieces : List Name) : List Name := (pieces.filter (!isIdle ·)).reverse

theorem stepsUp_cons_of_idle (h : isIdle piece) (above : List Name) :
    stepsUp (piece :: above) = stepsUp above := by
  rw [stepsUp, List.filter_cons, if_neg (by simp [h])]
  rfl

theorem stepsUp_cons (h : ¬ isIdle piece) (above : List Name) :
    stepsUp (piece :: above) = stepsUp above ++ [piece] := by
  rw [stepsUp, List.filter_cons, if_pos (by simpa using h), List.reverse_cons]
  rfl

theorem pathUp_cons (piece : Name) {above : List Name} (h : above ≠ []) :
    pathUp (piece :: above) = pathUp above ++ 47 :: piece := by
  have hconcat (pieces : List Name) (hne : pieces ≠ []) :
      [47].intercalate (pieces ++ [piece]) = [47].intercalate pieces ++ 47 :: piece := by
    induction pieces with
    | nil => exact absurd rfl hne
    | cons first rest ih =>
      by_cases hrest : rest = []
      · subst hrest
        simp [List.intercalate]
      · rw [List.cons_append, List.intercalate_cons_of_ne_nil (by simp), ih hrest,
          List.intercalate_cons_of_ne_nil hrest]
        simp
  rw [pathUp, List.reverse_cons, hconcat _ (by simpa using h), pathUp]

/-- The path of the pieces above is the front of a path. -/
theorem isPrefix_pathUp {above : List Name} (h : above <:+ pieces) :
    pathUp above <+: pathUp pieces := by
  obtain ⟨below, rfl⟩ := h
  induction below with
  | nil => exact List.prefix_rfl
  | cons piece below ih =>
    refine ih.trans ?_
    by_cases hnil : below ++ above = []
    · rw [hnil]
      exact List.nil_prefix
    · rw [List.cons_append, pathUp_cons piece hnil]
      exact List.prefix_append _ _

/-- Pieces that hold no slash come apart again. -/
theorem names_pathUp (hslash : ∀ piece ∈ pieces, 47 ∉ piece) :
    names (pathUp pieces) = (pieces.filter (· ≠ [])).reverse := by
  by_cases hnil : pieces = []
  · subst hnil
    rfl
  · have hslash' : ∀ piece ∈ pieces.reverse, 47 ∉ piece := by simpa using hslash
    rw [names, pathUp, List.splitOn_intercalate 47 hslash' (by simpa using hnil),
      List.filter_reverse]

theorem pathUp_ne_nil (h : ¬ isIdle piece) (above : List Name) : pathUp (piece :: above) ≠ [] := by
  intro hnil
  by_cases habove : above = []
  · subst habove
    have hpiece : piece = [] := by simpa [pathUp, List.intercalate] using hnil
    exact h (by rw [hpiece]; rfl)
  · rw [pathUp_cons piece habove] at hnil
    simp at hnil

/-- The steps among pieces are the names of their path without single dots. -/
theorem filter_names_pathUp (hslash : ∀ piece ∈ pieces, 47 ∉ piece) :
    (names (pathUp pieces)).filter (· ≠ [46]) = stepsUp pieces := by
  rw [names_pathUp hslash, List.filter_reverse, List.filter_filter, stepsUp]
  congr 2
  funext piece
  simp [isIdle, Bool.and_comm]

end

/-! ## Ways with something missing -/

theorem follow_append (disk : Disk) (place : Place) (above rest : List Name) :
    disk.follow place (above ++ rest) =
      disk.follow place above >>= fun next => disk.follow next rest := by
  induction above generalizing place with
  | nil => rfl
  | cons name above ih =>
    rw [List.cons_append, follow, follow]
    cases disk.get? place with
    | none => rfl
    | some node =>
      cases node with
      | file content => rfl
      | directory =>
        dsimp only
        split
        · exact ih _
        · split
          · exact ih _
          · split
            · rfl
            · exact ih _

/-- On the way that some names go from the root, something is missing. -/
def Gap (disk : Disk) (steps : List Name) : Prop :=
  ∃ above place, above <+: steps ∧ disk.follow [] above = .ok place ∧ disk.get? place = none

theorem not_gap_nil (disk : Disk) : ¬ disk.Gap [] := by
  rintro ⟨above, place, habove, hfollow, hnone⟩
  obtain rfl := List.prefix_nil.mp habove
  cases hfollow
  cases hnone

theorem Gap.mono {above : List Name} (h : disk.Gap above) (habove : above <+: steps) :
    disk.Gap steps := by
  obtain ⟨first, place, hfirst, h⟩ := h
  exact ⟨first, place, hfirst.trans habove, h⟩

/-- Names that are not found go past a place where nothing stands. -/
theorem exists_missing_of_follow {place : Place} (h : disk.follow place steps = .error .noEntry) :
    ∃ above next, above <+: steps ∧ above ≠ steps ∧ disk.follow place above = .ok next ∧
      disk.get? next = none := by
  induction steps generalizing place with
  | nil => cases h
  | cons name rest ih =>
    cases hnode : disk.get? place with
    | none => exact ⟨[], place, List.nil_prefix, (List.cons_ne_nil _ _).symm, rfl, hnode⟩
    | some node =>
      rw [follow, hnode] at h
      cases node with
      | file content => cases h
      | directory =>
        dsimp only at h
        -- The places that are passed by the rest are passed by all.
        have hcons {next : Place} (hrest : disk.follow next rest = .error .noEntry)
            (hname : ∀ more, disk.follow place (name :: more) = disk.follow next more) :
            ∃ above next, above <+: name :: rest ∧ above ≠ name :: rest ∧
              disk.follow place above = .ok next ∧ disk.get? next = none := by
          obtain ⟨above, last, habove, hne, hfollow, hnone⟩ := ih hrest
          exact ⟨name :: above, last, List.cons_prefix_cons.mpr ⟨rfl, habove⟩, by simpa using hne,
            (hname above).trans hfollow, hnone⟩
        split at h
        · rename_i hdot
          exact hcons h fun more => by rw [follow, hnode, hdot]; rfl
        · split at h
          · rename_i hdot hdots
            exact hcons h fun more => by rw [follow, hnode]; simp [hdots]
          · split at h
            · cases h
            · rename_i hdot hdots hlong
              exact hcons h fun more => by rw [follow, hnode]; simp [hdot, hdots, hlong]

/-- When names are not found, something is missing before the last one. -/
theorem Gap.of_follow {name : Name} (h : disk.follow [] (steps ++ [name]) = .error .noEntry) :
    disk.Gap steps := by
  obtain ⟨above, place, habove, hne, hrest⟩ := exists_missing_of_follow h
  exact ⟨above, place, (List.prefix_concat_iff.mp habove).resolve_left hne, hrest⟩

/-- Names on whose way something is missing are not found, or what they lead to is missing. -/
theorem Gap.follow (h : disk.Gap steps) : disk.follow [] steps = .error .noEntry ∨
    ∃ place, disk.follow [] steps = .ok place ∧ disk.get? place = none := by
  obtain ⟨above, place, ⟨more, rfl⟩, hfollow, hnone⟩ := h
  rw [follow_append, hfollow]
  cases more with
  | nil => exact .inr ⟨place, rfl, hnone⟩
  | cons name rest =>
    left
    change disk.follow place (name :: rest) = .error .noEntry
    rw [Disk.follow, hnone]

/-- Nothing is missing on the way to a place where something stands. -/
theorem not_gap_of_follow_eq_ok {place : Place} (h : disk.follow [] steps = .ok place)
    (hplace : disk.get? place ≠ none) : ¬ disk.Gap steps := by
  intro hgap
  rcases hgap.follow with hnone | ⟨other, hother, hnone⟩
  · cases h.symm.trans hnone
  · obtain rfl := Except.ok.inj (h.symm.trans hother)
    exact hplace hnone

theorem not_gap_of_follow_eq_error {e : Error} (h : disk.follow [] steps = .error e)
    (he : e ≠ .noEntry) : ¬ disk.Gap steps := by
  intro hgap
  rcases hgap.follow with hnone | ⟨place, hplace, -⟩
  · exact he (Except.error.inj (h.symm.trans hnone))
  · cases h.symm.trans hplace

/-- Single dots can be left out. -/
theorem follow_filter {place target : Place} (h : disk.follow place steps = .ok target) :
    disk.follow place (steps.filter (· ≠ [46])) = .ok target := by
  induction steps generalizing place with
  | nil => exact h
  | cons name rest ih =>
    obtain ⟨hdir, ⟨rfl, hrest⟩ | ⟨rfl, hrest⟩ | ⟨hdot, hdots, hlong, hrest⟩⟩ :=
      follow_cons_eq_ok.mp h
    · exact ih hrest
    · exact follow_cons_eq_ok.mpr ⟨hdir, .inr (.inl ⟨rfl, ih hrest⟩)⟩
    · rw [List.filter_cons, if_pos (by simpa using hdot)]
      exact follow_cons_eq_ok.mpr ⟨hdir, .inr (.inr ⟨hdot, hdots, hlong, ih hrest⟩)⟩

/-- Single dots before the last name make no difference. -/
theorem follow_filter_concat (disk : Disk) (place : Place) (steps : List Name) (name : Name) :
    disk.follow place (steps.filter (· ≠ [46]) ++ [name]) =
      disk.follow place (steps ++ [name]) := by
  induction steps generalizing place with
  | nil => rfl
  | cons first rest ih =>
    by_cases hdot : first = [46]
    · subst hdot
      obtain ⟨second, more, hrest⟩ : ∃ second more, rest ++ [name] = second :: more :=
        List.exists_cons_of_ne_nil (by simp)
      have hleft : ([46] :: rest).filter (· ≠ [46]) = rest.filter (· ≠ [46]) := rfl
      -- The name behind the dot needs a directory at the same place.
      rw [hleft, ih, List.cons_append, follow, hrest, follow]
      cases disk.get? place with
      | none => rfl
      | some node =>
        cases node with
        | file content => rfl
        | directory =>
          dsimp only
          rw [if_pos rfl]
    · rw [List.filter_cons, if_pos (by simpa using hdot), List.cons_append, List.cons_append,
        follow, follow, ih, ih]
      cases disk.get? place with
      | none => rfl
      | some node =>
        cases node with
        | file content => rfl
        | directory => rw [ih]

theorem walk_filter (place : Place) (steps : List Name) :
    walk place (steps.filter (· ≠ [46])) = walk place steps := by
  induction steps generalizing place with
  | nil => rfl
  | cons name rest ih =>
    by_cases hdot : name = [46]
    · rw [walk, if_pos hdot, ← ih place, List.filter_cons, if_neg (by simpa using hdot)]
    · rw [List.filter_cons, if_pos (by simpa using hdot), walk, walk, if_neg hdot, if_neg hdot,
        ih, ih]

/-- A path leads where its steps do. -/
theorem placeOf_eq_walk_pathSteps (path : FilePath) : placeOf path = walk [] (pathSteps path) := by
  rw [placeOf, pathSteps_eq, walk_filter]

/-- Nothing is missing on the way to what is there. -/
theorem not_gap_of_pathExists (h : disk.pathExists path) : ¬ disk.Gap (pathSteps path) := by
  obtain ⟨place, node, hstat⟩ := pathExists_iff.mp h
  obtain ⟨hlocate, hnode, -⟩ := stat_eq_ok.mp hstat
  have hfollow := follow_filter (locate_eq_ok.mp hlocate).2
  rw [← pathSteps_eq] at hfollow
  exact not_gap_of_follow_eq_ok hfollow (by simp [hnode])

/-! ## Directories on the way -/

/-- From one tree to another only directories are added, on the way that some names go. -/
structure AddsOnWay (steps : List Name) (disk disk' : Disk) : Prop where
  added : Extends [] disk disk'
  on_way : ∀ place, disk'.get? place ≠ disk.get? place →
    ∃ above, above <+: steps ∧ place = walk [] above

namespace AddsOnWay

theorem refl (steps : List Name) (disk : Disk) : AddsOnWay steps disk disk :=
  ⟨.refl [] disk, fun _ h => absurd rfl h⟩

theorem trans (h : AddsOnWay steps disk middle) (h' : AddsOnWay steps middle disk') :
    AddsOnWay steps disk disk' := by
  refine ⟨h.added.trans h'.added, fun place hplace => ?_⟩
  by_cases hsame : middle.get? place = disk.get? place
  · exact h'.on_way place (hsame ▸ hplace)
  · exact h.on_way place hsame

theorem mono {above : List Name} (h : AddsOnWay above disk disk') (habove : above <+: steps) :
    AddsOnWay steps disk disk' := by
  refine ⟨h.added, fun place hplace => ?_⟩
  obtain ⟨first, hfirst, hwalk⟩ := h.on_way place hplace
  exact ⟨first, hfirst.trans habove, hwalk⟩

theorem of_make (h : disk.make path = .ok disk') (hplace : placeOf path = walk [] steps) :
    AddsOnWay steps disk disk' := by
  refine ⟨.of_make h, fun place hchanged => ⟨steps, List.prefix_rfl, ?_⟩⟩
  obtain ⟨target, hlocate, hnone, rfl⟩ := make_eq_ok h
  have hnode : disk.get? target ≠ some .directory := by
    rw [hnone]
    simp
  rw [get?_set (ne_nil_of_not_directory hnode)] at hchanged
  rw [← hplace, ← eq_placeOf_of_locate hlocate]
  by_contra hother
  exact hchanged (if_neg hother)

end AddsOnWay

/-- What making a directory finds that some steps lead to: something missing on the way to it,
nothing at its place, or another hindrance. -/
theorem make_cases (hlocate : disk.locate path = disk.follow [] steps) :
    disk.follow [] steps = .error .noEntry ∧ disk.make path = .error .noEntry ∨
      (∃ place, disk.follow [] steps = .ok place ∧ disk.get? place = none ∧
        disk.make path = .ok (disk.set place .directory)) ∨
      ¬ disk.Gap steps ∧ ∃ e, e ≠ .noEntry ∧ disk.make path = .error e := by
  rw [make, hlocate]
  cases hfollow : disk.follow [] steps with
  | error e =>
    by_cases he : e = .noEntry
    · subst he
      exact .inl ⟨rfl, rfl⟩
    · exact .inr (.inr ⟨not_gap_of_follow_eq_error hfollow he, e, he, rfl⟩)
  | ok place =>
    rw [ok_bind]
    cases hnode : disk.get? place with
    | none => exact .inr (.inl ⟨place, rfl, hnode, rfl⟩)
    | some node =>
      have hno := not_gap_of_follow_eq_ok hfollow (by simp [hnode])
      exact .inr (.inr ⟨hno, .fileExists, nofun, rfl⟩)

/-- What can be no path is not made, and not for want of a directory above it. -/
theorem make_of_not_isPath (disk : Disk) (h : ¬ IsPath path) :
    ∃ e, e ≠ .noEntry ∧ disk.make path = .error e := by
  cases hchecked : checkedNames path with
  | ok found => exact absurd (isPath_of_checkedNames hchecked) h
  | error e =>
    refine ⟨e, ?_, by rw [make, locate, hchecked]; rfl⟩
    rintro rfl
    have hnil : path ≠ [] := by
      rintro rfl
      exact h ⟨by simp, by simp⟩
    unfold checkedNames at hchecked
    rw [if_neg hnil] at hchecked
    split at hchecked
    · cases hchecked
    · split at hchecked <;> cases hchecked

section

variable (above : Disk × Except Error Unit)

/-- A directory that can be made is made at once. -/
theorem makeAfter_of_ok (h : disk.make path = .ok disk') :
    disk.makeAfter path above = (disk', .ok ()) := by
  unfold makeAfter
  rw [h]

/-- When something is missing before it, those above it are made first. -/
theorem makeAfter_of_noEntry (h : disk.make path = .error .noEntry) :
    (∃ e, above.2 = .error e ∧ disk.makeAfter path above = above) ∨
      above.2 = .ok () ∧ (above.1.make path = .ok (disk.makeAfter path above).1 ∧
          (disk.makeAfter path above).2 = .ok () ∨
        ∃ e, above.1.make path = .error e ∧ disk.makeAfter path above =
          (above.1, if above.1.isDirectory path then .ok () else .error e)) := by
  unfold makeAfter
  rw [h]
  obtain ⟨middle, outcome⟩ := above
  cases outcome with
  | error e => exact .inl ⟨e, rfl, rfl⟩
  | ok =>
    refine .inr ⟨rfl, ?_⟩
    dsimp only
    cases hagain : middle.make path with
    | ok made => exact .inl ⟨rfl, rfl⟩
    | error e => exact .inr ⟨e, rfl, rfl⟩

/-- For any other reason nothing is made. -/
theorem makeAfter_of_error {e : Error} (h : disk.make path = .error e) (he : e ≠ .noEntry) :
    disk.makeAfter path above =
      (disk, if disk.isDirectory path then .ok () else .error e) := by
  unfold makeAfter
  rw [h]
  cases e <;> first | rfl | exact absurd rfl he

end

section

variable {above : List Name} {piece : Name}

/-- A piece that is passed over makes no directory. -/
theorem makeUp_of_idle (disk : Disk) (h : isIdle piece) (above : List Name) :
    disk.makeUp (piece :: above) = disk.makeUp above := by
  rw [makeUp, if_pos h]

/-- The directory of a step is made after those above it. -/
theorem makeUp_cons (disk : Disk) (h : ¬ isIdle piece) (above : List Name) :
    disk.makeUp (piece :: above) =
      disk.makeAfter (pathUp (piece :: above)) (disk.makeUp above) := by
  rw [makeUp, if_neg h]

theorem makeUp_of_ok (hpiece : ¬ isIdle piece)
    (h : disk.make (pathUp (piece :: above)) = .ok disk') :
    (disk.makeUp (piece :: above)).1 = disk' := by
  rw [disk.makeUp_cons hpiece, makeAfter_of_ok _ h]

theorem makeUp_of_noEntry (hpiece : ¬ isIdle piece)
    (h : disk.make (pathUp (piece :: above)) = .error .noEntry) :
    (disk.makeUp (piece :: above)).1 = (disk.makeUp above).1 ∨
      (disk.makeUp above).1.make (pathUp (piece :: above)) =
        .ok (disk.makeUp (piece :: above)).1 := by
  rw [disk.makeUp_cons hpiece]
  rcases makeAfter_of_noEntry (disk.makeUp above) h with
    ⟨e, -, hsame⟩ | ⟨-, ⟨hmade, -⟩ | ⟨e, -, hsame⟩⟩
  · exact .inl (congrArg Prod.fst hsame)
  · exact .inr hmade
  · left
    rw [hsame]

theorem makeUp_of_error (hpiece : ¬ isIdle piece) {e : Error}
    (h : disk.make (pathUp (piece :: above)) = .error e) (he : e ≠ .noEntry) :
    (disk.makeUp (piece :: above)).1 = disk := by
  rw [disk.makeUp_cons hpiece, makeAfter_of_error _ h he]

end

/-! ### Where pieces lead

The path of pieces that hold no slash leads where their steps do. -/

section

variable {above : List Name} {piece : Name}

theorem placeOf_pathUp (hslash : ∀ piece ∈ pieces, 47 ∉ piece) :
    placeOf (pathUp pieces) = walk [] (stepsUp pieces) := by
  rw [placeOf, ← walk_filter, filter_names_pathUp hslash]

theorem locate_pathUp (disk : Disk) (h : ¬ isIdle piece)
    (hslash : ∀ p ∈ piece :: above, 47 ∉ p) (hpath : IsPath (pathUp (piece :: above))) :
    disk.locate (pathUp (piece :: above)) = disk.follow [] (stepsUp (piece :: above)) := by
  have hpiece : piece ≠ [] := by
    rintro rfl
    exact h rfl
  have hdots : (above.filter (· ≠ [])).reverse.filter (· ≠ [46]) = stepsUp above := by
    rw [← filter_names_pathUp fun p hp => hslash p (List.mem_cons_of_mem _ hp),
      names_pathUp fun p hp => hslash p (List.mem_cons_of_mem _ hp)]
  rw [locate, checkedNames_of_isPath hpath (pathUp_ne_nil h above), ok_bind, names_pathUp hslash,
    List.filter_cons, if_pos (by simpa using hpiece), List.reverse_cons, ← follow_filter_concat,
    hdots, stepsUp_cons h]

/-- Only directories on the way are made. -/
theorem makeUp_addsOnWay (hslash : ∀ piece ∈ pieces, 47 ∉ piece) :
    AddsOnWay (stepsUp pieces) disk (disk.makeUp pieces).1 := by
  induction pieces with
  | nil => exact .refl [] disk
  | cons piece above ih =>
    have ih := ih fun p hp => hslash p (List.mem_cons_of_mem _ hp)
    by_cases hidle : isIdle piece
    · rw [makeUp_of_idle disk hidle, stepsUp_cons_of_idle hidle]
      exact ih
    · have hplace := placeOf_pathUp hslash
      have ih : AddsOnWay (stepsUp (piece :: above)) disk (disk.makeUp above).1 := by
        refine ih.mono ?_
        rw [stepsUp_cons hidle]
        exact List.prefix_append _ _
      cases hmake : disk.make (pathUp (piece :: above)) with
      | ok made =>
        rw [makeUp_of_ok hidle hmake]
        exact .of_make hmake hplace
      | error e =>
        by_cases he : e = .noEntry
        · subst he
          rcases makeUp_of_noEntry hidle hmake with hsame | hlast
          · rw [hsame]
            exact ih
          · exact ih.trans (.of_make hlast hplace)
        · rw [makeUp_of_error hidle hmake he]
          exact .refl _ disk

/-- The path of the last step among pieces. -/
def stepPath (pieces : List Name) : FilePath := pathUp (pieces.dropWhile isIdle)

theorem stepPath_of_idle (h : isIdle piece) (above : List Name) :
    stepPath (piece :: above) = stepPath above := by
  rw [stepPath, List.dropWhile_cons_of_pos h, stepPath]

theorem stepPath_cons (h : ¬ isIdle piece) (above : List Name) :
    stepPath (piece :: above) = pathUp (piece :: above) := by
  rw [stepPath, List.dropWhile_cons_of_neg h]

theorem IsPath.stepPath (h : IsPath (pathUp (piece :: above))) : IsPath (stepPath above) :=
  h.of_isPrefix (isPrefix_pathUp ((List.dropWhile_suffix _).trans (List.suffix_cons piece above)))

/-- Where something is missing on the way, a directory is made. -/
theorem exists_made_of_gap (hslash : ∀ piece ∈ pieces, 47 ∉ piece)
    (hpath : IsPath (stepPath pieces)) (hgap : disk.Gap (stepsUp pieces)) :
    ∃ place, disk.get? place = none ∧ (disk.makeUp pieces).1.get? place = some .directory := by
  induction pieces with
  | nil => exact absurd hgap disk.not_gap_nil
  | cons piece above ih =>
    have ih := ih fun p hp => hslash p (List.mem_cons_of_mem _ hp)
    by_cases hidle : isIdle piece
    · rw [stepPath_of_idle hidle] at hpath
      rw [stepsUp_cons_of_idle hidle] at hgap
      rw [makeUp_of_idle disk hidle]
      exact ih hpath hgap
    · rw [stepPath_cons hidle] at hpath
      rcases make_cases (disk.locate_pathUp hidle hslash hpath) with
        ⟨hfollow, hmake⟩ | ⟨place, -, hnone, hmake⟩ | ⟨hno, -⟩
      · rw [stepsUp_cons hidle] at hfollow
        obtain ⟨place, hnone, hdir⟩ := ih hpath.stepPath (.of_follow hfollow)
        refine ⟨place, hnone, ?_⟩
        rcases makeUp_of_noEntry hidle hmake with hsame | hlast
        · rw [hsame]
          exact hdir
        · exact (Extends.of_make hlast).directory place hdir
      · refine ⟨place, hnone, ?_⟩
        have hne : place ≠ [] := by
          rintro rfl
          cases hnone
        rw [makeUp_of_ok hidle hmake, get?_set_self disk _ hne]
      · exact absurd hgap hno

/-- Where nothing is missing, or the way is no path, no directory is made. -/
theorem makeUp_eq_self (hslash : ∀ piece ∈ pieces, 47 ∉ piece)
    (h : ¬ (IsPath (stepPath pieces) ∧ disk.Gap (stepsUp pieces))) :
    (disk.makeUp pieces).1 = disk := by
  induction pieces with
  | nil => rfl
  | cons piece above ih =>
    by_cases hidle : isIdle piece
    · rw [stepPath_of_idle hidle, stepsUp_cons_of_idle hidle] at h
      rw [makeUp_of_idle disk hidle]
      exact ih (fun p hp => hslash p (List.mem_cons_of_mem _ hp)) h
    · rw [stepPath_cons hidle] at h
      by_cases hpath : IsPath (pathUp (piece :: above))
      · have hno : ¬ disk.Gap (stepsUp (piece :: above)) := fun hgap => h ⟨hpath, hgap⟩
        rcases make_cases (disk.locate_pathUp hidle hslash hpath) with
          ⟨hfollow, -⟩ | ⟨place, hfollow, hnone, -⟩ | ⟨-, e, he, hmake⟩
        · rw [stepsUp_cons hidle] at hfollow hno
          exact absurd ((Gap.of_follow hfollow).mono (List.prefix_append _ _)) hno
        · exact absurd ⟨_, place, List.prefix_rfl, hfollow, hnone⟩ hno
        · exact makeUp_of_error hidle hmake he
      · obtain ⟨e, he, hmake⟩ := disk.make_of_not_isPath hpath
        exact makeUp_of_error hidle hmake he

end

/-! ## The way to a target -/

/-- The path of the directory that a path lies in, as the path spells it. -/
def parentPath (path : FilePath) : FilePath := stepPath (piecesAbove path)

/-- The names of the directory that a path lies in. -/
def wayTo (path : FilePath) : List Name := (pathSteps path).dropLast

/-- Directories are missing on the way to a path, and the directory that it lies in has a path. -/
def LacksWay (disk : Disk) (path : FilePath) : Prop :=
  IsPath (parentPath path) ∧ disk.Gap (wayTo path)

/-- What is left of a way: directories on it, and at least one where nothing was before. -/
structure LeavesWay (path : FilePath) (disk disk' : Disk) : Prop extends
    AddsOnWay (wayTo path) disk disk' where
  some_added : ∃ place, disk.get? place = none ∧ disk'.get? place = some .directory

/-- The path of its directory is the front of a path. -/
theorem isPrefix_parentPath (path : FilePath) : parentPath path <+: path := by
  have habove : (piecesAbove path).dropWhile isIdle <:+ (path.splitOn 47).reverse :=
    (List.dropWhile_suffix _).trans
      ((List.tail_suffix _).trans (List.dropWhile_suffix _))
  have hpath : pathUp (path.splitOn 47).reverse = path := by
    rw [pathUp, List.reverse_reverse, List.intercalate_splitOn]
  have hprefix := isPrefix_pathUp habove
  rwa [hpath] at hprefix

theorem not_mem_of_mem_piecesAbove {piece : Name} (h : piece ∈ piecesAbove path) : 47 ∉ piece :=
  not_mem_of_mem_splitOn
    (List.mem_reverse.mp ((List.dropWhile_suffix _).subset (List.mem_of_mem_tail h)))

/-- The steps to the directory that a path lies in are all but the last one. -/
theorem stepsUp_piecesAbove (path : FilePath) : stepsUp (piecesAbove path) = wayTo path := by
  have hsteps : stepsUp ((path.splitOn 47).reverse.dropWhile isIdle) = pathSteps path := by
    have hdrop (pieces : List Name) : stepsUp (pieces.dropWhile isIdle) = stepsUp pieces := by
      induction pieces with
      | nil => rfl
      | cons piece above ih =>
        by_cases hidle : isIdle piece
        · rw [List.dropWhile_cons_of_pos hidle, stepsUp_cons_of_idle hidle, ih]
        · rw [List.dropWhile_cons_of_neg hidle]
    rw [hdrop, stepsUp, List.filter_reverse, List.reverse_reverse, pathSteps, Uri.pathNames]
    congr 1
    funext piece
    simp [isIdle]
  rw [wayTo, ← hsteps, piecesAbove]
  cases hpieces : (path.splitOn 47).reverse.dropWhile isIdle with
  | nil => rfl
  | cons piece above =>
    have hidle : ¬ isIdle piece := by
      have := List.head?_dropWhile_not isIdle (path.splitOn 47).reverse
      rw [hpieces] at this
      simpa using this
    rw [stepsUp_cons hidle, List.dropLast_concat, List.tail_cons]

theorem makeParent_addsOnWay (disk : Disk) (path : FilePath) :
    AddsOnWay (wayTo path) disk (disk.makeParent path).1 := by
  rw [← stepsUp_piecesAbove]
  exact makeUp_addsOnWay fun _ => not_mem_of_mem_piecesAbove

theorem LacksWay.leavesWay (h : disk.LacksWay path) :
    LeavesWay path disk (disk.makeParent path).1 := by
  refine ⟨makeParent_addsOnWay disk path, ?_⟩
  obtain ⟨hpath, hgap⟩ := h
  rw [← stepsUp_piecesAbove] at hgap
  exact exists_made_of_gap (fun _ => not_mem_of_mem_piecesAbove) hpath hgap

theorem makeParent_eq_self (h : ¬ disk.LacksWay path) : (disk.makeParent path).1 = disk := by
  rw [LacksWay, ← stepsUp_piecesAbove] at h
  exact makeUp_eq_self (fun _ => not_mem_of_mem_piecesAbove) h

theorem not_lacksWay_of_pathExists (h : disk.pathExists path) : ¬ disk.LacksWay path :=
  fun hlacks => not_gap_of_pathExists h (hlacks.2.mono (List.dropLast_prefix _))

/-- Slashes and dots between the names of a directory count for its path, those behind do not. -/
example : parentPath [47, 97, 47, 47, 46, 47, 98, 47, 46, 47, 47, 99, 47] =
    [47, 97, 47, 47, 46, 47, 98] := by decide

/-! ## Directories that were emptied -/

/-- Clearing a place below which nothing lies changes nothing. -/
theorem clear_eq_self {place : Place} (h : ¬ disk.hasChildren place) : disk.clear place = disk := by
  have hall : ∀ e ∈ disk.entries, (!atOrBelow place e.1 || e.1 == place) = true := by
    intro e he
    by_contra hbelow
    refine h (List.any_eq_true.mpr ⟨e, he, ?_⟩)
    simpa using hbelow
  rw [clear, List.filter_eq_self.mpr hall]

theorem not_hasChildren_clear (disk : Disk) (place : Place) :
    ¬ (disk.clear place).hasChildren place := by
  intro h
  obtain ⟨e, he, hbelow⟩ := List.any_eq_true.mp h
  have hkept := (List.mem_filter.mp he).2
  simp_all

/-- Names that could be followed still can be, or are not found, when some of what was there has
gone. -/
theorem follow_of_less
    (hless : ∀ place, disk'.get? place = disk.get? place ∨ disk'.get? place = none)
    {place target : Place} (h : disk.follow place steps = .ok target) :
    disk'.follow place steps = .ok target ∨ disk'.follow place steps = .error .noEntry := by
  induction steps generalizing place with
  | nil => exact .inl h
  | cons name rest ih =>
    rcases hless place with hsame | hnone
    · obtain ⟨hdir, hrest⟩ := follow_cons_eq_ok.mp h
      rw [follow, hsame, hdir]
      dsimp only
      rcases hrest with ⟨rfl, hrest⟩ | ⟨rfl, hrest⟩ | ⟨hdot, hdots, hlong, hrest⟩
      · rw [if_pos rfl]
        exact ih hrest
      · rw [if_neg (by decide), if_pos rfl]
        exact ih hrest
      · rw [if_neg hdot, if_neg hdots, if_neg (Nat.not_lt_of_ge hlong)]
        exact ih hrest
    · exact .inr (by rw [follow, hnone])

theorem get?_clear_or (disk : Disk) (top place : Place) :
    (disk.clear top).get? place = disk.get? place ∨ (disk.clear top).get? place = none := by
  by_cases hnil : place = []
  · exact .inl (by rw [hnil, get?_nil, get?_nil])
  · rw [get?_clear top hnil]
    split
    · exact .inr rfl
    · exact .inl rfl

theorem get?_clear_self (disk : Disk) (place : Place) :
    (disk.clear place).get? place = disk.get? place := get?_clear_of_not (by simp)

/-- The directory that the last name of a path belongs to is found as before or not at all when
something has been cleared. -/
theorem holder_clear {above : Place} (top : Place) (h : disk.holder path = .ok above) :
    (disk.clear top).holder path = .ok above ∨ (disk.clear top).holder path = .error .noEntry := by
  obtain ⟨found, hchecked, h⟩ := bind_eq_ok.mp h
  obtain ⟨other, hfollow, h⟩ := bind_eq_ok.mp h
  split at h
  · cases h
  · cases h
  · rename_i hdir
    cases h
    rcases follow_of_less (disk.get?_clear_or top) hfollow with hfollow' | hfollow'
    · rcases disk.get?_clear_or top above with hsame | hnone
      · left
        refine bind_eq_ok.mpr ⟨found, hchecked, bind_eq_ok.mpr ⟨above, hfollow', ?_⟩⟩
        rw [hsame, hdir]
      · right
        rw [holder, hchecked, ok_bind, hfollow', ok_bind, hnone]
    · right
      rw [holder, hchecked, ok_bind, hfollow', error_bind]

/-- A directory that has been cleared is found as before or not at all. -/
theorem stat_clear {place : Place} (h : disk.stat path = .ok (place, .directory)) :
    (disk.clear place).stat path = .ok (place, .directory) ∨
      (disk.clear place).stat path = .error .noEntry := by
  obtain ⟨hlocate, hdir, -⟩ := stat_eq_ok.mp h
  obtain ⟨⟨found, hchecked⟩, hfollow⟩ := locate_eq_ok.mp hlocate
  rcases follow_of_less (disk.get?_clear_or place) hfollow with hfollow' | hfollow'
  · have hlocate' : (disk.clear place).locate path = .ok place :=
      locate_eq_ok.mpr ⟨⟨found, hchecked⟩, hfollow'⟩
    exact .inl (stat_eq_ok.mpr ⟨hlocate', (disk.get?_clear_self place).trans hdir, fun _ => rfl⟩)
  · obtain rfl := checkedNames_eq_ok hchecked
    right
    rw [stat, locate, hchecked, ok_bind, hfollow', error_bind]

theorem endsInName_iff : endsInName path ↔
    ∃ name, (names path).getLast? = some name ∧ name ≠ [46] ∧ name ≠ [46, 46] := by
  unfold endsInName
  cases (names path).getLast? with
  | none => simp
  | some name => simp

/-- A directory that is called by its name can be taken away after what is in it, or is not found
any more. -/
theorem removeDirectory_clear {place : Place} (hstat : disk.stat path = .ok (place, .directory))
    (hname : endsInName path) :
    (∃ removed, (disk.clear place).removeDirectory path = .ok removed) ∨
      (disk.clear place).removeDirectory path = .error .noEntry := by
  obtain ⟨name, hlast, hdot, hdots⟩ := endsInName_iff.mp hname
  obtain ⟨above, hholder⟩ := exists_holder_of_locate (stat_eq_ok.mp hstat).1
  rcases holder_clear place hholder with hholder | hholder
  · rw [removeDirectory, hholder, ok_bind, hlast]
    dsimp only
    rw [if_neg hdot, if_neg hdots]
    rcases stat_clear hstat with hstat' | hstat'
    · left
      rw [hstat', ok_bind]
      dsimp only
      rw [if_neg (disk.not_hasChildren_clear place)]
      exact ⟨_, rfl⟩
    · right
      rw [hstat', error_bind]
  · right
    rw [removeDirectory, hholder, error_bind]

/-- A directory that is not taken away after all that is in it is left empty, and its path does not
end in a name. -/
theorem removeAll_eq_error {place : Place} {e : Error}
    (hstat : disk.stat path = .ok (place, .directory))
    (h : disk.removeAll path = (disk', .error e)) :
    disk' = disk.clear place ∧ ¬ endsInName path := by
  rw [removeAll, hstat] at h
  dsimp only at h
  refine ⟨?_, fun hname => ?_⟩
  · split at h <;> cases h
    rfl
  · rcases removeDirectory_clear hstat hname with ⟨removed, hremoved⟩ | hnone
    · rw [hremoved] at h
      cases h
    · rw [hnone] at h
      cases h

end Refactoring.Disk
