import Refactoring.Disk.Operations
import Refactoring.Proofs.Disk.Lookup
import Refactoring.Proofs.Except

/-!
# Where paths lead

A path is followed through directories, but where it leads does not depend on them: `placeOf` reads
the place off the path alone, and `locate` yields that place or nothing.  More directories make more
paths followable, and none of them leads anywhere else by that.
-/

namespace Refactoring

namespace Disk

/-! ## Places of paths -/

/-- The place that names lead to if they can be followed. -/
def walk : Place → List Name → Place
  | place, [] => place
  | place, name :: rest =>
    if name = [46] then walk place rest
    else if name = [46, 46] then walk place.dropLast rest
    else walk (place ++ [name]) rest

/-- The place that a path leads to if it can be followed. -/
def placeOf (path : FilePath) : Place := walk [] (names path)

variable {disk disk' : Disk}

/-- The first of some names is followed if it belongs to a directory and is not too long. -/
theorem follow_cons_eq_ok {place target : Place} {name : Name} {rest : List Name} :
    disk.follow place (name :: rest) = .ok target ↔ disk.get? place = some .directory ∧
      (name = [46] ∧ disk.follow place rest = .ok target ∨
        name = [46, 46] ∧ disk.follow place.dropLast rest = .ok target ∨
        name ≠ [46] ∧ name ≠ [46, 46] ∧ name.length ≤ longestName ∧
          disk.follow (place ++ [name]) rest = .ok target) := by
  rw [follow]
  cases hnode : disk.get? place with
  | none => simp
  | some node =>
    cases node with
    | file content => simp
    | directory =>
      simp only [true_and]
      by_cases hdot : name = [46]
      · simp [hdot]
      · by_cases hdots : name = [46, 46]
        · simp [hdots]
        · by_cases hlong : name.length > longestName
          · rw [if_neg hdot, if_neg hdots, if_pos hlong]
            simp only [hdot, hdots, false_and, false_or, reduceCtorEq, false_iff]
            rintro ⟨-, -, hshort, -⟩
            exact Nat.not_le_of_gt hlong hshort
          · simp [hdot, hdots, hlong, Nat.le_of_not_gt hlong]

/-- Names lead to their place or nowhere. -/
theorem eq_walk_of_follow {place target : Place} {names : List Name}
    (h : disk.follow place names = .ok target) : target = walk place names := by
  induction names generalizing place with
  | nil =>
    cases h
    rfl
  | cons name rest ih =>
    obtain ⟨-, ⟨rfl, hrest⟩ | ⟨rfl, hrest⟩ | ⟨hdot, hdots, -, hrest⟩⟩ := follow_cons_eq_ok.mp h
    · exact ih hrest
    · exact ih hrest
    · rw [walk, if_neg hdot, if_neg hdots]
      exact ih hrest

/-- Names that could be followed still can be as long as all directories are there. -/
theorem follow_mono
    (hmono : ∀ place, disk.get? place = some .directory → disk'.get? place = some .directory)
    {place target : Place} {names : List Name} (h : disk.follow place names = .ok target) :
    disk'.follow place names = .ok target := by
  induction names generalizing place with
  | nil => exact h
  | cons name rest ih =>
    obtain ⟨hplace, hrest⟩ := follow_cons_eq_ok.mp h
    refine follow_cons_eq_ok.mpr ⟨hmono _ hplace, ?_⟩
    rcases hrest with ⟨hname, h⟩ | ⟨hname, h⟩ | ⟨hdot, hdots, hlong, h⟩
    · exact .inl ⟨hname, ih h⟩
    · exact .inr (.inl ⟨hname, ih h⟩)
    · exact .inr (.inr ⟨hdot, hdots, hlong, ih h⟩)

/-- Followed names lead to a place in a directory. -/
theorem Closed.above_of_follow (hclosed : disk.Closed) {place target : Place} {names : List Name}
    (hplace : disk.get? place.dropLast = some .directory)
    (h : disk.follow place names = .ok target) :
    disk.get? target.dropLast = some .directory := by
  induction names generalizing place with
  | nil =>
    cases h
    exact hplace
  | cons name rest ih =>
    obtain ⟨hdir, ⟨-, h⟩ | ⟨-, h⟩ | ⟨-, -, -, h⟩⟩ := follow_cons_eq_ok.mp h
    · exact ih hplace h
    · exact ih (hclosed _ (by simp [hplace])) h
    · refine ih ?_ h
      rw [List.dropLast_concat]
      exact hdir

theorem checkedNames_eq_ok {path : FilePath} {found : List Name}
    (h : checkedNames path = .ok found) : found = names path := by
  unfold checkedNames at h
  split at h
  · cases h
  · split at h
    · cases h
    · split at h
      · cases h
      · cases h
        rfl

theorem locate_eq_ok {path : FilePath} {place : Place} : disk.locate path = .ok place ↔
    (∃ found, checkedNames path = .ok found) ∧ disk.follow [] (names path) = .ok place := by
  rw [locate, bind_eq_ok]
  constructor
  · rintro ⟨found, hchecked, h⟩
    rw [checkedNames_eq_ok hchecked] at h
    exact ⟨⟨found, hchecked⟩, h⟩
  · rintro ⟨⟨found, hchecked⟩, h⟩
    rw [← checkedNames_eq_ok hchecked] at h
    exact ⟨found, hchecked, h⟩

/-- A path leads to its place or nowhere. -/
theorem eq_placeOf_of_locate {path : FilePath} {place : Place}
    (h : disk.locate path = .ok place) : place = placeOf path :=
  eq_walk_of_follow (locate_eq_ok.mp h).2

/-- A path leads to where it led as long as all directories are there. -/
theorem locate_mono
    (hmono : ∀ place, disk.get? place = some .directory → disk'.get? place = some .directory)
    {path : FilePath} {place : Place} (h : disk.locate path = .ok place) :
    disk'.locate path = .ok place := by
  obtain ⟨hchecked, h⟩ := locate_eq_ok.mp h
  exact locate_eq_ok.mpr ⟨hchecked, follow_mono hmono h⟩

/-- A path leads to a place in a directory. -/
theorem Closed.above_of_locate (hclosed : disk.Closed) {path : FilePath} {place : Place}
    (h : disk.locate path = .ok place) : disk.get? place.dropLast = some .directory := by
  have hroot : disk.get? (List.dropLast []) = some .directory := get?_nil disk
  exact hclosed.above_of_follow hroot (locate_eq_ok.mp h).2

/-! ## What paths lead to -/

theorem stat_eq_ok {path : FilePath} {place : Place} {node : Node} :
    disk.stat path = .ok (place, node) ↔ disk.locate path = .ok place ∧
      disk.get? place = some node ∧ (wantsDirectory path → node = .directory) := by
  rw [stat, bind_eq_ok]
  constructor
  · rintro ⟨found, hlocate, h⟩
    cases hnode : disk.get? found with
    | none =>
      rw [hnode] at h
      cases h
    | some other =>
      rw [hnode] at h
      cases other with
      | directory =>
        cases h
        exact ⟨hlocate, hnode, fun _ => rfl⟩
      | file content =>
        dsimp only at h
        split at h
        · cases h
        · rename_i hwants
          cases h
          exact ⟨hlocate, hnode, fun hw => absurd hw hwants⟩
  · rintro ⟨hlocate, hnode, hwants⟩
    refine ⟨place, hlocate, ?_⟩
    rw [hnode]
    cases node with
    | directory => rfl
    | file content =>
      dsimp only
      rw [if_neg fun hw => Node.noConfusion (hwants hw)]

theorem pathExists_iff {path : FilePath} : disk.pathExists path ↔
    ∃ place node, disk.stat path = .ok (place, node) := by
  unfold pathExists
  cases disk.stat path with
  | error e => simp [Except.isOk, Except.toBool]
  | ok found => exact ⟨fun _ => ⟨found.1, found.2, rfl⟩, fun _ => rfl⟩

theorem isDirectory_iff {path : FilePath} : disk.isDirectory path ↔
    ∃ place, disk.stat path = .ok (place, .directory) := by
  unfold isDirectory
  cases disk.stat path with
  | error e => simp
  | ok found =>
    obtain ⟨place, node⟩ := found
    cases node <;> simp

theorem read_eq_ok {path : FilePath} {content : List UInt8} : disk.read path = .ok content ↔
    ∃ place, disk.stat path = .ok (place, .file content) := by
  rw [read, bind_eq_ok]
  constructor
  · rintro ⟨⟨place, node⟩, hstat, h⟩
    cases node with
    | file content' =>
      cases h
      exact ⟨place, hstat⟩
    | directory => cases h
  · rintro ⟨place, hstat⟩
    exact ⟨(place, .file content), hstat, rfl⟩

end Disk
end Refactoring
