import Refactoring.Proofs.Disk.Directories
import Refactoring.Proofs.Json.Shapes
import Refactoring.Settings.Store

/-!
# The configuration that is found or made

Looking for the configuration never touches a file that is there.  Where it is missing, the
directories to it are made and the standard configuration is written, which reads back as it is; so
looking again finds what the first look gave.  That holds for failures as well, except that a path
which steps back can run into a file behind directories that were missing: these are made before the
file is told to be in the way, and from then on it is told to be no directory.
-/

namespace Refactoring

open Json Disk

/-! ## What is written reads back -/

theorem FormattingConfig.accepts_toJson (depth : Nat) {c : FormattingConfig}
    (h : c.tabSize < 2 ^ 32) : schema.Accepts (depth + 2) c.toJson := by
  refine Schema.accepts_record ?_ (by simp) rfl
  simp only [List.forall_mem_cons, List.not_mem_nil, false_implies, implies_true, and_true]
  exact ⟨⟨_, rfl, Schema.accepts_word32 _ h⟩, ⟨_, rfl, Schema.accepts_flag _ _⟩⟩

theorem ServerConfig.accepts_toJson {depth : Nat} {c : ServerConfig}
    (h : ∀ options ∈ c.initializationOptions, Legible (depth + 1) options) :
    schema.Accepts (depth + 3) c.toJson := by
  have hoptions : Legible (depth + 1) (c.initializationOptions.getD .null) := by
    cases hc : c.initializationOptions with
    | none => exact .scalar .null
    | some options => exact h options hc
  refine Schema.accepts_record ?_ (by simp) rfl
  simp only [List.forall_mem_cons, List.not_mem_nil, false_implies, implies_true, and_true]
  exact ⟨⟨_, rfl, Schema.accepts_string _ _⟩, ⟨_, rfl, Schema.accepts_string _ _⟩,
    ⟨_, rfl, Schema.accepts_strings _ _⟩, ⟨_, rfl, Schema.accepts_any hoptions⟩⟩

/-- A configuration is read back as it was written, if its options are. -/
theorem ClientConfig.ofText_pretty {c : ClientConfig} (hsize : c.formatting.tabSize < 2 ^ 32)
    (hoptions : ∀ options ∈ c.server.initializationOptions, Legible 125 options)
    (hdecode : decode c.toJson = .ok c) : ofText c.toJson.pretty = .ok c := by
  have haccepts : schema.Accepts 128 c.toJson := by
    refine Schema.accepts_record ?_ (by simp) rfl
    simp only [List.forall_mem_cons, List.not_mem_nil, false_implies, implies_true, and_true]
    exact ⟨⟨_, rfl, ServerConfig.accepts_toJson hoptions⟩,
      ⟨_, rfl, FormattingConfig.accepts_toJson _ hsize⟩⟩
  rw [ofText, haccepts.read_pretty, ok_bind, hdecode]
  rfl

namespace ClientConfig

theorem legible_standardOptions (depth : Nat) : Legible (depth + 2) standardOptions := by
  refine .object (by simp) fun m hm => ?_
  obtain rfl := List.mem_singleton.mp hm
  refine .object (by decide) ?_
  simp only [List.forall_mem_cons, List.not_mem_nil, false_implies, implies_true, and_true]
  exact ⟨.scalar (.bool true), .scalar (.bool true), .scalar (.bool true), .scalar (.bool true)⟩

/-- The standard configuration reads back as it is. -/
theorem ofText_standard : ofText standard.toJson.pretty = .ok standard := by
  refine ofText_pretty (by decide) (fun options hoptions => ?_) rfl
  cases hoptions
  exact legible_standardOptions 123

/-- The file that the standard configuration is written to. -/
def standardFile : Node := .file (Utf8.encode standard.toJson.pretty)

/-! ## The file in its directory -/

variable {disk disk' : Disk} {root : FilePath} {place : Place} {e : Disk.Error}
  {result : Except Failure ClientConfig}

/-- Where the configuration of a directory is. -/
def pathIn (root : FilePath) : FilePath := FilePath.join root configFile

theorem names_pathIn (root : FilePath) : names (pathIn root) = names root ++ [configFile] := by
  have hfile : names configFile = [configFile] := by decide +kernel
  rw [pathIn, FilePath.join, if_neg (by decide +kernel)]
  split
  · rename_i hslash
    obtain ⟨front, rfl⟩ := List.getLast?_eq_some_iff.mp hslash
    rw [List.append_assoc, List.singleton_append, names_append_slash, names_append_slash, hfile]
    simp [names]
  · rw [names_append_slash, hfile]

theorem placeOf_pathIn (root : FilePath) :
    placeOf (pathIn root) = placeOf root ++ [configFile] := by
  rw [placeOf, names_pathIn, walk_append, placeOf, walk, if_neg (by decide +kernel),
    if_neg (by decide +kernel), walk]

/-- Either nothing changes, or the standard configuration is written where nothing was. -/
theorem getOrCreateIn_cases (root : FilePath) (disk : Disk) :
    (getOrCreateIn root disk).1 = disk ∨
      ∃ place, disk.locate (pathIn root) = .ok place ∧ disk.get? place = none ∧
        ¬ wantsDirectory (pathIn root) ∧
        getOrCreateIn root disk = (disk.set place standardFile, .ok standard) := by
  unfold getOrCreateIn
  dsimp only
  split
  · left
    split <;> rfl
  · rename_i hexists
    split
    · rename_i written hwrite
      obtain ⟨place, hlocate, hdir, hwants, rfl⟩ := write_eq_ok hwrite
      refine .inr ⟨place, hlocate, ?_, hwants, rfl⟩
      cases hnode : disk.get? place with
      | none => rfl
      | some node =>
        exact absurd (pathExists_iff.mpr ⟨place, node, stat_eq_ok.mpr
          ⟨hlocate, hnode, fun hw => absurd hw hwants⟩⟩) hexists
    · exact .inl rfl

/-- Looking again into a directory finds the same. -/
theorem getOrCreateIn_again (h : getOrCreateIn root disk = (disk', result)) :
    getOrCreateIn root disk' = (disk', result) := by
  rcases getOrCreateIn_cases root disk with hsame | ⟨place, hlocate, hnone, hwants, hwrote⟩
  · rw [h] at hsame
    obtain rfl : disk' = disk := hsame
    exact h
  · rw [hwrote] at h
    cases h
    have hdir : disk.get? place ≠ some .directory := by
      rw [hnone]
      exact nofun
    have hstat : (disk.set place standardFile).stat (pathIn root) = .ok (place, standardFile) :=
      stat_eq_ok.mpr ⟨(Extends.of_set hdir standardFile).locate hlocate,
        get?_set_self disk _ (ne_nil_of_not_directory hdir), fun hw => absurd hw hwants⟩
    have hread : (disk.set place standardFile).readText (pathIn root) =
        .ok standard.toJson.pretty := by
      rw [readText, read_eq_ok.mpr ⟨place, hstat⟩, ok_bind, Utf8.decode?_encode]
    unfold getOrCreateIn
    dsimp only
    rw [← pathIn, if_pos (pathExists_iff.mpr ⟨place, _, hstat⟩), hread]
    dsimp only
    rw [ofText_standard]
    rfl

/-- Only the length of its path can keep the file from being looked for. -/
theorem checkedNames_pathIn {found : List Name} (h : checkedNames root = .ok found) :
    checkedNames (pathIn root) = .ok (names root ++ [configFile]) ∨
      checkedNames (pathIn root) = .error .nameTooLong := by
  have hnul : (pathIn root).contains 0 = false := by
    have hroot : root.contains 0 = false := by
      unfold checkedNames at h
      split at h
      · cases h
      · rename_i hnul
        simpa using hnul
    have hfile : configFile.contains 0 = false := by decide +kernel
    rw [List.contains_eq_mem, decide_eq_false_iff_not] at hroot hfile ⊢
    rw [pathIn, FilePath.join]
    split
    · exact hfile
    · split
      · simp [hroot, hfile]
      · simp [hroot, hfile]
  have hnil : pathIn root ≠ [] := by
    intro hnil
    have hnames := names_pathIn root
    rw [hnil] at hnames
    exact absurd hnames (by simp [names])
  rw [checkedNames, hnul, if_neg Bool.false_ne_true, if_neg hnil, names_pathIn]
  split
  · exact .inr rfl
  · exact .inl rfl

/-- A file in place of the directory is no directory. -/
theorem getOrCreateIn_of_file {content : List UInt8}
    (h : disk.stat root = .ok (place, .file content)) :
    ∃ e : Disk.Error, (e = .notDirectory ∨ e = .nameTooLong) ∧
      getOrCreateIn root disk = (disk, .error (.of e.message)) := by
  obtain ⟨hlocate, hfile, -⟩ := stat_eq_ok.mp h
  obtain ⟨⟨found, hfound⟩, hfollow⟩ := locate_eq_ok.mp hlocate
  have hfails : ∃ e, (e = .notDirectory ∨ e = .nameTooLong) ∧
      disk.locate (pathIn root) = .error e ∧ disk.holder (pathIn root) = .error e := by
    rcases checkedNames_pathIn hfound with hchecked | hchecked
    · refine ⟨.notDirectory, .inl rfl, ?_, ?_⟩
      · rw [locate, hchecked, ok_bind]
        exact follow_append_of_file hfollow hfile (by simp)
      · rw [holder, hchecked, ok_bind, List.dropLast_concat, hfollow, ok_bind, hfile]
    · refine ⟨.nameTooLong, .inr rfl, ?_, ?_⟩
      · rw [locate, hchecked, error_bind]
      · rw [holder, hchecked, error_bind]
  obtain ⟨e, he, hlocate, hholder⟩ := hfails
  refine ⟨e, he, ?_⟩
  have hwrite (content : List UInt8) : disk.write (pathIn root) content = .error e := by
    rw [write, hholder, error_bind]
  unfold getOrCreateIn
  dsimp only
  rw [← pathIn, if_neg (not_pathExists_of_locate_eq_error hlocate), hwrite]

/-! ## The directory and its file -/

/-- Nothing is gone or other than it was.  What is new are directories on the way to the root, among
them the root, and the file with the standard configuration in it. -/
structure AddsConfig (root : FilePath) (disk disk' : Disk) : Prop where
  kept : ∀ place node, disk.get? place = some node → disk'.get? place = some node
  added : ∀ place, disk'.get? place ≠ disk.get? place →
    (∃ above, above <+: pathSteps root ∧ place = walk [] above ∧
      disk'.get? place = some .directory) ∨
    place = placeOf root ++ [configFile] ∧ disk'.get? place = some standardFile

theorem AddsConfig.of_addsOnWay (h : AddsOnWay (pathSteps root) disk disk') :
    AddsConfig root disk disk' := by
  refine ⟨fun place node hnode => h.added.get?_eq_some (by simp) hnode, fun place hplace => .inl ?_⟩
  obtain ⟨above, habove, hwalk⟩ := h.on_way place hplace
  refine ⟨above, habove, hwalk, ?_⟩
  rcases h.added.other place (by simp) with hsame | ⟨-, hdir⟩
  · exact absurd hsame hplace
  · exact hdir

theorem AddsConfig.pathExists (h : AddsConfig root disk disk') {path : FilePath}
    (hexists : disk.pathExists path) : disk'.pathExists path := by
  obtain ⟨place, node, hstat⟩ := pathExists_iff.mp hexists
  obtain ⟨hlocate, hnode, hwants⟩ := stat_eq_ok.mp hstat
  exact pathExists_iff.mpr ⟨place, node, stat_eq_ok.mpr
    ⟨locate_mono (fun place => h.kept place .directory) hlocate, h.kept place node hnode, hwants⟩⟩

/-- What is added in the root is added with the root. -/
theorem AddsConfig.getOrCreateIn (h : AddsConfig root disk disk') :
    AddsConfig root disk (getOrCreateIn root disk').1 := by
  rcases getOrCreateIn_cases root disk' with hsame | ⟨place, hlocate, hnone, hwants, hwrote⟩
  · rw [hsame]
    exact h
  · obtain rfl := eq_placeOf_of_locate hlocate
    have hne : placeOf (pathIn root) ≠ [] := by
      rw [placeOf_pathIn]
      exact List.concat_ne_nil _ _
    rw [hwrote]
    refine ⟨fun other node hnode => ?_, fun other hother => ?_⟩
    · rw [get?_set hne, if_neg]
      · exact h.kept other node hnode
      · rintro rfl
        cases hnone.symm.trans (h.kept _ node hnode)
    · by_cases heq : other = placeOf (pathIn root)
      · subst heq
        exact .inr ⟨placeOf_pathIn root, get?_set_self _ _ hne⟩
      · rw [get?_set hne, if_neg heq] at hother ⊢
        exact h.added other hother

/-- Looking in a directory that is there adds its file at most. -/
theorem AddsConfig.of_pathExists (hexists : disk.pathExists root)
    (h : getOrCreate root disk = (disk', result)) : AddsConfig root disk disk' ∧
      getOrCreate root disk' = (disk', result) := by
  rw [getOrCreate, if_pos hexists] at h
  have hadds := (AddsConfig.of_addsOnWay (.refl (pathSteps root) disk)).getOrCreateIn
  rw [h] at hadds
  refine ⟨hadds, ?_⟩
  rw [getOrCreate, if_pos (hadds.pathExists hexists)]
  exact getOrCreateIn_again h

/-- Looking for the configuration keeps all that is there and adds no more than the directories to
it and the standard configuration.  Looking again gives the same and adds nothing, except that a
root which steps back, and in whose way a file came when directories had been made, is told to have
something in its place first and to be no directory from then on. -/
theorem getOrCreate_again (hclosed : disk.Closed) (h : getOrCreate root disk = (disk', result)) :
    AddsConfig root disk disk' ∧
      (getOrCreate root disk' = (disk', result) ∨
        ¬ Straight root ∧ disk' ≠ disk ∧ result = .error (.of Disk.Error.fileExists.message) ∧
          ∃ e : Disk.Error, (e = .notDirectory ∨ e = .nameTooLong) ∧
            getOrCreate root disk' = (disk', .error (.of e.message))) := by
  by_cases hexists : disk.pathExists root
  · obtain ⟨hadds, hagain⟩ := AddsConfig.of_pathExists hexists h
    exact ⟨hadds, .inl hagain⟩
  · rw [getOrCreate, if_neg hexists] at h
    have hmade := AddsConfig.of_addsOnWay (makeAll_addsOnWay disk root)
    rcases hmake : disk.makeAll root with ⟨made, e | ⟨⟩⟩
    · rw [hmake] at h hmade
      obtain ⟨rfl, rfl⟩ := Prod.mk.inj h
      refine ⟨hmade, ?_⟩
      cases hclosed.failsAgain hexists hmake with
      | same hexists hagain =>
        left
        rw [getOrCreate, if_neg hexists, hagain]
      | behind he hback hne hfile =>
        subst he
        refine .inr ⟨hback, hne, rfl, .notDirectory, .inl rfl, ?_⟩
        have hnil : root ≠ [] := by
          rintro rfl
          cases hmake
        rw [getOrCreate, if_neg (not_pathExists_of_locate_eq_error hfile),
          makeAll_of_locate_eq_error hnil hfile nofun]
      | file he hback hne hfile =>
        subst he
        obtain ⟨e, he, hagain⟩ := getOrCreateIn_of_file hfile
        refine .inr ⟨hback, hne, rfl, e, he, ?_⟩
        rw [getOrCreate, if_pos (pathExists_iff.mpr ⟨_, _, hfile⟩), hagain]
    · rw [hmake] at h hmade
      have h : getOrCreateIn root made = (disk', result) := h
      have hadds := hmade.getOrCreateIn
      rw [h] at hadds
      refine ⟨hadds, .inl ?_⟩
      have hagain := getOrCreateIn_again h
      by_cases hnil : root = []
      · subst hnil
        exact hagain
      · rw [makeAll_eq hnil] at hmake
        have hthere := pathExists_of_isDirectory (isDirectory_of_makeAfter hmake)
        have hkept := (AddsConfig.of_addsOnWay (.refl (pathSteps root) made)).getOrCreateIn
        rw [h] at hkept
        rw [getOrCreate, if_pos (hkept.pathExists hthere), hagain]

/-- A tree with one file. -/
def oneFile : Disk := Disk.empty.set [[70]] (.file [120])

theorem closed_oneFile : oneFile.Closed := closed_empty.set (by decide) rfl nofun

theorem getOrCreate_again_missing :
    oneFile.Closed ∧ (getOrCreate [47, 67] oneFile).2 = .ok standard ∧
      AddsConfig [47, 67] oneFile (getOrCreate [47, 67] oneFile).1 ∧
      (getOrCreate [47, 67] (getOrCreate [47, 67] oneFile).1).2 = .ok standard := by
  have hfirst : (getOrCreate [47, 67] oneFile).2 = .ok standard := rfl
  obtain ⟨hadds, hagain | ⟨-, -, hfails, -⟩⟩ := getOrCreate_again closed_oneFile
    (show getOrCreate [47, 67] oneFile = (_, .ok standard) from rfl)
  · exact ⟨closed_oneFile, hfirst, hadds, congrArg Prod.snd hagain⟩
  · cases hfails

/-- Behind a directory that is missing, a step back leads to a file. -/
def behindMissing : FilePath := Utf8.encode "/M/../F"

/-- The directory is made before the file is found in the way. -/
theorem getOrCreate_behindMissing : oneFile.Closed ∧
    (getOrCreate behindMissing oneFile).2 = .error (.of "File exists (os error 17)") ∧
    (getOrCreate behindMissing (getOrCreate behindMissing oneFile).1).2 =
      .error (.of "Not a directory (os error 20)") := by
  refine ⟨closed_oneFile, ?_, ?_⟩
  · rfl
  · rfl

end ClientConfig
end Refactoring
