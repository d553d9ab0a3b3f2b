import Refactoring.Proofs.Disk.Paths

/-!
# What operations do to a tree

Each operation that succeeds is described by the places that its paths lead to and by what stands
there before and after.  An operation on files leaves all other places as they are, apart from
directories that it makes on its way: the tree `Extends` to the new one.
-/

namespace Refactoring.Disk

variable {disk disk' : Disk} {path : FilePath}

/-! ## Trees that are extended -/

/-- From one tree to another all directories stay, and apart from some places nothing changes but
that directories are added. -/
structure Extends (apart : List Place) (disk disk' : Disk) : Prop where
  directory : ∀ place, disk.get? place = some .directory → disk'.get? place = some .directory
  other : ∀ place, place ∉ apart → disk'.get? place = disk.get? place ∨
    disk.get? place = none ∧ disk'.get? place = some .directory

namespace Extends

variable {apart more : List Place} {middle : Disk}

theorem refl (apart : List Place) (disk : Disk) : Extends apart disk disk :=
  ⟨fun _ h => h, fun _ _ => .inl rfl⟩

/-- It is enough that no directory is among the places where something changes. -/
theorem of_get? (hfiles : ∀ place ∈ apart, disk.get? place ≠ some .directory)
    (hother : ∀ place, place ∉ apart → disk'.get? place = disk.get? place) :
    Extends apart disk disk' := by
  refine ⟨?_, fun place hplace => .inl (hother place hplace)⟩
  intro place hdir
  rw [hother place fun hmem => hfiles place hmem hdir]
  exact hdir

theorem mono (h : Extends apart disk disk') (hsub : apart ⊆ more) : Extends more disk disk' :=
  ⟨h.directory, fun place hplace => h.other place fun hmem => hplace (hsub hmem)⟩

theorem trans (h : Extends apart disk middle) (h' : Extends apart middle disk') :
    Extends apart disk disk' := by
  refine ⟨fun place hdir => h'.directory place (h.directory place hdir), ?_⟩
  intro place hplace
  rcases h.other place hplace with hsame | ⟨hnone, hdir⟩
  · rw [← hsame]
    exact h'.other place hplace
  · exact .inr ⟨hnone, h'.directory place hdir⟩

/-- What stands at a place stands there afterwards. -/
theorem get?_eq_some (h : Extends apart disk disk') {place : Place} (hplace : place ∉ apart)
    {node : Node} (hnode : disk.get? place = some node) : disk'.get? place = some node := by
  rcases h.other place hplace with hsame | ⟨hnone, -⟩
  · rw [hsame]
    exact hnode
  · rw [hnone] at hnode
    cases hnode

/-- A file that stands at a place afterwards stood there before. -/
theorem get?_eq_file (h : Extends apart disk disk') {place : Place} (hplace : place ∉ apart)
    {content : List UInt8} (hfile : disk'.get? place = some (.file content)) :
    disk.get? place = some (.file content) := by
  rcases h.other place hplace with hsame | ⟨-, hdir⟩
  · rw [← hsame]
    exact hfile
  · rw [hdir] at hfile
    cases hfile

theorem locate (h : Extends apart disk disk') {place : Place}
    (hlocate : disk.locate path = .ok place) : disk'.locate path = .ok place :=
  locate_mono h.directory hlocate

/-- What a path leads to is still there afterwards. -/
theorem stat (h : Extends apart disk disk') {place : Place} (hplace : place ∉ apart) {node : Node}
    (hstat : disk.stat path = .ok (place, node)) : disk'.stat path = .ok (place, node) := by
  obtain ⟨hlocate, hnode, hwants⟩ := stat_eq_ok.mp hstat
  exact stat_eq_ok.mpr ⟨h.locate hlocate, h.get?_eq_some hplace hnode, hwants⟩

end Extends

/-! ## Single operations -/

theorem write_eq_ok {content : List UInt8} (h : disk.write path content = .ok disk') :
    ∃ place, disk.locate path = .ok place ∧ disk.get? place ≠ some .directory ∧
      ¬ wantsDirectory path ∧ disk' = disk.set place (.file content) := by
  obtain ⟨_, -, h⟩ := bind_eq_ok.mp h
  by_cases hwants : wantsDirectory path
  · rw [if_pos hwants] at h
    cases h
  · rw [if_neg hwants] at h
    obtain ⟨place, hlocate, h⟩ := bind_eq_ok.mp h
    refine ⟨place, hlocate, ?_⟩
    split at h
    · cases h
    · rename_i hnode
      cases h
      exact ⟨hnode, hwants, rfl⟩

theorem make_eq_ok (h : disk.make path = .ok disk') :
    ∃ place, disk.locate path = .ok place ∧ disk.get? place = none ∧
      disk' = disk.set place .directory := by
  obtain ⟨place, hlocate, h⟩ := bind_eq_ok.mp h
  cases hnode : disk.get? place with
  | some node =>
    rw [hnode] at h
    cases h
  | none =>
    rw [hnode] at h
    cases h
    exact ⟨place, hlocate, hnode, rfl⟩

theorem removeFile_eq_ok (h : disk.removeFile path = .ok disk') :
    ∃ place content, disk.stat path = .ok (place, .file content) ∧ disk' = disk.cut place := by
  obtain ⟨⟨place, node⟩, hstat, h⟩ := bind_eq_ok.mp h
  cases node with
  | directory => cases h
  | file content =>
    cases h
    exact ⟨place, content, hstat, rfl⟩

/-- What a move finds: something at its source, and at its target nothing or what it may
replace. -/
structure Moves (disk : Disk) (old new : FilePath) (source target : Place) (node : Node) :
    Prop where
  from_source : disk.locate old = .ok source
  node_source : disk.get? source = some node
  to_target : disk.locate new = .ok target
  plain : node ≠ .directory → ¬ wantsDirectory old ∧ ¬ wantsDirectory new
  apart : source ≠ target → ¬ atOrBelow source target ∧ ¬ atOrBelow target source
  file : source ≠ target → node ≠ .directory → disk.get? target ≠ some .directory
  directory : source ≠ target → node = .directory →
    disk.get? target = none ∨ disk.get? target = some .directory ∧ ¬ disk.hasChildren target

theorem rename_eq_ok {old new : FilePath} (h : disk.rename old new = .ok disk') :
    ∃ source target node, Moves disk old new source target node ∧
      disk' = if source = target then disk else disk.graft source target := by
  obtain ⟨-, h⟩ := guard_eq_ok.mp h
  obtain ⟨_, -, h⟩ := bind_eq_ok.mp h
  obtain ⟨_, -, h⟩ := bind_eq_ok.mp h
  obtain ⟨-, h⟩ := guard_eq_ok.mp h
  obtain ⟨source, hsource, h⟩ := bind_eq_ok.mp h
  cases hnode : disk.get? source with
  | none =>
    rw [hnode] at h
    cases h
  | some node =>
    rw [hnode] at h
    obtain ⟨target, htarget, h⟩ := bind_eq_ok.mp h
    obtain ⟨hplain, h⟩ := guard_eq_ok.mp h
    obtain ⟨hbelow, h⟩ := guard_eq_ok.mp h
    obtain ⟨habove, h⟩ := guard_eq_ok.mp h
    have hplain : node ≠ .directory → ¬ wantsDirectory old ∧ ¬ wantsDirectory new := by
      intro hn
      exact ⟨fun hw => hplain ⟨hn, .inl hw⟩, fun hw => hplain ⟨hn, .inr hw⟩⟩
    by_cases heq : source = target
    · rw [if_pos heq] at h
      cases h
      refine ⟨source, target, node, ?_, (if_pos heq).symm⟩
      exact ⟨hsource, hnode, htarget, hplain, fun hne => absurd heq hne,
        fun hne => absurd heq hne, fun hne => absurd heq hne⟩
    · rw [if_neg heq] at h
      have hapart : ¬ atOrBelow source target ∧ ¬ atOrBelow target source :=
        ⟨fun hb => hbelow ⟨hb, heq⟩, fun hb => habove ⟨hb, heq⟩⟩
      refine ⟨source, target, node, ⟨hsource, hnode, htarget, hplain, fun _ => hapart, ?_, ?_⟩, ?_⟩
      · rintro - hn hdir
        rw [hdir] at h
        cases node with
        | file content => cases h
        | directory => exact hn rfl
      · rintro - rfl
        cases hthere : disk.get? target with
        | none => exact .inl rfl
        | some other =>
          rw [hthere] at h
          cases other with
          | file content => cases h
          | directory => exact .inr ⟨rfl, (guard_eq_ok.mp h).1⟩
      · rw [if_neg heq]
        split at h
        · cases h
        · cases h
        · obtain ⟨-, h⟩ := guard_eq_ok.mp h
          cases h
          rfl
        · cases h
          rfl

/-! ## What is left behind -/

theorem ne_nil_of_not_directory {place : Place} (h : disk.get? place ≠ some .directory) :
    place ≠ [] := by
  rintro rfl
  exact h rfl

theorem ne_nil_of_none {place : Place} (h : disk.get? place = none) : place ≠ [] :=
  ne_nil_of_not_directory (by rw [h]; exact nofun)

theorem ne_nil_of_file {place : Place} {content : List UInt8}
    (h : disk.get? place = some (.file content)) : place ≠ [] :=
  ne_nil_of_not_directory (by rw [h]; exact nofun)

/-- Something other than a directory may be replaced by anything. -/
theorem Extends.of_set {place : Place} (h : disk.get? place ≠ some .directory) (node : Node) :
    Extends [place] disk (disk.set place node) := by
  refine .of_get? (by simpa using h) ?_
  intro other hother
  rw [get?_set (ne_nil_of_not_directory h), if_neg (by simpa using hother)]

/-- A file that is written stands at its place, and nothing else changes. -/
theorem Closed.write (hclosed : disk.Closed) {content : List UInt8}
    (h : disk.write path content = .ok disk') : disk'.Closed ∧
      ∃ place, Extends [place] disk disk' ∧ disk'.stat path = .ok (place, .file content) := by
  obtain ⟨place, hlocate, hnode, hwants, rfl⟩ := write_eq_ok h
  have hne := ne_nil_of_not_directory hnode
  have hext := Extends.of_set hnode (.file content)
  refine ⟨hclosed.set hne (hclosed.above_of_locate hlocate) fun hd => absurd hd hnode, place, hext,
    stat_eq_ok.mpr ⟨hext.locate hlocate, ?_, fun hw => absurd hw hwants⟩⟩
  rw [get?_set hne, if_pos rfl]

/-- A directory that is made is all that changes. -/
theorem Extends.of_make (h : disk.make path = .ok disk') : Extends [] disk disk' := by
  obtain ⟨place, -, hnone, rfl⟩ := make_eq_ok h
  have hnode : disk.get? place ≠ some .directory := by
    rw [hnone]
    simp
  have hext := Extends.of_set hnode .directory
  refine ⟨hext.directory, ?_⟩
  intro other _
  by_cases heq : other = place
  · subst heq
    rw [get?_set (ne_nil_of_not_directory hnode), if_pos rfl]
    exact .inr ⟨hnone, rfl⟩
  · exact hext.other other (by simpa using heq)

theorem Closed.make (hclosed : disk.Closed) (h : disk.make path = .ok disk') :
    disk'.Closed ∧ Extends [] disk disk' := by
  refine ⟨?_, .of_make h⟩
  obtain ⟨place, hlocate, hnone, rfl⟩ := make_eq_ok h
  have hnode : disk.get? place ≠ some .directory := by
    rw [hnone]
    simp
  exact hclosed.set (ne_nil_of_not_directory hnode) (hclosed.above_of_locate hlocate) fun _ => rfl

/-- A directory that is made after those above it adds itself at most. -/
theorem Closed.makeAfter (hclosed : disk.Closed) (path : FilePath)
    {above : Disk × Except Error Unit} (habove : above.1.Closed ∧ Extends [] disk above.1) :
    (disk.makeAfter path above).1.Closed ∧ Extends [] disk (disk.makeAfter path above).1 := by
  unfold Disk.makeAfter
  split
  · rename_i made hmade
    exact hclosed.make hmade
  · split
    · exact habove
    · split
      · rename_i made hmade
        have hmake := habove.1.make hmade
        exact ⟨hmake.1, habove.2.trans hmake.2⟩
      · exact habove
  · exact ⟨hclosed, Extends.refl [] disk⟩

/-- Directories that are made on the way are all that changes, also if not all can be made. -/
theorem Closed.makeUp (hclosed : disk.Closed) (pieces : List Name) :
    (disk.makeUp pieces).1.Closed ∧ Extends [] disk (disk.makeUp pieces).1 := by
  induction pieces with
  | nil => exact ⟨hclosed, Extends.refl [] disk⟩
  | cons piece above ih =>
    rw [Disk.makeUp]
    split
    · exact ih
    · exact hclosed.makeAfter _ ih

theorem Closed.makeParent (hclosed : disk.Closed) (path : FilePath) :
    (disk.makeParent path).1.Closed ∧ Extends [] disk (disk.makeParent path).1 :=
  hclosed.makeUp (piecesAbove path)

/-- A file that is taken away leaves nothing at its place. -/
theorem Closed.removeFile (hclosed : disk.Closed) (h : disk.removeFile path = .ok disk') :
    disk'.Closed ∧ ∃ place, disk.locate path = .ok place ∧ Extends [place] disk disk' ∧
      disk'.get? place = none := by
  obtain ⟨place, content, hstat, rfl⟩ := removeFile_eq_ok h
  obtain ⟨hlocate, hfile, -⟩ := stat_eq_ok.mp hstat
  have hnode : disk.get? place ≠ some .directory := by
    rw [hfile]
    simp
  have hget := hclosed.get?_cut hnode
  refine ⟨hclosed.cut place, place, hlocate, .of_get? (by simpa using hnode) ?_, ?_⟩
  · intro other hother
    rw [hget, if_neg (by simpa using hother)]
  · rw [hget, if_pos rfl]

/-- A file that is moved stands at its target and leaves nothing at its source, unless the two are
one. -/
theorem Closed.renameFile (hclosed : disk.Closed) {old new : FilePath} {content : List UInt8}
    (hfile : disk.read old = .ok content) (h : disk.rename old new = .ok disk') :
    disk'.Closed ∧ ∃ source target, disk.locate old = .ok source ∧
      Extends [source, target] disk disk' ∧ (source ≠ target → disk'.get? source = none) ∧
      disk'.stat new = .ok (target, .file content) := by
  obtain ⟨source, hstat⟩ := read_eq_ok.mp hfile
  obtain ⟨hsource, hnode, -⟩ := stat_eq_ok.mp hstat
  obtain ⟨source', target, node, hmoves, hdisk⟩ := rename_eq_ok h
  obtain rfl : source' = source := Except.ok.inj (hmoves.from_source.symm.trans hsource)
  obtain rfl : node = .file content := Option.some.inj (hmoves.node_source.symm.trans hnode)
  obtain ⟨-, hwants⟩ := hmoves.plain Node.noConfusion
  by_cases heq : source' = target
  · subst heq
    rw [if_pos rfl] at hdisk
    subst hdisk
    exact ⟨hclosed, source', source', hsource, Extends.refl _ _, fun hne => absurd rfl hne,
      stat_eq_ok.mpr ⟨hmoves.to_target, hnode, fun hw => absurd hw hwants⟩⟩
  · rw [if_neg heq] at hdisk
    subst hdisk
    have hsd : disk.get? source' ≠ some .directory := by
      rw [hnode]
      simp
    have htd := hmoves.file heq Node.noConfusion
    have hget := hclosed.get?_graft hsd htd
    have hext : Extends [source', target] disk (disk.graft source' target) := by
      refine .of_get? (by simpa using ⟨hsd, htd⟩) ?_
      intro other hother
      simp only [List.mem_cons, List.not_mem_nil, or_false, not_or] at hother
      rw [hget, if_neg hother.2, if_neg hother.1]
    refine ⟨hclosed.graft (ne_nil_of_not_directory hsd) (ne_nil_of_not_directory htd)
      (hclosed.above_of_locate hmoves.to_target) (hmoves.apart heq).1, source', target, hsource,
      hext, ?_, ?_⟩
    · intro _
      rw [hget, if_neg heq, if_pos rfl]
    · refine stat_eq_ok.mpr ⟨hext.locate hmoves.to_target, ?_, fun hw => absurd hw hwants⟩
      rw [hget, if_pos rfl, hnode]

end Refactoring.Disk
