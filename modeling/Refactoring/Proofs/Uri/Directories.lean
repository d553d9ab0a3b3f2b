import Refactoring.Proofs.Disk.Leftovers
import Refactoring.Proofs.Text.Repair
import Refactoring.Proofs.Uri.OwnFiles

/-!
# The directories of local files

The directory that holds a local file is found by cutting off the last segment of its URI, and the
name of the file is the last name of its path on disk.  Both fit together unless the last segment is
a drive, which is never cut off, or a dot, which is no name.  Files that are told to lie in one
directory lie there then, and they are the same if their names are.
-/

namespace Refactoring.Uri

open Disk (FilePath)

variable {u v : Uri} {names above : List String} {last name : String} {path directory : FilePath}

/-! ## Names along paths -/

theorem pathNames_append_slash (front rest : FilePath) :
    pathNames (front ++ 47 :: rest) = pathNames front ++ pathNames rest := by
  rw [pathNames, List.splitOn_append_cons_self, List.filter_append]
  rfl

theorem pathNames_concat_slash (front : FilePath) :
    pathNames (front ++ [47]) = pathNames front := by
  rw [pathNames_append_slash]
  exact List.append_nil _

/-- A name is all there is along itself, unless it is a single dot. -/
theorem pathNames_of_not_mem {name : List UInt8} (hslash : 47 ∉ name) :
    pathNames name = if name ≠ [] ∧ name ≠ [46] then [name] else [] := by
  rw [pathNames, List.splitOn_eq_singleton hslash]
  by_cases h : name ≠ [] ∧ name ≠ [46]
  · rw [if_pos h, List.filter_cons_of_pos (by simpa using h), List.filter_nil]
  · rw [if_neg h, List.filter_cons_of_neg (by simpa using h), List.filter_nil]

/-- A name behind a path that ends in a slash comes last. -/
theorem pathNames_join (front : FilePath) {name : List UInt8} (hslash : 47 ∉ name) :
    pathNames (FilePath.join (front ++ [47]) name) = pathNames front ++ pathNames name := by
  have hhead : name.head? ≠ some 47 := fun h => hslash (List.mem_of_mem_head? h)
  rw [FilePath.join, if_neg hhead, if_pos List.getLast?_concat, List.append_assoc,
    List.singleton_append, pathNames_append_slash]

/-! ## Local files -/

/-- The path through some segments. -/
def pathThrough (names : List String) : FilePath :=
  names.flatMap fun name => 47 :: percentDecode name

theorem pathThrough_concat (above : List String) (last : String) :
    pathThrough (above ++ [last]) = pathThrough above ++ 47 :: percentDecode last := by
  rw [pathThrough, List.flatMap_append, List.flatMap_singleton]
  rfl

/-- A segment is the code of a text without slashes. -/
def IsName (segment name : String) : Prop :=
  percentDecode segment = Utf8.encode name ∧ 47 ∉ percentDecode segment

/-- A URI of a local file with its segments: it has no host, no slash at its end and no coded ones,
and its segments are codes of texts, the last one that of `name`. -/
structure LocalFile (u : Uri) (above : List String) (last name : String) : Prop where
  scheme : u.scheme = "file"
  host : u.host? = none
  path : u.path = .segments (above ++ [last])
  names : ∀ segment ∈ above, ∃ name, IsName segment name
  name : IsName last name
  filled : last ≠ ""

/-- A URI is one of a local file. -/
def IsLocalFile (u : Uri) : Prop := ∃ above last name, u.LocalFile above last name

/-- A segment that is a drive, or a single or a double dot. -/
def IsAside (segment : String) : Prop :=
  isNormalDrive segment ∨ percentDecode segment = [46] ∨ percentDecode segment = [46, 46]

/-- The last segment of a URI is a drive or a dot. -/
def EndsAside (u : Uri) : Prop :=
  ∃ above last, u.path = .segments (above ++ [last]) ∧ IsAside last

/-- The path of a file is that of the directory with the name of the file behind it. -/
def FitsTogether (u : Uri) : Prop :=
  ∃ path directory name, u.filePath? = some path ∧ u.parent?.bind filePath? = some directory ∧
    u.fileName? = some name ∧
      pathNames path = pathNames (FilePath.join directory (Utf8.encode name))

/-- A file lies directly in a directory. -/
def LiesIn (u : Uri) (directory : FilePath) : Prop :=
  ∃ path name, u.filePath? = some path ∧ u.fileName? = some name ∧
    pathNames path = pathNames directory ++ [Utf8.encode name]

theorem percentDecode_ne_nil (h : last ≠ "") : percentDecode last ≠ [] := by
  rw [percentDecode]
  cases hbytes : Utf8.encode last with
  | nil => exact absurd (Utf8.encode_eq_nil.mp hbytes) h
  | cons first rest =>
    unfold percentDecodeBytes
    split
    · rename_i hnil
      exact absurd hnil (List.cons_ne_nil _ _)
    · split <;> exact List.cons_ne_nil _ _
    · exact List.cons_ne_nil _ _

/-- A path that ends in a slash does not end in a drive. -/
theorem endsInDrive_concat_slash (front : FilePath) : endsInDrive (front ++ [47]) = false := by
  rw [endsInDrive, List.reverse_concat]
  cases front.reverse with
  | nil => rfl
  | cons letter rest => cases rest <;> rfl

/-- The path on disk of some segments. -/
theorem filePath?_of_segments (u : Uri) (hhost : u.host? = none)
    (hpath : u.path = .segments (above ++ [last])) :
    u.filePath? = some (if endsInDrive (pathThrough (above ++ [last])) then
      pathThrough (above ++ [last]) ++ [47] else pathThrough (above ++ [last])) := by
  rw [filePath?, segments?_concat hpath]
  simp [hhost, guard, pathThrough]

/-- The path on disk leads along the names in the segments. -/
theorem exists_filePath?_of_segments (u : Uri) (hhost : u.host? = none)
    (hpath : u.path = .segments (above ++ [last])) : ∃ path, u.filePath? = some path ∧
      pathNames path = pathNames (pathThrough (above ++ [last])) := by
  refine ⟨_, filePath?_of_segments u hhost hpath, ?_⟩
  split
  · exact pathNames_concat_slash _
  · rfl

/-- The segments of the directory in which a file is said to lie: a drive is never cut off. -/
def holding (above : List String) (last : String) : List String :=
  if isNormalDrive last then above ++ [last] else above

theorem directorySegments_concat (above : List String) (last : String) :
    directorySegments .file (above ++ [last]) = holding above last ++ [""] := by
  rw [directorySegments, holding, List.getLast?_concat, List.dropLast_concat]
  simp only [Option.any_some, true_and]
  split <;> rfl

/-- What is along a path through names is the code of a text, and can be one name. -/
theorem exists_of_mem_pathNames {segments : List String}
    (h : ∀ segment ∈ segments, ∃ name, IsName segment name) {bytes : List UInt8}
    (hbytes : bytes ∈ pathNames (pathThrough segments)) :
    ∃ name, bytes = Utf8.encode name ∧ 47 ∉ bytes ∧ bytes ≠ [] ∧ bytes ≠ [46] := by
  obtain ⟨hmem, hne⟩ := List.mem_filter.mp hbytes
  obtain ⟨hnil, hdot⟩ := of_decide_eq_true hne
  suffices hname : ∃ name, bytes = Utf8.encode name by
    obtain ⟨name, hname⟩ := hname
    exact ⟨name, hname, Disk.not_mem_of_mem_splitOn hmem, hnil, hdot⟩
  clear hmem
  induction segments using List.reverseRecOn with
  | nil => cases hbytes
  | append_singleton front last ih =>
    obtain ⟨name, hdecoded, hslash⟩ := h last (by simp)
    rw [pathThrough_concat, pathNames_append_slash, pathNames_of_not_mem hslash,
      List.mem_append] at hbytes
    rcases hbytes with hbytes | hbytes
    · exact ih (fun segment hsegment => h segment (List.mem_append_left _ hsegment)) hbytes
    · split at hbytes
      · exact ⟨name, (List.mem_singleton.mp hbytes).trans hdecoded⟩
      · cases hbytes

namespace LocalFile

theorem exists_filePath? (h : u.LocalFile above last name) : ∃ path, u.filePath? = some path ∧
    pathNames path = pathNames (pathThrough (above ++ [last])) :=
  exists_filePath?_of_segments u h.host h.path

/-- The directory is found by cutting off the last segment, unless this is a drive. -/
theorem parent_filePath? (h : u.LocalFile above last name) : u.parent?.bind filePath? =
    some (pathThrough (if isNormalDrive last then above ++ [last] else above) ++ [47]) := by
  have hsegments : directorySegments (.of u.scheme) (above ++ [last]) =
      (if isNormalDrive last then above ++ [last] else above) ++ [""] := by
    have hkind : Kind.of u.scheme = .file := by
      rw [h.scheme]
      rfl
    rw [hkind]
    exact directorySegments_concat above last
  obtain ⟨parent, hparent, hhost, hpath⟩ : ∃ parent, u.parent? = some parent ∧
      parent.host? = none ∧ parent.path = .segments
        ((if isNormalDrive last then above ++ [last] else above) ++ [""]) := by
    rw [← hsegments, parent?, h.path]
    exact ⟨_, rfl, h.host, rfl⟩
  have hslash : 47 :: percentDecode "" = [47] := by decide +kernel
  rw [hparent, Option.bind_some, filePath?_of_segments parent hhost hpath, pathThrough_concat,
    hslash, endsInDrive_concat_slash]
  rfl

theorem pathNames_last (h : u.LocalFile above last name) (hdot : percentDecode last ≠ [46]) :
    pathNames (pathThrough (above ++ [last])) =
      pathNames (pathThrough above) ++ [Utf8.encode name] := by
  rw [pathThrough_concat, pathNames_append_slash, pathNames_of_not_mem h.name.2,
    if_pos ⟨percentDecode_ne_nil h.filled, hdot⟩, h.name.1]

/-- A last segment that is no dot is the name of the file. -/
theorem fileName?_of_name (h : u.LocalFile above last name) (hdot : percentDecode last ≠ [46])
    (hdots : percentDecode last ≠ [46, 46]) : u.fileName? = some name := by
  obtain ⟨path, hpath, hnames⟩ := h.exists_filePath?
  rw [h.pathNames_last hdot] at hnames
  rw [h.name.1] at hdots
  rw [fileName?, hpath]
  dsimp only
  rw [lastName?, hnames, List.getLast?_concat, Option.filter_some,
    if_pos (by simpa using hdots), Option.map_some, Utf8.lossy_encode]

/-- The name of a file is the last one along its path, and no dot. -/
theorem of_fileName? (h : u.LocalFile above last name) {other : String}
    (hname : u.fileName? = some other) :
    (pathNames (pathThrough (above ++ [last]))).getLast? = some (Utf8.encode other) ∧
      Utf8.encode other ≠ [46, 46] ∧ 47 ∉ Utf8.encode other ∧
      pathNames (Utf8.encode other) = [Utf8.encode other] := by
  obtain ⟨path, hpath, hnames⟩ := h.exists_filePath?
  rw [fileName?, hpath] at hname
  dsimp only at hname
  obtain ⟨bytes, hlast, rfl⟩ := Option.map_eq_some_iff.mp hname
  obtain ⟨hlast, hdots⟩ := Option.filter_eq_some_iff.mp hlast
  rw [hnames] at hlast
  have hsegments : ∀ segment ∈ above ++ [last], ∃ name, IsName segment name := by
    intro segment hsegment
    rcases List.mem_append.mp hsegment with hsegment | hsegment
    · exact h.names segment hsegment
    · exact List.mem_singleton.mp hsegment ▸ ⟨name, h.name⟩
  obtain ⟨text, rfl, hslash, hnil, hdot⟩ :=
    exists_of_mem_pathNames hsegments (List.mem_of_getLast? hlast)
  rw [Utf8.lossy_encode]
  refine ⟨hlast, by simpa using hdots, hslash, ?_⟩
  rw [pathNames_of_not_mem hslash, if_pos ⟨hnil, hdot⟩]

theorem endsAside_iff (h : u.LocalFile above last name) : u.EndsAside ↔ IsAside last := by
  constructor
  · rintro ⟨above', last', hpath, haside⟩
    rwa [last_eq_of_path h.path hpath]
  · exact fun haside => ⟨above, last, h.path, haside⟩

end LocalFile

/-- A file fits together with its directory unless its last segment is a drive or a dot. -/
theorem LocalFile.fitsTogether_iff (h : u.LocalFile above last name) :
    u.FitsTogether ↔ ¬ u.EndsAside := by
  rw [h.endsAside_iff]
  obtain ⟨path, hpath, hnames⟩ := h.exists_filePath?
  have hparent := h.parent_filePath?
  constructor
  · rintro ⟨path', directory, other, hpath', hdirectory, hname, hjoin⟩ haside
    obtain rfl : path' = path := Option.some.inj (hpath'.symm.trans hpath)
    rw [hparent] at hdirectory
    cases hdirectory
    obtain ⟨hlast, hdots, hslash, halone⟩ := h.of_fileName? hname
    rw [pathNames_join _ hslash, hnames, halone] at hjoin
    -- The directory would have to be shorter by a name than the path that has no more names.
    have hlength := congrArg List.length hjoin
    rw [List.length_append, List.length_singleton] at hlength
    by_cases hdrive : isNormalDrive last
    · rw [if_pos hdrive] at hlength
      omega
    · rw [if_neg hdrive] at hlength
      rcases haside with hdrive' | hdot | hdots'
      · exact hdrive hdrive'
      · have hnone : pathNames [46] = [] := by decide
        rw [pathThrough_concat, hdot, pathNames_append_slash, hnone, List.append_nil] at hlength
        omega
      · have hone : pathNames [46, 46] = [[46, 46]] := by decide
        rw [pathThrough_concat, hdots', pathNames_append_slash, hone, List.getLast?_concat] at hlast
        exact hdots (Option.some.inj hlast).symm
  · intro haside
    rw [IsAside, not_or, not_or] at haside
    obtain ⟨hdrive, hdot, hdots⟩ := haside
    rw [if_neg hdrive] at hparent
    refine ⟨path, _, name, hpath, hparent, h.fileName?_of_name hdot hdots, ?_⟩
    have hslash : 47 ∉ Utf8.encode name := h.name.1 ▸ h.name.2
    rw [pathNames_join _ hslash, hnames, pathThrough_concat, pathNames_append_slash, h.name.1]

/-! ## Files in one directory -/

theorem parent?_eq_of_haveCommonParent {uris : List Uri} (h : haveCommonParent uris) (hu : u ∈ uris)
    (hv : v ∈ uris) : u.parent? = v.parent? := by
  cases uris with
  | nil => cases hu
  | cons first rest =>
    have hall : ∀ uri ∈ first :: rest, uri.parent? = first.parent? := by
      intro uri huri
      rcases List.mem_cons.mp huri with rfl | huri
      · rfl
      · exact eq_of_beq (List.all_eq_true.mp h uri huri)
    rw [hall u hu, hall v hv]

/-- Files whose last segments are cut off have the same segments above if they have the same
directory. -/
theorem LocalFile.above_eq {above' : List String} {last' name' : String}
    (h : u.LocalFile above last name) (h' : v.LocalFile above' last' name')
    (hdrive : ¬ isNormalDrive last) (hdrive' : ¬ isNormalDrive last')
    (hparent : u.parent? = v.parent?) : above = above' := by
  have hcut {kind : Kind} {above : List String} {last : String} (hdrive : ¬ isNormalDrive last) :
      directorySegments kind (above ++ [last]) = above ++ [""] := by
    rw [directorySegments, if_neg, List.dropLast_concat]
    rintro ⟨-, h⟩
    rw [List.getLast?_concat] at h
    exact hdrive h
  rw [parent?, parent?, h.path, h'.path] at hparent
  dsimp only at hparent
  rw [hcut hdrive, hcut hdrive', Option.some_inj, Uri.mk.injEq] at hparent
  exact (List.append_inj' (Path.segments.inj hparent.2.2.1) rfl).1

/-- Among local files that are told to have a common directory, each fits together with it unless
its last segment is a drive or a dot.  All files that do lie directly in one directory, and those
with the same name have the same path. -/
theorem localFiles_of_haveCommonParent {uris : List Uri} (hlocal : ∀ u ∈ uris, u.IsLocalFile)
    (h : haveCommonParent uris) :
    (∀ u ∈ uris, u.FitsTogether ↔ ¬ u.EndsAside) ∧
      (∃ directory, ∀ u ∈ uris, ¬ u.EndsAside → u.LiesIn directory) ∧
      ∀ u ∈ uris, ∀ v ∈ uris, ¬ u.EndsAside → ¬ v.EndsAside → u.fileName? = v.fileName? →
        u.filePath? = v.filePath? := by
  refine ⟨fun u hu => ?_, ?_, fun u hu v hv hasideu hasidev hname => ?_⟩
  · obtain ⟨above, last, name, hfile⟩ := hlocal u hu
    exact hfile.fitsTogether_iff
  · cases uris with
    | nil => exact ⟨[], nofun⟩
    | cons first rest =>
      obtain ⟨directory, hdirectory⟩ : ∃ directory,
          first.parent?.bind filePath? = some directory := by
        obtain ⟨above, last, name, hfile⟩ := hlocal first List.mem_cons_self
        exact ⟨_, hfile.parent_filePath?⟩
      refine ⟨directory, fun u hu haside => ?_⟩
      obtain ⟨above, last, name, hfile⟩ := hlocal u hu
      rw [hfile.endsAside_iff, IsAside, not_or, not_or] at haside
      obtain ⟨hdrive, hdot, hdots⟩ := haside
      obtain ⟨path, hpath, hnames⟩ := hfile.exists_filePath?
      have hparent := hfile.parent_filePath?
      rw [parent?_eq_of_haveCommonParent h hu List.mem_cons_self, hdirectory, if_neg hdrive]
        at hparent
      obtain rfl := Option.some.inj hparent
      refine ⟨path, name, hpath, hfile.fileName?_of_name hdot hdots, ?_⟩
      rw [hnames, hfile.pathNames_last hdot, pathNames_concat_slash]
  · obtain ⟨above, last, name, hfile⟩ := hlocal u hu
    obtain ⟨above', last', name', hfile'⟩ := hlocal v hv
    rw [hfile.endsAside_iff, IsAside, not_or, not_or] at hasideu
    rw [hfile'.endsAside_iff, IsAside, not_or, not_or] at hasidev
    obtain ⟨hdrive, hdot, hdots⟩ := hasideu
    obtain ⟨hdrive', hdot', hdots'⟩ := hasidev
    obtain rfl := hfile.above_eq hfile' hdrive hdrive' (parent?_eq_of_haveCommonParent h hu hv)
    rw [hfile.fileName?_of_name hdot hdots, hfile'.fileName?_of_name hdot' hdots',
      Option.some_inj] at hname
    subst hname
    have hpath : pathThrough (above ++ [last]) = pathThrough (above ++ [last']) := by
      rw [pathThrough_concat, pathThrough_concat, hfile.name.1, hfile'.name.1]
    rw [filePath?_of_segments u hfile.host hfile.path,
      filePath?_of_segments v hfile'.host hfile'.path, hpath]

theorem localFiles_of_haveCommonParent_siblings :
    let uris := [localResource ["a", "b"], localResource ["a", "%63"]]
    (∀ u ∈ uris, u.IsLocalFile) ∧ haveCommonParent uris ∧
      ∃ directory, ∀ u ∈ uris, ¬ u.EndsAside → u.LiesIn directory := by
  have hnames : ∀ segment ∈ ["a"], ∃ name, IsName segment name := by
    intro segment hsegment
    obtain rfl := List.mem_singleton.mp hsegment
    exact ⟨"a", by decide +kernel, by decide +kernel⟩
  have hfirst : LocalFile (localResource ["a", "b"]) ["a"] "b" "b" :=
    ⟨rfl, rfl, rfl, hnames, ⟨by decide +kernel, by decide +kernel⟩, by decide⟩
  have hsecond : LocalFile (localResource ["a", "%63"]) ["a"] "%63" "c" :=
    ⟨rfl, rfl, rfl, hnames, ⟨by decide +kernel, by decide +kernel⟩, by decide⟩
  have hlocal : ∀ u ∈ [localResource ["a", "b"], localResource ["a", "%63"]], u.IsLocalFile := by
    simp only [List.forall_mem_cons, List.not_mem_nil, false_implies, implies_true, and_true]
    exact ⟨⟨_, _, _, hfirst⟩, ⟨_, _, _, hsecond⟩⟩
  have hcommon : haveCommonParent [localResource ["a", "b"], localResource ["a", "%63"]] := by
    decide +kernel
  exact ⟨hlocal, hcommon, (localFiles_of_haveCommonParent hlocal hcommon).2.1⟩

/-- Files at different depths do not lie in one directory. -/
theorem not_liesIn_of_length {path' : FilePath} (hpath : u.filePath? = some path)
    (hpath' : v.filePath? = some path')
    (hlength : (pathNames path).length ≠ (pathNames path').length) :
    ¬ ∃ directory, ∀ w ∈ [u, v], w.LiesIn directory := by
  rintro ⟨directory, hall⟩
  obtain ⟨_, name, hsome, -, hin⟩ := hall u List.mem_cons_self
  obtain ⟨_, name', hsome', -, hin'⟩ := hall v (List.mem_cons_of_mem _ List.mem_cons_self)
  obtain rfl := Option.some.inj (hpath.symm.trans hsome)
  obtain rfl := Option.some.inj (hpath'.symm.trans hsome')
  refine hlength ?_
  rw [hin, hin', List.length_append, List.length_append, List.length_singleton,
    List.length_singleton]

/-- Segments of one letter or of a drive are codes of themselves. -/
theorem exists_isName_of_mem (segments : List String)
    (h : ∀ segment ∈ segments, segment = "a" ∨ segment = "C:") :
    ∀ segment ∈ segments, ∃ name, IsName segment name := by
  intro segment hsegment
  rcases h segment hsegment with rfl | rfl
  · exact ⟨"a", by decide +kernel, by decide +kernel⟩
  · exact ⟨"C:", by decide +kernel, by decide +kernel⟩

/-- A file that is called like a drive. -/
def driveFile : Uri := localResource ["a", "C:"]

/-- A file of the same name in a directory of that name. -/
def fileInDrive : Uri := localResource ["a", "C:", "%43:"]

/-- A directory that is called like a drive, and a file in it with its name, are told to have a
common directory. -/
theorem haveCommonParent_driveFile :
    parse "file:///a/C:" = .ok driveFile ∧ parse "file:///a/C:/%43:" = .ok fileInDrive ∧
      haveCommonParent [driveFile, fileInDrive] ∧ driveFile.IsLocalFile ∧ fileInDrive.IsLocalFile ∧
      ¬ driveFile.FitsTogether ∧
      (¬ ∃ directory, ∀ u ∈ [driveFile, fileInDrive], u.LiesIn directory) ∧
      driveFile.fileName? = fileInDrive.fileName? ∧
      driveFile.filePath? ≠ fileInDrive.filePath? := by
  have hpath : driveFile.filePath? = some [47, 97, 47, 67, 58, 47] := by decide +kernel
  have hpath' : fileInDrive.filePath? = some [47, 97, 47, 67, 58, 47, 67, 58, 47] := by
    decide +kernel
  have hfile : LocalFile driveFile ["a"] "C:" "C:" :=
    ⟨rfl, rfl, rfl, exists_isName_of_mem _ (by simp), ⟨by decide +kernel, by decide +kernel⟩,
      by decide⟩
  have hfile' : LocalFile fileInDrive ["a", "C:"] "%43:" "C:" :=
    ⟨rfl, rfl, rfl, exists_isName_of_mem _ (by simp), ⟨by decide +kernel, by decide +kernel⟩,
      by decide⟩
  refine ⟨by decide +kernel, by decide +kernel, by decide +kernel, ⟨_, _, _, hfile⟩,
    ⟨_, _, _, hfile'⟩, ?_, not_liesIn_of_length hpath hpath' (by decide), by decide +kernel,
    by rw [hpath, hpath']; decide⟩
  rw [hfile.fitsTogether_iff, not_not, hfile.endsAside_iff]
  exact .inl (by decide)

/-- The directory of a drive, called by a dot that counts as a name since a tab stands in front. -/
def dotFile : Uri := localResource ["C:", "."]

/-- A file in the same directory. -/
def fileBesideDot : Uri := localResource ["C:", "x"]

/-- No drive need come last: a directory that is called by a dot, and a file in it, are told to have
a common directory as well. -/
theorem haveCommonParent_dotFile :
    parse "file:/C:\t." = .ok dotFile ∧ parse "file:///C:/x" = .ok fileBesideDot ∧
      haveCommonParent [dotFile, fileBesideDot] ∧ dotFile.IsLocalFile ∧
      fileBesideDot.IsLocalFile ∧ ¬ isNormalDrive "." ∧ ¬ dotFile.FitsTogether ∧
      ¬ ∃ directory, ∀ u ∈ [dotFile, fileBesideDot], u.LiesIn directory := by
  have hpath : dotFile.filePath? = some [47, 67, 58, 47, 46] := by decide +kernel
  have hpath' : fileBesideDot.filePath? = some [47, 67, 58, 47, 120] := by decide +kernel
  have hfile : LocalFile dotFile ["C:"] "." "." :=
    ⟨rfl, rfl, rfl, exists_isName_of_mem _ (by simp), ⟨by decide +kernel, by decide +kernel⟩,
      by decide⟩
  have hfile' : LocalFile fileBesideDot ["C:"] "x" "x" :=
    ⟨rfl, rfl, rfl, exists_isName_of_mem _ (by simp), ⟨by decide +kernel, by decide +kernel⟩,
      by decide⟩
  refine ⟨by decide +kernel, by decide +kernel, by decide +kernel, ⟨_, _, _, hfile⟩,
    ⟨_, _, _, hfile'⟩, by decide, ?_, not_liesIn_of_length hpath hpath' (by decide)⟩
  rw [hfile.fitsTogether_iff, not_not, hfile.endsAside_iff]
  exact .inr (.inl (by decide +kernel))

end Refactoring.Uri
