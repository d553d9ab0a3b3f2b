import Refactoring.Proofs.Uri.Directories

/-!
# How directories are spelled

Files are told to have a common directory if the texts of their URIs are the same up to the last
slash.  But a name can be written in many ways: more of its characters can be coded than have to be,
and the digits of a code can be small or capital.  So files that do lie in one directory are told
apart if their URIs do not spell all of its names alike.  The URIs that are made from paths do.
-/

namespace Refactoring.Uri

open Disk (FilePath)

variable {u v : Uri} {above above' : List String} {last last' : String}

/-! ## The text of a directory -/

/-- The text of some segments with a slash in front of each. -/
def spelled (segments : List String) : List Char := segments.flatMap fun name => '/' :: name.toList

/-- The text of a path up to its last slash; a drive, which is never cut off, has one behind it. -/
def directoryText (u : Uri) : List Char :=
  let text := u.path.text.toList
  let name := (text.reverse.takeWhile (· ≠ '/')).reverse
  if isNormalDrive (String.ofList name) then text ++ ['/']
  else (text.reverse.dropWhile (· ≠ '/')).reverse

theorem text_segments (segments : List String) :
    (Path.segments segments).text.toList = spelled segments := by
  rw [Path.text, String.toList_join, List.flatMap_map]
  simp [spelled]

theorem spelled_concat (above : List String) (last : String) :
    spelled (above ++ [last]) = spelled above ++ '/' :: last.toList := by
  rw [spelled, List.flatMap_append, List.flatMap_singleton]
  rfl

theorem splitOn_spelled {segments : List String} (h : ∀ segment ∈ segments, '/' ∉ segment.toList) :
    (spelled segments).splitOn '/' = [] :: segments.map String.toList := by
  induction segments using List.reverseRecOn with
  | nil => rfl
  | append_singleton above last ih =>
    rw [spelled_concat, List.splitOn_append_cons_self,
      ih fun segment hsegment => h segment (List.mem_append_left _ hsegment),
      List.splitOn_eq_singleton (h last (by simp)), List.map_append]
    rfl

theorem spelled_inj {segments segments' : List String}
    (h : ∀ segment ∈ segments, '/' ∉ segment.toList)
    (h' : ∀ segment ∈ segments', '/' ∉ segment.toList) :
    spelled segments = spelled segments' ↔ segments = segments' := by
  refine ⟨fun heq => ?_, congrArg spelled⟩
  have hsplit := congrArg (List.splitOn '/') heq
  rw [splitOn_spelled h, splitOn_spelled h', List.cons.injEq] at hsplit
  exact List.map_injective_iff.mpr (fun _ _ => String.toList_inj.mp) hsplit.2

namespace OwnFile

theorem host (h : u.OwnFile above last) : u.host? = none := by
  rw [host?, h.authority]
  rfl

theorem directoryText_eq (h : u.OwnFile above last) :
    u.directoryText = spelled (holding above last) ++ ['/'] := by
  have hlast : ∀ c ∈ last.toList.reverse, decide (c ≠ '/') = true := by
    intro c hc
    refine decide_eq_true ?_
    rintro rfl
    exact h.slashless last (by simp) (List.mem_reverse.mp hc)
  have hback : (spelled (above ++ [last])).reverse =
      last.toList.reverse ++ '/' :: (spelled above).reverse := by
    rw [spelled_concat, List.reverse_append, List.reverse_cons, List.append_assoc]
    rfl
  rw [directoryText, h.path, text_segments, hback, List.takeWhile_append_of_pos hlast,
    List.dropWhile_append_of_pos hlast, List.takeWhile_cons_of_neg (by simp),
    List.dropWhile_cons_of_neg (by simp), List.append_nil, List.reverse_reverse,
    String.ofList_toList, holding]
  split
  · rfl
  · rw [List.reverse_cons, List.reverse_reverse]

theorem slashless_holding (h : u.OwnFile above last) :
    ∀ segment ∈ holding above last, '/' ∉ segment.toList := by
  unfold holding
  split
  · exact h.slashless
  · exact fun segment hsegment => h.slashless segment (List.mem_append_left _ hsegment)

theorem parent?_eq_iff (h : u.OwnFile above last) (h' : v.OwnFile above' last') :
    u.parent? = v.parent? ↔ holding above last = holding above' last' := by
  have hkind : Kind.of "file" = .file := rfl
  rw [parent?, parent?, h.path, h'.path, h.scheme, h'.scheme, h.authority, h'.authority]
  dsimp only
  rw [hkind, directorySegments_concat, directorySegments_concat]
  simp

theorem directoryText_eq_iff (h : u.OwnFile above last) (h' : v.OwnFile above' last') :
    u.directoryText = v.directoryText ↔ holding above last = holding above' last' := by
  rw [h.directoryText_eq, h'.directoryText_eq, List.append_left_inj,
    spelled_inj h.slashless_holding h'.slashless_holding]

end OwnFile

/-! ## Files in one directory -/

/-- A file lies directly in a directory: the path of the file has one name more. -/
def IsDirectlyIn (u : Uri) (directory : FilePath) : Prop :=
  ∃ path name, u.filePath? = some path ∧ pathNames path = pathNames directory ++ [name]

/-- A segment is one name along the path on disk: it is not empty, no dot, and codes no slash. -/
def IsOneName (segment : String) : Prop :=
  pathNames (percentDecode segment) = [percentDecode segment]

/-- Each segment of a URI is one name along its path on disk. -/
def NamesPath (u : Uri) : Prop := ∀ segments, u.segments? = some segments →
  ∀ segment ∈ segments, IsOneName segment

/-- The segments of a URI in front of its last one. -/
def segmentsAbove (u : Uri) : List String := (u.segments?.getD []).dropLast

/-- The last segment of a URI is a drive. -/
def IsCalledDrive (u : Uri) : Prop :=
  ∃ above last, u.path = .segments (above ++ [last]) ∧ isNormalDrive last

/-- Two URIs spell one of the names of their directories differently. -/
def SpellsDifferently (u v : Uri) : Prop := ∃ (i : Nat) (segment segment' : String),
  u.segmentsAbove[i]? = some segment ∧ v.segmentsAbove[i]? = some segment' ∧
    percentDecode segment = percentDecode segment' ∧ segment ≠ segment'

theorem pathNames_pathThrough {segments : List String}
    (h : ∀ segment ∈ segments, IsOneName segment) :
    pathNames (pathThrough segments) = segments.map percentDecode := by
  induction segments using List.reverseRecOn with
  | nil => rfl
  | append_singleton above last ih =>
    rw [pathThrough_concat, pathNames_append_slash,
      ih fun segment hsegment => h segment (List.mem_append_left _ hsegment), h last (by simp),
      List.map_append, List.map_singleton]

namespace OwnFile

theorem segmentsAbove_eq (h : u.OwnFile above last) : u.segmentsAbove = above := by
  rw [segmentsAbove, segments?_concat h.path, Option.getD_some, List.dropLast_concat]

theorem isCalledDrive_iff (h : u.OwnFile above last) : u.IsCalledDrive ↔ isNormalDrive last := by
  constructor
  · rintro ⟨above', last', hpath, hdrive⟩
    rwa [last_eq_of_path h.path hpath]
  · exact fun hdrive => ⟨above, last, h.path, hdrive⟩

/-- The segments above are codes of the names of the directory. -/
theorem map_percentDecode {directory : FilePath} (h : u.OwnFile above last)
    (hnames : u.NamesPath) (hin : u.IsDirectlyIn directory) :
    above.map percentDecode = pathNames directory := by
  obtain ⟨path, name, hpath, hsplit⟩ := hin
  obtain ⟨path', hpath', hthrough⟩ := exists_filePath?_of_segments u h.host h.path
  obtain rfl : path' = path := Option.some.inj (hpath'.symm.trans hpath)
  rw [pathNames_pathThrough (hnames _ (segments?_concat h.path)), List.map_append,
    List.map_singleton] at hthrough
  exact (List.append_inj' (hthrough.symm.trans hsplit) rfl).1

theorem spellsDifferently_iff (h : u.OwnFile above last) (h' : v.OwnFile above' last')
    (hdecoded : above.map percentDecode = above'.map percentDecode) :
    u.SpellsDifferently v ↔ above ≠ above' := by
  rw [SpellsDifferently, h.segmentsAbove_eq, h'.segmentsAbove_eq]
  constructor
  · rintro ⟨i, segment, segment', hsegment, hsegment', -, hne⟩ rfl
    exact hne (Option.some.inj (hsegment.symm.trans hsegment'))
  · intro hne
    obtain ⟨i, hi⟩ := not_forall.mp fun hall => hne (List.ext_getElem? hall)
    have hcoded := congrArg (·[i]?) hdecoded
    simp only [List.getElem?_map] at hcoded
    cases hsegment : above[i]? with
    | none =>
      rw [hsegment, Option.map_none, eq_comm, Option.map_eq_none_iff] at hcoded
      exact absurd (hsegment.trans hcoded.symm) hi
    | some segment =>
      rw [hsegment, Option.map_some, eq_comm, Option.map_eq_some_iff] at hcoded
      obtain ⟨segment', hsegment', hdecode⟩ := hcoded
      refine ⟨i, segment, segment', hsegment, hsegment', hdecode.symm, ?_⟩
      rintro rfl
      exact hi (hsegment.trans hsegment'.symm)

/-- Files in one directory have the same segments for it unless they spell one of its names
differently, or one of them is called like a drive. -/
theorem holding_eq_iff (h : u.OwnFile above last) (h' : v.OwnFile above' last')
    (hdecoded : above.map percentDecode = above'.map percentDecode) :
    holding above last = holding above' last' ↔
      ¬ u.SpellsDifferently v ∧ (u.IsCalledDrive ∨ v.IsCalledDrive → u.path = v.path) := by
  rw [h.spellsDifferently_iff h' hdecoded, not_not, h.isCalledDrive_iff, h'.isCalledDrive_iff,
    h.path, h'.path, Path.segments.injEq]
  have hlength : above.length = above'.length := by
    simpa using congrArg List.length hdecoded
  constructor
  · intro hsame
    have hlength' := congrArg List.length hsame
    unfold holding at hsame hlength'
    by_cases hdrive : isNormalDrive last <;> by_cases hdrive' : isNormalDrive last'
    · rw [if_pos hdrive, if_pos hdrive'] at hsame
      exact ⟨(List.append_inj' hsame rfl).1, fun _ => hsame⟩
    · rw [if_pos hdrive, if_neg hdrive', List.length_append, List.length_singleton] at hlength'
      omega
    · rw [if_neg hdrive, if_pos hdrive', List.length_append, List.length_singleton] at hlength'
      omega
    · rw [if_neg hdrive, if_neg hdrive'] at hsame
      exact ⟨hsame, fun hor => (hor.elim hdrive hdrive').elim⟩
  · rintro ⟨rfl, hpath⟩
    by_cases hor : isNormalDrive last ∨ isNormalDrive last'
    · obtain ⟨-, hlast⟩ := List.append_inj' (hpath hor) rfl
      rw [List.singleton_inj.mp hlast]
    · rw [not_or] at hor
      rw [holding, holding, if_neg hor.1, if_neg hor.2]

end OwnFile

/-! ## Coded names -/

/-- The characters that a byte of a name is written with. -/
def nameByte (b : UInt8) : List Char :=
  if nameSet (Char.ofNat b.toNat) then percentByte b else [Char.ofNat b.toNat]

theorem percentEncodeName_eq (name : List UInt8) :
    percentEncodeName name = String.ofList (name.flatMap nameByte) := rfl

theorem toNat_ofNat_toNat (b : UInt8) : (Char.ofNat b.toNat).toNat = b.toNat := by
  have hb : b.toNat < 256 := b.toNat_lt
  have hvalid : b.toNat.isValidChar := .inl (by omega)
  rw [Char.ofNat, dif_pos hvalid]
  rfl

theorem of_not_nameSet {c : Char} (h : ¬ nameSet c) : c.toNat < 127 ∧ c ≠ '%' := by
  simp only [nameSet, pathSet, fragmentSet, isControl, Bool.or_eq_true, not_or, decide_eq_true_eq,
    List.contains_iff_mem] at h
  exact ⟨by omega, fun hpercent => h.2 (by rw [hpercent]; decide)⟩

theorem hexByte?_hexUpper : ∀ n < 16, (hexUpper n).toNat < 128 ∧
    hexByte? (UInt8.ofNat (hexUpper n).toNat) = some (UInt8.ofNat n) := by
  decide

theorem toNat_lt_of_mem_nameByte {b : UInt8} {c : Char} (h : c ∈ nameByte b) : c.toNat < 128 := by
  have hb : b.toNat < 256 := b.toNat_lt
  unfold nameByte at h
  split at h
  · simp only [percentByte, List.mem_cons, List.not_mem_nil, or_false] at h
    rcases h with rfl | rfl | rfl
    · decide
    · exact (hexByte?_hexUpper _ (by omega)).1
    · exact (hexByte?_hexUpper _ (by omega)).1
  · rename_i hset
    rw [List.mem_singleton.mp h]
    have := (of_not_nameSet hset).1
    omega

theorem percentDecodeBytes_nameByte (b : UInt8) (rest : List UInt8) :
    percentDecodeBytes ((nameByte b).map (fun c => UInt8.ofNat c.toNat) ++ rest) =
      b :: percentDecodeBytes rest := by
  have hb : b.toNat < 256 := b.toNat_lt
  unfold nameByte
  split
  · have hpair : hexPair? (UInt8.ofNat (hexUpper (b.toNat / 16)).toNat)
        (UInt8.ofNat (hexUpper (b.toNat % 16)).toNat) = some b := by
      rw [hexPair?, (hexByte?_hexUpper (b.toNat / 16) (by omega)).2,
        (hexByte?_hexUpper (b.toNat % 16) (by omega)).2]
      refine congrArg some (UInt8.toNat_inj.mp ?_)
      rw [UInt8.toNat_add, UInt8.toNat_mul, UInt8.toNat_ofNat', UInt8.toNat_ofNat']
      change (b.toNat / 16 % 256 * 16 % 256 + b.toNat % 16 % 256) % 256 = b.toNat
      omega
    change percentDecodeBytes (37 :: _ :: _ :: rest) = _
    rw [percentDecodeBytes, hpair]
  · rename_i hset
    have hpercent : b ≠ 37 := by
      rintro rfl
      exact (of_not_nameSet hset).2 rfl
    rw [List.map_singleton, toNat_ofNat_toNat, UInt8.ofNat_toNat, List.singleton_append]
    rw [percentDecodeBytes]
    rintro a b rest rfl
    exact absurd rfl hpercent

/-- A name is read back from its code. -/
theorem percentDecode_percentEncodeName (name : List UInt8) :
    percentDecode (percentEncodeName name) = name := by
  rw [percentDecode, percentEncodeName_eq, Utf8.encode_ofList_of_lt fun c hc => by
    obtain ⟨b, -, hb⟩ := List.mem_flatMap.mp hc
    exact toNat_lt_of_mem_nameByte hb]
  induction name with
  | nil => rfl
  | cons b rest ih =>
    rw [List.flatMap_cons, List.map_append, percentDecodeBytes_nameByte, ih]

/-- The segments of the URI of a path are the codes of the names along it. -/
theorem exists_name_of_ofFilePath {path : FilePath} (h : (ofFilePath path).OwnFile above last) :
    ∀ segment ∈ above ++ [last], ∃ name ∈ pathNames path, segment = percentEncodeName name := by
  have hsegments := h.path
  unfold ofFilePath at hsegments
  split at hsegments
  · -- The root has nothing behind its slash.
    have hroot : (localResource [""]).path = .segments ([] ++ [""]) := rfl
    exact absurd (last_eq_of_path hsegments hroot) h.filled
  · rw [← Path.segments.inj hsegments]
    intro segment hsegment
    obtain ⟨name, hname, rfl⟩ := List.mem_map.mp hsegment
    exact ⟨name, hname, rfl⟩

theorem pathNames_of_mem {path : FilePath} {name : List UInt8} (h : name ∈ pathNames path) :
    pathNames name = [name] := by
  obtain ⟨hmem, hne⟩ := List.mem_filter.mp h
  rw [pathNames_of_not_mem (Disk.not_mem_of_mem_splitOn hmem), if_pos (of_decide_eq_true hne)]

theorem namesPath_ofFilePath {path : FilePath} (h : (ofFilePath path).OwnFile above last) :
    (ofFilePath path).NamesPath := by
  intro segments hsegments segment hsegment
  rw [segments?_concat h.path, Option.some_inj] at hsegments
  obtain ⟨name, hname, rfl⟩ := exists_name_of_ofFilePath h segment (hsegments ▸ hsegment)
  rw [IsOneName, percentDecode_percentEncodeName, pathNames_of_mem hname]

/-- The URIs of paths spell every name in one way. -/
theorem not_spellsDifferently_ofFilePath {path path' : FilePath}
    (h : (ofFilePath path).OwnFile above last) (h' : (ofFilePath path').OwnFile above' last') :
    ¬ (ofFilePath path).SpellsDifferently (ofFilePath path') := by
  rintro ⟨i, segment, segment', hsegment, hsegment', hdecode, hne⟩
  rw [h.segmentsAbove_eq] at hsegment
  rw [h'.segmentsAbove_eq] at hsegment'
  obtain ⟨name, -, rfl⟩ := exists_name_of_ofFilePath h segment
    (List.mem_append_left _ (List.mem_of_getElem? hsegment))
  obtain ⟨name', -, rfl⟩ := exists_name_of_ofFilePath h' segment'
    (List.mem_append_left _ (List.mem_of_getElem? hsegment'))
  rw [percentDecode_percentEncodeName, percentDecode_percentEncodeName] at hdecode
  exact hne (congrArg percentEncodeName hdecode)

/-! ## Directories that are told apart -/

theorem haveCommonParent_iff {uris : List Uri} :
    haveCommonParent uris ↔ ∀ u ∈ uris, ∀ v ∈ uris, u.parent? = v.parent? := by
  refine ⟨fun h u hu v hv => parent?_eq_of_haveCommonParent h hu hv, fun h => ?_⟩
  cases uris with
  | nil => rfl
  | cons first rest =>
    exact List.all_eq_true.mpr fun u hu =>
      beq_iff_eq.mpr (h u (List.mem_cons_of_mem _ hu) first List.mem_cons_self)

section OneDirectory

variable {uris : List Uri} {directory : FilePath}

theorem haveCommonParent_iff_directoryText (hown : ∀ u ∈ uris, u.IsOwnFile) :
    haveCommonParent uris ↔ ∀ u ∈ uris, ∀ v ∈ uris, u.directoryText = v.directoryText := by
  refine haveCommonParent_iff.trans (forall₂_congr fun u hu => forall₂_congr fun v hv => ?_)
  obtain ⟨above, last, hfile⟩ := hown u hu
  obtain ⟨above', last', hfile'⟩ := hown v hv
  rw [hfile.parent?_eq_iff hfile', hfile.directoryText_eq_iff hfile']

theorem haveCommonParent_iff_not_spellsDifferently (hown : ∀ u ∈ uris, u.IsOwnFile)
    (hin : ∀ u ∈ uris, u.IsDirectlyIn directory) (hnames : ∀ u ∈ uris, u.NamesPath) :
    haveCommonParent uris ↔ ∀ u ∈ uris, ∀ v ∈ uris, ¬ u.SpellsDifferently v ∧
      (u.IsCalledDrive ∨ v.IsCalledDrive → u.path = v.path) := by
  refine haveCommonParent_iff.trans (forall₂_congr fun u hu => forall₂_congr fun v hv => ?_)
  obtain ⟨above, last, hfile⟩ := hown u hu
  obtain ⟨above', last', hfile'⟩ := hown v hv
  have hdecoded : above.map percentDecode = above'.map percentDecode :=
    (hfile.map_percentDecode (hnames u hu) (hin u hu)).trans
      (hfile'.map_percentDecode (hnames v hv) (hin v hv)).symm
  rw [hfile.parent?_eq_iff hfile', hfile.holding_eq_iff hfile' hdecoded]

/-- Files that lie in one directory are told so if and only if their URIs have the same text up to
the last slash.  Where each segment is one name, that is so unless a name of the directory is spelled
in two ways or one of several files is called like a drive.  It is so for the URIs of paths. -/
theorem haveCommonParent_iff_of_isDirectlyIn
    (hown : ∀ u ∈ uris, u.IsOwnFile) (hin : ∀ u ∈ uris, u.IsDirectlyIn directory) :
    (haveCommonParent uris ↔ ∀ u ∈ uris, ∀ v ∈ uris, u.directoryText = v.directoryText) ∧
      ((∀ u ∈ uris, u.NamesPath) → (haveCommonParent uris ↔ ∀ u ∈ uris, ∀ v ∈ uris,
        ¬ u.SpellsDifferently v ∧ (u.IsCalledDrive ∨ v.IsCalledDrive → u.path = v.path))) ∧
      ((∀ u ∈ uris, (∃ path, u = ofFilePath path) ∧ ¬ u.IsCalledDrive) →
        haveCommonParent uris) := by
  refine ⟨haveCommonParent_iff_directoryText hown,
    haveCommonParent_iff_not_spellsDifferently hown hin, fun hpaths => ?_⟩
  have hnames : ∀ u ∈ uris, u.NamesPath := by
    intro u hu
    obtain ⟨⟨path, rfl⟩, -⟩ := hpaths u hu
    obtain ⟨above, last, hfile⟩ := hown _ hu
    exact namesPath_ofFilePath hfile
  refine (haveCommonParent_iff_not_spellsDifferently hown hin hnames).mpr fun u hu v hv => ?_
  obtain ⟨⟨path, rfl⟩, hdrive⟩ := hpaths u hu
  obtain ⟨⟨path', rfl⟩, hdrive'⟩ := hpaths v hv
  obtain ⟨above, last, hfile⟩ := hown _ hu
  obtain ⟨above', last', hfile'⟩ := hown _ hv
  exact ⟨not_spellsDifferently_ofFilePath hfile hfile', fun hor => (hor.elim hdrive hdrive').elim⟩

theorem haveCommonParent_iff_of_isDirectlyIn_fromPaths :
    let uris := [ofFilePath (Utf8.encode "/é b/x"), ofFilePath (Utf8.encode "/é b//100%/")]
    (∀ u ∈ uris, u.IsOwnFile) ∧ (∀ u ∈ uris, u.IsDirectlyIn (Utf8.encode "/é b")) ∧
      (∀ u ∈ uris, u.NamesPath) ∧ (∀ u ∈ uris, (∃ path, u = ofFilePath path) ∧ ¬ u.IsCalledDrive) ∧
      haveCommonParent uris ∧ ∀ u ∈ uris, ∀ v ∈ uris, ¬ u.SpellsDifferently v := by
  have hfirst : (ofFilePath (Utf8.encode "/é b/x")).OwnFile ["%C3%A9%20b"] "x" := by
    have huri : ofFilePath (Utf8.encode "/é b/x") = localResource ["%C3%A9%20b", "x"] := by
      decide +kernel
    exact huri ▸ ⟨rfl, rfl, rfl, by decide, by decide⟩
  have hsecond : (ofFilePath (Utf8.encode "/é b//100%/")).OwnFile ["%C3%A9%20b"] "100%25" := by
    have huri : ofFilePath (Utf8.encode "/é b//100%/") =
        localResource ["%C3%A9%20b", "100%25"] := by
      decide +kernel
    exact huri ▸ ⟨rfl, rfl, rfl, by decide, by decide⟩
  intro uris
  have hall {p : Uri → Prop} (h : p (ofFilePath (Utf8.encode "/é b/x")))
      (h' : p (ofFilePath (Utf8.encode "/é b//100%/"))) : ∀ u ∈ uris, p u := by
    simp [uris, h, h']
  have hown : ∀ u ∈ uris, u.IsOwnFile := hall ⟨_, _, hfirst⟩ ⟨_, _, hsecond⟩
  have hin : ∀ u ∈ uris, u.IsDirectlyIn (Utf8.encode "/é b") := hall
    ⟨Utf8.encode "/é b/x", Utf8.encode "x", by decide +kernel, by decide +kernel⟩
    ⟨Utf8.encode "/é b/100%", Utf8.encode "100%", by decide +kernel, by decide +kernel⟩
  have hnames : ∀ u ∈ uris, u.NamesPath :=
    hall (namesPath_ofFilePath hfirst) (namesPath_ofFilePath hsecond)
  have hpaths : ∀ u ∈ uris, (∃ path, u = ofFilePath path) ∧ ¬ u.IsCalledDrive := hall
    ⟨⟨_, rfl⟩, by rw [hfirst.isCalledDrive_iff]; decide⟩
    ⟨⟨_, rfl⟩, by rw [hsecond.isCalledDrive_iff]; decide⟩
  obtain ⟨-, hspelled, hcommon⟩ := haveCommonParent_iff_of_isDirectlyIn hown hin
  exact ⟨hown, hin, hnames, hpaths, hcommon hpaths, fun u hu v hv =>
    ((hspelled hnames).mp (hcommon hpaths) u hu v hv).1⟩

end OneDirectory

/-- A file in the directory `/é`, which is coded with small digits. -/
def smallDigits : Uri := localResource ["%c3%a9", "x"]

/-- Another file there, with capital digits. -/
def capitalDigits : Uri := localResource ["%C3%A9", "y"]

/-- Digits of codes are compared as they are written, so the two files are told apart. -/
theorem not_forall_haveCommonParent :
    parse "file:///%c3%a9/x" = .ok smallDigits ∧ parse "file:///%C3%A9/y" = .ok capitalDigits ∧
      smallDigits.filePath? = some (Utf8.encode "/é/x") ∧
      capitalDigits.filePath? = some (Utf8.encode "/é/y") ∧
      ¬ haveCommonParent [smallDigits, capitalDigits] ∧
      ¬ ∀ (uris : List Uri) (directory : FilePath), (∀ u ∈ uris, u.IsOwnFile) →
        (∀ u ∈ uris, u.IsDirectlyIn directory) → haveCommonParent uris := by
  have hsmall : parse "file:///%c3%a9/x" = .ok smallDigits := by decide +kernel
  have hcapital : parse "file:///%C3%A9/y" = .ok capitalDigits := by decide +kernel
  have hpath : smallDigits.filePath? = some (Utf8.encode "/é/x") := by decide +kernel
  have hpath' : capitalDigits.filePath? = some (Utf8.encode "/é/y") := by decide +kernel
  have hapart : ¬ haveCommonParent [smallDigits, capitalDigits] := by decide +kernel
  refine ⟨hsmall, hcapital, hpath, hpath', hapart, fun hall => hapart (hall _ (Utf8.encode "/é")
    ?_ ?_)⟩
  · simp only [List.forall_mem_cons, List.not_mem_nil, false_implies, implies_true, and_true]
    exact ⟨isOwnFile_of_parse hsmall rfl rfl (by decide),
      isOwnFile_of_parse hcapital rfl rfl (by decide)⟩
  · simp only [List.forall_mem_cons, List.not_mem_nil, false_implies, implies_true, and_true]
    exact ⟨⟨_, Utf8.encode "x", hpath, by decide +kernel⟩,
      ⟨_, Utf8.encode "y", hpath', by decide +kernel⟩⟩

end Refactoring.Uri
