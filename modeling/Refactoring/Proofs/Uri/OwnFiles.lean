import Refactoring.Proofs.Except
import Refactoring.Uri.Place

/-!
# Files on the own machine

A URI of a file that has no host is written with nothing between its second and its third slash, and
each of its segments is what stands between two slashes of its path.
-/

namespace Refactoring.Uri

variable {u : Uri} {above : List String} {last : String}

/-- A URI of a file on the own machine with its segments; there is no slash at its end. -/
structure OwnFile (u : Uri) (above : List String) (last : String) : Prop where
  scheme : u.scheme = "file"
  authority : u.authority = some .empty
  path : u.path = .segments (above ++ [last])
  slashless : ∀ segment ∈ above ++ [last], '/' ∉ segment.toList
  filled : last ≠ ""

/-- A URI is one of a file on the own machine. -/
def IsOwnFile (u : Uri) : Prop := ∃ above last, u.OwnFile above last

/-- A path has one last segment. -/
theorem last_eq_of_path {above' : List String} {last' : String}
    (h : u.path = .segments (above ++ [last])) (h' : u.path = .segments (above' ++ [last'])) :
    last = last' :=
  List.singleton_inj.mp (List.append_inj' (Path.segments.inj (h.symm.trans h')) rfl).2

theorem segments?_concat (h : u.path = .segments (above ++ [last])) :
    u.segments? = some (above ++ [last]) := by
  rw [segments?, h]
  cases above <;> rfl

/-! ## Segments without slashes -/

theorem not_mem_of_mem_splitAll {p : Char → Bool} {c : Char} (hc : p c) {text part : List Char}
    (h : part ∈ splitAll p text) : c ∉ part := by
  induction text generalizing part with
  | nil =>
    rw [List.mem_singleton.mp h]
    exact List.not_mem_nil
  | cons d rest ih =>
    have hne (hd : p d = false) : c ≠ d := by
      rintro rfl
      exact absurd hc (Bool.eq_false_iff.mp hd)
    rw [splitAll] at h
    split at h
    · rcases List.mem_cons.mp h with rfl | h
      · exact List.not_mem_nil
      · exact ih h
    · rename_i first parts hd hparts
      rcases List.mem_cons.mp h with rfl | h
      · rw [List.mem_cons, not_or]
        exact ⟨hne hd, ih (hparts ▸ List.mem_cons_self)⟩
      · exact ih (hparts ▸ List.mem_cons_of_mem _ h)
    · rename_i hd _
      rw [List.mem_singleton.mp h, List.mem_singleton]
      exact hne hd

theorem slash_not_mem_percentByte (b : UInt8) : '/' ∉ percentByte b := by
  have hdigit : ∀ n < 16, hexUpper n ≠ '/' := by decide
  have hb : b.toNat < 256 := b.toNat_lt
  simp only [percentByte, List.mem_cons, List.not_mem_nil, or_false, not_or]
  exact ⟨by decide, (hdigit _ (by omega)).symm, (hdigit _ (by omega)).symm⟩

theorem slash_not_mem_percentEncode {set : Char → Bool} {text : List Char} (h : '/' ∉ text) :
    '/' ∉ percentEncode set text := by
  rw [percentEncode, List.mem_flatMap]
  rintro ⟨c, hc, hslash⟩
  split at hslash
  · obtain ⟨b, -, hb⟩ := List.mem_flatMap.mp hslash
    exact slash_not_mem_percentByte b hb
  · rw [List.mem_singleton.mp hslash] at h
    exact h hc

namespace Route

/-- No name of a route holds a slash. -/
def Slashless (r : Route) : Prop := ∀ name ∈ r.names, '/' ∉ name.toList

variable {r : Route} {segment : List Char} {name : String}

theorem slash_not_mem_written (h : '/' ∉ segment) : '/' ∉ (written segment).toList := by
  rw [written, String.toList_ofList]
  exact slash_not_mem_percentEncode fun hslash => h (List.mem_filter.mp hslash).1

theorem slash_not_mem_drive {letter : Char} (h : letter ≠ '/') : '/' ∉ (drive letter).toList := by
  rw [drive, String.toList_ofList]
  simp only [List.mem_cons, List.not_mem_nil, or_false, not_or]
  exact ⟨h.symm, by decide⟩

theorem Slashless.add (h : r.Slashless) (hname : '/' ∉ name.toList) : (r.add name).Slashless := by
  intro other hother
  rcases List.mem_append.mp hother with hother | hother
  · exact h other hother
  · exact List.mem_singleton.mp hother ▸ hname

theorem Slashless.ascend (h : r.Slashless) : r.ascend.Slashless := by
  unfold Route.ascend
  split
  · exact h
  · exact fun name hname => h name (List.dropLast_subset _ hname)

/-- The drive that a segment is cut behind, and the rest, are parts of the segment. -/
theorem slash_not_mem_of_cutDrive? {found : String} {rest : List Char} (h : '/' ∉ segment)
    (hcut : cutDrive? segment = some (found, rest)) : '/' ∉ found.toList ∧ '/' ∉ rest := by
  unfold cutDrive? at hcut
  split at hcut
  · rename_i letter behind hletter
    have hsegment : ∀ c ∈ letter :: behind, c ∈ segment := by
      rw [← hletter]
      exact fun c hc => (List.dropWhile_sublist _).mem hc
    split at hcut
    · rename_i behind' hmark
      have hrest : ∀ c ∈ ':' :: behind', c ∈ behind := by
        rw [← hmark]
        exact fun c hc => (List.dropWhile_sublist _).mem hc
      split at hcut
      · cases hcut
        refine ⟨slash_not_mem_drive ?_, fun hslash => h ?_⟩
        · rintro rfl
          exact h (hsegment _ List.mem_cons_self)
        · exact hsegment _ (List.mem_cons_of_mem _ (hrest _ (List.mem_cons_of_mem _ hslash)))
      · cases hcut
    · cases hcut
  · cases hcut

theorem Slashless.enter (h : r.Slashless) (kind : Kind) (hsegment : '/' ∉ segment) :
    (r.enter kind segment).Slashless := by
  have hwritten := slash_not_mem_written hsegment
  unfold Route.enter
  dsimp only
  split
  · exact h.add hwritten
  · split
    · rename_i found rest hcut
      obtain ⟨hfound, hrest⟩ := slash_not_mem_of_cutDrive? hsegment hcut
      exact (h.add hfound).add (slash_not_mem_written hrest)
    · split
      · rename_i letter rest hletter
        split
        · rintro name hname
          rw [List.mem_singleton.mp hname]
          refine slash_not_mem_drive ?_
          rintro rfl
          exact hwritten (hletter ▸ List.mem_cons_self)
        · exact h.add hwritten
      · exact h.add hwritten

/-- Routes along segments without slashes have no slashes. -/
theorem Slashless.follow {segments : List (List Char)} (h : r.Slashless) (kind : Kind)
    (hsegments : ∀ segment ∈ segments, '/' ∉ segment) : (r.follow kind segments).Slashless := by
  have hempty : '/' ∉ ("" : String).toList := by decide
  induction r, segments using Route.follow.induct kind with
  | case1 r => exact h
  | case2 r last hdots =>
    rw [Route.follow, if_pos hdots]
    exact h.ascend.add hempty
  | case3 r last hdots hdot =>
    rw [Route.follow, if_neg hdots, if_pos hdot]
    exact h.add hempty
  | case4 r last hdots hdot =>
    rw [Route.follow, if_neg hdots, if_neg hdot]
    exact h.enter kind (hsegments _ List.mem_cons_self)
  | case5 r segment rest hmore hdots ih =>
    obtain ⟨-, hrest⟩ := List.forall_mem_cons.mp hsegments
    rw [Route.follow, if_pos hdots]
    · exact ih h.ascend hrest
    · exact hmore
  | case6 r segment rest hmore hdots hdot ih =>
    obtain ⟨-, hrest⟩ := List.forall_mem_cons.mp hsegments
    rw [Route.follow, if_neg hdots, if_pos hdot]
    · exact ih h hrest
    · exact hmore
  | case7 r segment rest hmore hdots hdot ih =>
    obtain ⟨hsegment, hrest⟩ := List.forall_mem_cons.mp hsegments
    rw [Route.follow, if_neg hdots, if_neg hdot]
    · exact ih (h.enter kind hsegment) hrest
    · exact hmore

end Route

/-! ## What is read -/

theorem slashless_routeFrom {names : List String} (hnames : ∀ name ∈ names, name = "")
    (text : List Char) : (routeFrom .file names text).Slashless := by
  refine Route.Slashless.follow ?_ .file fun segment hsegment => ?_
  · intro name hname
    rw [hnames name hname]
    decide
  · exact not_mem_of_mem_splitAll (by decide) hsegment

theorem exists_withoutLeadingEmpty_eq (names : List String) : ∃ above last,
    withoutLeadingEmpty names = above ++ [last] ∧
      ∀ name ∈ above ++ [last], name = "" ∨ name ∈ names := by
  unfold withoutLeadingEmpty
  split
  · exact ⟨[], "", rfl, fun name hname => .inl (List.mem_singleton.mp hname)⟩
  · rename_i hne
    have hmem (name : String) (hname : name ∈ names.dropWhile (· == "")) : name ∈ names :=
      (List.dropWhile_sublist _).mem hname
    rcases List.eq_nil_or_concat' (names.dropWhile (· == "")) with hnil | ⟨above, last, hkept⟩
    · exact absurd hnil hne
    · exact ⟨above, last, hkept, fun name hname => .inr (hmem name (hkept ▸ hname))⟩

/-- What is read behind `file:` is a file with a host, or one with nothing in its place. -/
theorem exists_fileAt_of_parseFile {text : List Char} (h : parseFile text = .ok u) :
    ∃ authority names rest, u = fileAt authority names rest ∧
      (authority.host = none → authority = .empty) ∧ ∀ name ∈ names, name = "" := by
  unfold parseFile at h
  split at h
  · exact ⟨_, _, _, (Except.ok.inj h).symm, fun _ => rfl, nofun⟩
  · split at h
    · exact ⟨_, _, _, (Except.ok.inj h).symm, fun _ => rfl, nofun⟩
    · unfold parseHostedFile at h
      dsimp only at h
      split at h
      · exact ⟨_, _, _, (Except.ok.inj h).symm, fun _ => rfl, nofun⟩
      · split at h
        · exact ⟨_, _, _, (Except.ok.inj h).symm, fun _ => rfl,
            fun _ hname => List.mem_singleton.mp hname⟩
        · obtain ⟨host, -, h⟩ := bind_eq_ok.mp h
          split at h
          · exact ⟨_, _, _, (Except.ok.inj h).symm, fun _ => rfl,
              fun _ hname => List.mem_singleton.mp hname⟩
          · exact ⟨_, _, _, (Except.ok.inj h).symm, nofun, nofun⟩

theorem authority_fileAt {authority : Authority} {names : List String} {rest : List Char}
    (hauthority : authority.host = none → authority = .empty)
    (h : (fileAt authority names rest).host? = none) :
    (fileAt authority names rest).authority = some .empty := by
  unfold fileAt assemble host? at h
  unfold fileAt assemble
  dsimp only [Option.bind_some] at h ⊢
  split at h
  · rename_i hdrive
    rw [if_pos hdrive]
  · rename_i hdrive
    rw [if_neg hdrive, hauthority h]

theorem scheme_of_parseHosted {scheme : String} {text : List Char}
    (h : parseHosted scheme text = .ok u) : u.scheme = scheme := by
  obtain ⟨_, -, h⟩ := bind_eq_ok.mp h
  rw [← Except.ok.inj h]
  rfl

theorem scheme_of_parseOther {scheme : String} {text : List Char}
    (h : parseOther scheme text = .ok u) : u.scheme = scheme := by
  unfold parseOther at h
  split at h
  · exact scheme_of_parseHosted h
  · rw [← Except.ok.inj h]
    rfl

/-- A file is what is read behind `file:`. -/
theorem parseFile_of_parse {text : String} (h : parse text = .ok u) (hscheme : u.scheme = "file") :
    ∃ rest, parseFile rest = .ok u := by
  unfold parse at h
  split at h
  · cases h
  · split at h
    · exact ⟨_, h⟩
    · rename_i scheme rest _ _ hkind
      rw [← scheme_of_parseHosted h, hscheme] at hkind
      cases hkind
    · rename_i scheme rest _ hkind
      rw [← scheme_of_parseOther h, hscheme] at hkind
      cases hkind

/-- A file without a host is on the own machine, and its segments are read between slashes. -/
theorem isOwnFile_of_parse {text : String} (h : parse text = .ok u) (hscheme : u.scheme = "file")
    (hhost : u.host? = none) (hfilled : u.segments?.bind List.getLast? ≠ some "") :
    u.IsOwnFile := by
  obtain ⟨_, hfile⟩ := parseFile_of_parse h hscheme
  obtain ⟨authority, names, rest, rfl, hauthority, hnames⟩ := exists_fileAt_of_parseFile hfile
  obtain ⟨above, last, hkept, hmem⟩ := exists_withoutLeadingEmpty_eq
    (routeFrom .file names (rest.takeWhile fun c => !endsPath c)).names
  have hpath : (fileAt authority names rest).path = .segments (above ++ [last]) :=
    congrArg Path.segments hkept
  refine ⟨above, last, hscheme, authority_fileAt hauthority hhost, hpath, ?_, ?_⟩
  · intro segment hsegment
    rcases hmem segment hsegment with rfl | hname
    · decide
    · exact slashless_routeFrom hnames _ segment hname
  · rintro rfl
    refine hfilled ?_
    rw [segments?_concat hpath, Option.bind_some, List.getLast?_concat]

end Refactoring.Uri
