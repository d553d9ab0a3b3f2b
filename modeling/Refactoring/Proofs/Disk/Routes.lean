import Refactoring.Proofs.Disk.Files

/-!
# Routes along paths

A path leads to something as long as everything on its route stays what it is: the directories that
it goes through, and in the end what it leads to.  When a directory is moved or deleted, all at or
below its place is gone, and with it every path whose route goes there.  All other paths are as good
as before.
-/

namespace Refactoring.Disk

variable {disk disk' middle : Disk} {path : FilePath}

/-! ## Routes -/

/-- The places that names are followed through, and the one that they lead to. -/
def route : Place → List Name → List Place
  | place, [] => [place]
  | place, name :: rest =>
    place ::
      if name = [46] then route place rest
      else if name = [46, 46] then route place.dropLast rest
      else route (place ++ [name]) rest

/-- The places along a path. -/
def routeOf (path : FilePath) : List Place := route [] (names path)

/-- What stands at a place is a directory afterwards if it was one, and a file if it was one. -/
structure Stays (disk disk' : Disk) (place : Place) : Prop where
  directory : disk.get? place = some .directory → disk'.get? place = some .directory
  file : ∀ {content}, disk.get? place = some (.file content) →
    ∃ content', disk'.get? place = some (.file content')

namespace Stays

variable {place : Place}

theorem of_get? (h : disk'.get? place = disk.get? place) : Stays disk disk' place :=
  ⟨fun hdir => h.trans hdir, fun hfile => ⟨_, h.trans hfile⟩⟩

theorem of_none (h : disk.get? place = none) : Stays disk disk' place := by
  constructor <;> simp [h]

theorem trans (h : Stays disk middle place) (h' : Stays middle disk' place) :
    Stays disk disk' place := by
  refine ⟨fun hdir => h'.directory (h.directory hdir), fun hfile => ?_⟩
  obtain ⟨content, hmiddle⟩ := h.file hfile
  exact h'.file hmiddle

theorem of_extends (h : Extends [] disk disk') (place : Place) : Stays disk disk' place :=
  ⟨h.directory place, fun hfile => ⟨_, h.get?_eq_some (by simp) hfile⟩⟩

end Stays

/-- A route starts where the names are followed from. -/
theorem mem_route_self (place : Place) (names : List Name) : place ∈ route place names := by
  cases names <;> simp [route]

/-- Followed names go through directories to what they lead to. -/
theorem get?_of_mem_route {place target : Place} {names : List Name}
    (h : disk.follow place names = .ok target) (htarget : disk.get? target ≠ none) :
    ∀ stop ∈ route place names, disk.get? stop ≠ none := by
  induction names generalizing place with
  | nil =>
    cases h
    simpa [route] using htarget
  | cons name rest ih =>
    obtain ⟨hdir, hrest⟩ := follow_cons_eq_ok.mp h
    have hplace : disk.get? place ≠ none := by simp [hdir]
    rw [route, List.forall_mem_cons]
    refine ⟨hplace, ?_⟩
    rcases hrest with ⟨rfl, hrest⟩ | ⟨rfl, hrest⟩ | ⟨hdot, hdots, -, hrest⟩
    · exact ih hrest
    · exact ih hrest
    · rw [if_neg hdot, if_neg hdots]
      exact ih hrest

/-- Names lead to where they led as long as everything on their route stays. -/
theorem follow_of_stays {place target : Place} {names : List Name}
    (hstays : ∀ stop ∈ route place names, Stays disk disk' stop)
    (h : disk.follow place names = .ok target) :
    disk'.follow place names = .ok target ∧ Stays disk disk' target := by
  induction names generalizing place with
  | nil =>
    cases h
    exact ⟨rfl, hstays _ (mem_route_self _ _)⟩
  | cons name rest ih =>
    rw [route, List.forall_mem_cons] at hstays
    obtain ⟨hdir, hrest⟩ := follow_cons_eq_ok.mp h
    have hdir' := hstays.1.directory hdir
    rcases hrest with ⟨rfl, hrest⟩ | ⟨rfl, hrest⟩ | ⟨hdot, hdots, hlong, hrest⟩
    · obtain ⟨hfollow, htarget⟩ := ih hstays.2 hrest
      exact ⟨follow_cons_eq_ok.mpr ⟨hdir', .inl ⟨rfl, hfollow⟩⟩, htarget⟩
    · obtain ⟨hfollow, htarget⟩ := ih hstays.2 hrest
      exact ⟨follow_cons_eq_ok.mpr ⟨hdir', .inr (.inl ⟨rfl, hfollow⟩)⟩, htarget⟩
    · rw [if_neg hdot, if_neg hdots] at hstays
      obtain ⟨hfollow, htarget⟩ := ih hstays.2 hrest
      exact ⟨follow_cons_eq_ok.mpr ⟨hdir', .inr (.inr ⟨hdot, hdots, hlong, hfollow⟩)⟩, htarget⟩

theorem locate_of_stays {place : Place} (hstays : ∀ stop ∈ routeOf path, Stays disk disk' stop)
    (h : disk.locate path = .ok place) : disk'.locate path = .ok place := by
  obtain ⟨hchecked, hfollow⟩ := locate_eq_ok.mp h
  exact locate_eq_ok.mpr ⟨hchecked, (follow_of_stays hstays hfollow).1⟩

/-- What a path leads to is still there if everything on its route stays. -/
theorem pathExists_of_stays (hstays : ∀ stop ∈ routeOf path, Stays disk disk' stop)
    (h : disk.pathExists path) : disk'.pathExists path := by
  obtain ⟨place, node, hstat⟩ := pathExists_iff.mp h
  obtain ⟨hlocate, hnode, hwants⟩ := stat_eq_ok.mp hstat
  have hlocate' := locate_of_stays hstays hlocate
  have hplace := (follow_of_stays hstays (locate_eq_ok.mp hlocate).2).2
  cases node with
  | directory =>
    exact pathExists_iff.mpr ⟨place, .directory,
      stat_eq_ok.mpr ⟨hlocate', hplace.directory hnode, fun _ => rfl⟩⟩
  | file content =>
    obtain ⟨content', hfile⟩ := hplace.file hnode
    exact pathExists_iff.mpr ⟨place, .file content',
      stat_eq_ok.mpr ⟨hlocate', hfile, fun hw => Node.noConfusion (hwants hw)⟩⟩

theorem get?_of_mem_routeOf (h : disk.pathExists path) :
    ∀ stop ∈ routeOf path, disk.get? stop ≠ none := by
  obtain ⟨place, node, hstat⟩ := pathExists_iff.mp h
  obtain ⟨hlocate, hnode, -⟩ := stat_eq_ok.mp hstat
  exact get?_of_mem_route (locate_eq_ok.mp hlocate).2 (by simp [hnode])

/-! ## What is taken away -/

/-- From one closed tree to another all of a kind is taken away, and everything else stays. -/
structure TakesAway (taken : Place → Prop) (disk disk' : Disk) : Prop where
  closed : disk'.Closed
  gone : ∀ {place}, taken place → disk'.get? place = none
  stays : ∀ {place}, ¬ taken place → Stays disk disk' place

namespace TakesAway

variable {taken other : Place → Prop}

theorem congr (h : TakesAway taken disk disk') (hiff : ∀ place, other place ↔ taken place) :
    TakesAway other disk disk' :=
  ⟨h.closed, fun hother => h.gone ((hiff _).mp hother), fun hother => h.stays (by rwa [← hiff])⟩

/-- Nothing is taken away when everything stays. -/
theorem of_stays (hclosed : disk'.Closed) (hstays : ∀ place, Stays disk disk' place)
    (hnone : ∀ place, ¬ taken place) : TakesAway taken disk disk' :=
  ⟨hclosed, fun htaken => absurd htaken (hnone _), fun _ => hstays _⟩

/-- Directories may be made before. -/
theorem after (h : TakesAway taken middle disk') (hext : Extends [] disk middle) :
    TakesAway taken disk disk' :=
  ⟨h.closed, h.gone, fun hout => (Stays.of_extends hext _).trans (h.stays hout)⟩

/-- What is taken away first may be a part of the whole. -/
theorem trans (h : TakesAway taken disk middle) (h' : TakesAway other middle disk')
    (hpart : ∀ place, taken place → other place) : TakesAway other disk disk' :=
  ⟨h'.closed, h'.gone, fun hout => (h.stays (hout <| hpart _ ·)).trans (h'.stays hout)⟩

/-- What a path leads to on the new tree has not been taken away, and nothing on its route. -/
theorem not_taken (h : TakesAway taken disk disk') (hexists : disk'.pathExists path) :
    ∀ stop ∈ routeOf path, ¬ taken stop :=
  fun stop hstop htaken => get?_of_mem_routeOf hexists stop hstop (h.gone htaken)

/-- Of what paths lead to exactly that is left of which nothing on the route is taken away. -/
theorem pathExists_iff (h : TakesAway taken disk disk') (hexists : disk.pathExists path) :
    disk'.pathExists path ↔ ∀ stop ∈ routeOf path, ¬ taken stop := by
  constructor
  · exact h.not_taken
  · intro hout
    exact pathExists_of_stays (fun stop hstop => h.stays (hout stop hstop)) hexists

end TakesAway

/-! ## Operations -/

/-- Writing takes nothing away. -/
theorem write_stays {content : List UInt8} (h : disk.write path content = .ok disk')
    (place : Place) : Stays disk disk' place := by
  obtain ⟨target, -, hnode, -, rfl⟩ := write_eq_ok h
  have hne := ne_nil_of_not_directory hnode
  by_cases heq : place = target
  · subst heq
    exact ⟨fun hdir => absurd hdir hnode, fun _ => ⟨content, get?_set_self disk _ hne⟩⟩
  · exact .of_get? (by rw [get?_set hne, if_neg heq])

/-- A place is gone with all below it. -/
theorem Closed.cut_takesAway (hclosed : disk.Closed) {top : Place} (htop : top ≠ []) :
    TakesAway (atOrBelow top ·) disk (disk.cut top) where
  closed := hclosed.cut top
  gone {place} hplace := by
    rw [Disk.get?_cut top (ne_nil_of_atOrBelow htop hplace), if_pos hplace]
  stays hplace := .of_get? (get?_cut_of_not hplace)

/-- All below a place is gone. -/
theorem Closed.clear_takesAway (hclosed : disk.Closed) (top : Place) :
    TakesAway (fun place => atOrBelow top place ∧ place ≠ top) disk (disk.clear top) where
  closed := hclosed.clear top
  gone {place} hplace := by
    have hne : place ≠ [] := by
      rintro rfl
      obtain ⟨rest, hrest⟩ := atOrBelow_iff.mp hplace.1
      exact hplace.2 (List.append_eq_nil_iff.mp hrest.symm).1.symm
    rw [get?_clear top hne, if_pos hplace]
  stays hplace := .of_get? (get?_clear_of_not hplace)

namespace Moves

variable {old new : FilePath} {source target : Place} {node : Node}

/-- What stands at the target of a move is only replaced by its like. -/
theorem stays_target (h : Moves disk old new source target node) (hne : source ≠ target)
    (hget : disk'.get? target = some node) : Stays disk disk' target := by
  constructor
  · intro hdir
    cases node with
    | directory => exact hget
    | file content => exact absurd hdir (h.file hne Node.noConfusion)
  · intro content hfile
    cases node with
    | file content' => exact ⟨content', hget⟩
    | directory =>
      rcases h.directory hne rfl with hnone | ⟨hdir, -⟩
      · cases hnone.symm.trans hfile
      · cases hdir.symm.trans hfile

/-- What moves is gone from where it was, and nothing else is taken away. -/
theorem takesAway (h : Moves disk old new source target node) (hclosed : disk.Closed)
    (hne : source ≠ target) : TakesAway (atOrBelow source ·) disk (disk.graft source target) := by
  obtain ⟨hs, ht⟩ := h.ne_nil hne
  obtain ⟨hbelow, habove⟩ := h.apart hne
  refine ⟨hclosed.graft hs ht (hclosed.above_of_locate h.to_target) hbelow, ?_, ?_⟩
  · intro place hplace
    obtain ⟨rest, rfl⟩ := atOrBelow_iff.mp hplace
    -- Nothing lies below both places, since neither lies below the other.
    have hout : ¬ atOrBelow target (source ++ rest) := by
      rw [atOrBelow, List.isPrefixOf_iff_prefix] at hbelow habove ⊢
      intro hprefix
      rcases List.prefix_or_prefix_of_prefix hprefix (List.prefix_append source rest) with h | h
      · exact habove h
      · exact hbelow h
    rw [Disk.get?_graft hs (by simp [hs]), if_neg hout, if_pos hplace]
  · intro place hplace
    by_cases htb : atOrBelow target place
    · obtain ⟨rest, rfl⟩ := atOrBelow_iff.mp htb
      by_cases hrest : rest = []
      · subst hrest
        rw [List.append_nil]
        refine h.stays_target hne ?_
        rw [Disk.get?_graft hs ht, if_pos (atOrBelow_refl target), List.drop_length,
          List.append_nil, h.node_source]
      · exact .of_none (h.get?_below_target hclosed hne hrest)
    · exact .of_get? (get?_graft_of_not hs hplace htb)

end Moves

/-- All at or below the source of a move departs, unless it is at the target already. -/
def Departs (old new : FilePath) (place : Place) : Prop :=
  placeOf old ≠ placeOf new ∧ atOrBelow (placeOf old) place

/-- A move takes away what departs, and if the route to its target does not go there, the new path
leads to something. -/
theorem Closed.rename_takesAway (hclosed : disk.Closed) {old new : FilePath}
    (h : disk.rename old new = .ok disk') : TakesAway (Departs old new) disk disk' ∧
      ((∀ stop ∈ routeOf new, ¬ Departs old new stop) → disk'.pathExists new) := by
  obtain ⟨source, target, node, hmoves, hdisk⟩ := rename_eq_ok h
  have hold := eq_placeOf_of_locate hmoves.from_source
  have hnew := eq_placeOf_of_locate hmoves.to_target
  have hwants : wantsDirectory new → node = .directory := fun hw => by
    by_contra hnode
    exact (hmoves.plain hnode).2 hw
  -- It is enough to find what has moved at the target.
  suffices hleft : TakesAway (Departs old new) disk disk' ∧ disk'.get? target = some node by
    obtain ⟨htakes, htarget⟩ := hleft
    refine ⟨htakes, fun hroute => ?_⟩
    have hlocate := locate_of_stays (fun stop hstop => htakes.stays (hroute stop hstop))
      hmoves.to_target
    exact pathExists_iff.mpr ⟨target, node, stat_eq_ok.mpr ⟨hlocate, htarget, hwants⟩⟩
  by_cases heq : source = target
  · rw [if_pos heq] at hdisk
    subst hdisk heq
    exact ⟨.of_stays hclosed (fun _ => .of_get? rfl) fun _ hdeparts =>
      hdeparts.1 (hold.symm.trans hnew), hmoves.node_source⟩
  · rw [if_neg heq] at hdisk
    subst hdisk
    obtain ⟨hs, ht⟩ := hmoves.ne_nil heq
    refine ⟨(hmoves.takesAway hclosed heq).congr fun place => ?_, ?_⟩
    · rw [Departs, ← hold, ← hnew]
      exact and_iff_right heq
    · rw [Disk.get?_graft hs ht, if_pos (atOrBelow_refl target), List.drop_length,
        List.append_nil]
      exact hmoves.node_source

/-- Of what a deletion takes away, all below the place of its path is the first part, and the place
itself follows unless the path cannot be followed to it by then. -/
def Removes (disk : Disk) (path : FilePath) (place : Place) : Prop :=
  atOrBelow (placeOf path) place ∧
    (place = placeOf path → (disk.clear (placeOf path)).pathExists path)

/-- Where nothing stands below a place, nothing is in the way when that is cleared. -/
theorem Closed.pathExists_clear (hclosed : disk.Closed) {place : Place} {node : Node}
    (hstat : disk.stat path = .ok (place, node))
    (hnone : ∀ {rest}, rest ≠ [] → disk.get? (place ++ rest) = none) :
    (disk.clear place).pathExists path := by
  have hexists : disk.pathExists path := pathExists_iff.mpr ⟨place, node, hstat⟩
  refine ((hclosed.clear_takesAway place).pathExists_iff hexists).mpr ?_
  rintro stop hstop ⟨hbelow, hne⟩
  obtain ⟨rest, rfl⟩ := atOrBelow_iff.mp hbelow
  exact get?_of_mem_routeOf hexists _ hstop (hnone (by simpa using hne))

/-- When the place is cut, it is gone with all below it. -/
theorem removes_iff {place : Place} (hplace : place = placeOf path)
    (hexists : (disk.clear place).pathExists path) (other : Place) :
    disk.Removes path other ↔ atOrBelow place other := by
  subst hplace
  exact and_iff_left fun _ => hexists

theorem Closed.removeFile_takesAway (hclosed : disk.Closed)
    (h : disk.removeFile path = .ok disk') : TakesAway (disk.Removes path) disk disk' := by
  obtain ⟨place, content, hstat, rfl⟩ := removeFile_eq_ok h
  obtain ⟨hlocate, hfile, -⟩ := stat_eq_ok.mp hstat
  have hnode : disk.get? place ≠ some .directory := by simp [hfile]
  have hexists := hclosed.pathExists_clear hstat fun hrest => hclosed.get?_below hnode hrest
  exact (hclosed.cut_takesAway (ne_nil_of_not_directory hnode)).congr
    (removes_iff (eq_placeOf_of_locate hlocate) hexists)

theorem walk_append (place : Place) (names more : List Name) :
    walk place (names ++ more) = walk (walk place names) more := by
  induction names generalizing place with
  | nil => rfl
  | cons name rest ih => simp only [List.cons_append, walk, ih, apply_ite (walk · more)]

/-- A path that ends in a name does not lead to the root. -/
theorem placeOf_ne_nil {name : Name} (hlast : (names path).getLast? = some name)
    (hdot : name ≠ [46]) (hdots : name ≠ [46, 46]) : placeOf path ≠ [] := by
  obtain ⟨above, hnames⟩ := List.getLast?_eq_some_iff.mp hlast
  rw [placeOf, hnames, walk_append]
  simp [walk, hdot, hdots]

/-- All names but the last are followed to a directory. -/
theorem exists_follow_dropLast {place target : Place} {names : List Name}
    (hplace : disk.get? place = some .directory) (h : disk.follow place names = .ok target) :
    ∃ above, disk.follow place names.dropLast = .ok above ∧
      disk.get? above = some .directory := by
  induction names generalizing place with
  | nil => exact ⟨place, rfl, hplace⟩
  | cons name rest ih =>
    cases rest with
    | nil => exact ⟨place, rfl, hplace⟩
    | cons second more =>
      have hnext {next : Place} (hfollow : disk.follow next (second :: more) = .ok target) :=
        ih (follow_cons_eq_ok.mp hfollow).1 hfollow
      rw [List.dropLast_cons_cons]
      obtain ⟨-, ⟨hname, hrest⟩ | ⟨hname, hrest⟩ | ⟨hdot, hdots, hlong, hrest⟩⟩ :=
        follow_cons_eq_ok.mp h
      · obtain ⟨above, habove, hdir⟩ := hnext hrest
        exact ⟨above, follow_cons_eq_ok.mpr ⟨hplace, .inl ⟨hname, habove⟩⟩, hdir⟩
      · obtain ⟨above, habove, hdir⟩ := hnext hrest
        exact ⟨above, follow_cons_eq_ok.mpr ⟨hplace, .inr (.inl ⟨hname, habove⟩)⟩, hdir⟩
      · obtain ⟨above, habove, hdir⟩ := hnext hrest
        exact ⟨above, follow_cons_eq_ok.mpr
          ⟨hplace, .inr (.inr ⟨hdot, hdots, hlong, habove⟩)⟩, hdir⟩

/-- A path that can be followed has a directory that its last name belongs to. -/
theorem exists_holder_of_locate {place : Place} (h : disk.locate path = .ok place) :
    ∃ above, disk.holder path = .ok above := by
  obtain ⟨⟨found, hchecked⟩, hfollow⟩ := locate_eq_ok.mp h
  obtain rfl := checkedNames_eq_ok hchecked
  obtain ⟨above, habove, hdir⟩ := exists_follow_dropLast (get?_nil disk) hfollow
  refine ⟨above, bind_eq_ok.mpr ⟨_, hchecked, bind_eq_ok.mpr ⟨above, habove, ?_⟩⟩⟩
  rw [hdir]

/-- A directory that is taken away is called by its own name, and empty. -/
theorem removeDirectory_eq_ok (h : disk.removeDirectory path = .ok disk') :
    ∃ place, disk.stat path = .ok (place, .directory) ∧ place ≠ [] ∧ ¬ disk.hasChildren place ∧
      disk' = disk.cut place := by
  obtain ⟨_, -, h⟩ := bind_eq_ok.mp h
  cases hlast : (names path).getLast? with
  | none =>
    rw [hlast] at h
    cases h
  | some name =>
    rw [hlast] at h
    obtain ⟨hdot, h⟩ := guard_eq_ok.mp h
    obtain ⟨hdots, h⟩ := guard_eq_ok.mp h
    obtain ⟨⟨place, node⟩, hstat, h⟩ := bind_eq_ok.mp h
    cases node with
    | file content => cases h
    | directory =>
      obtain ⟨hempty, h⟩ := guard_eq_ok.mp h
      cases h
      have hplace := eq_placeOf_of_locate (stat_eq_ok.mp hstat).1
      exact ⟨place, hstat, hplace ▸ placeOf_ne_nil hlast hdot hdots, hempty, rfl⟩

/-- There is nothing where a directory is not found to be taken away. -/
theorem not_pathExists_of_removeDirectory (h : disk.removeDirectory path = .error .noEntry) :
    ¬ disk.pathExists path := by
  intro hexists
  obtain ⟨place, node, hstat⟩ := pathExists_iff.mp hexists
  obtain ⟨above, hholder⟩ := exists_holder_of_locate (stat_eq_ok.mp hstat).1
  rw [removeDirectory, hholder] at h
  cases hlast : (names path).getLast? with
  | none =>
    rw [hlast] at h
    cases h
  | some name =>
    rw [hlast, hstat] at h
    rcases guard_eq_error h with hdot | h
    · cases hdot
    rcases guard_eq_error h with hdots | h
    · cases hdots
    cases node with
    | file content => cases h
    | directory =>
      rcases guard_eq_error h with hempty | h
      · cases hempty
      · cases h

theorem removeAll_eq_ok (h : disk.removeAll path = (disk', .ok ())) :
    ∃ place, disk.stat path = .ok (place, .directory) ∧
      ((disk.clear place).removeDirectory path = .ok disk' ∨
        (disk.clear place).removeDirectory path = .error .noEntry ∧ disk' = disk.clear place) := by
  unfold removeAll at h
  split at h
  · cases h
  · cases h
  · rename_i place hstat
    refine ⟨place, hstat, ?_⟩
    dsimp only at h
    split at h
    · rename_i removed hremoved
      cases h
      exact .inl hremoved
    · rename_i hnone
      cases h
      exact .inr ⟨hnone, rfl⟩
    · cases h

theorem Closed.removeDirectory_takesAway (hclosed : disk.Closed)
    (h : disk.removeDirectory path = .ok disk') : TakesAway (disk.Removes path) disk disk' := by
  obtain ⟨place, hstat, hne, hempty, rfl⟩ := removeDirectory_eq_ok h
  have hexists := hclosed.pathExists_clear hstat fun hrest =>
    get?_append_of_not_hasChildren hrest hempty
  exact (hclosed.cut_takesAway hne).congr
    (removes_iff (eq_placeOf_of_locate (stat_eq_ok.mp hstat).1) hexists)

theorem Closed.removeAll_takesAway (hclosed : disk.Closed)
    (h : disk.removeAll path = (disk', .ok ())) : TakesAway (disk.Removes path) disk disk' := by
  obtain ⟨place, hstat, hremoved | ⟨hnone, rfl⟩⟩ := removeAll_eq_ok h
  · have hplace := eq_placeOf_of_locate (stat_eq_ok.mp hstat).1
    have hclear := hclosed.clear_takesAway place
    obtain ⟨place', hstat', hne, -, rfl⟩ := removeDirectory_eq_ok hremoved
    obtain rfl : place' = place :=
      (eq_placeOf_of_locate (stat_eq_ok.mp hstat').1).trans hplace.symm
    have hexists : (disk.clear place').pathExists path := pathExists_iff.mpr ⟨_, _, hstat'⟩
    exact (hclear.trans (hclear.closed.cut_takesAway hne) fun _ => And.left).congr
      (removes_iff hplace hexists)
  · have hplace := eq_placeOf_of_locate (stat_eq_ok.mp hstat).1
    refine (hclosed.clear_takesAway place).congr fun other => ?_
    subst hplace
    constructor
    · rintro ⟨hbelow, hlast⟩
      exact ⟨hbelow, fun heq => not_pathExists_of_removeDirectory hnone (hlast heq)⟩
    · rintro ⟨hbelow, hne⟩
      exact ⟨hbelow, fun heq => absurd heq hne⟩

end Refactoring.Disk
