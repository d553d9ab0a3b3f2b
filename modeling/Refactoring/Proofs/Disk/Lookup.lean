import Mathlib.Data.List.Induction
import Refactoring.Disk.Tree

/-!
# What stands at a place after a change

The changes to a tree are made on its list of entries.  Here they are described by what stands at
each place afterwards, and with that each of them keeps a tree closed.  The root takes no part: it
is a directory whatever the entries say.
-/

namespace Refactoring.Disk

/-! ## Entries -/

/-- Entries that are chosen by their places. -/
theorem lookup_filter (keep : Place → Bool) (entries : List (Place × Node)) (place : Place) :
    (entries.filter fun e => keep e.1).lookup place =
      if keep place then entries.lookup place else none := by
  induction entries with
  | nil => simp
  | cons e entries ih =>
    obtain ⟨key, node⟩ := e
    rw [List.filter_cons]
    by_cases heq : place = key
    · subst heq
      cases hk : keep place with
      | true => simp
      | false => simpa [hk] using ih
    · have hne : (place == key) = false := beq_eq_false_iff_ne.mpr heq
      cases hk : keep key with
      | true => simpa [List.lookup_cons, hne] using ih
      | false => simpa [List.lookup_cons, hne] using ih

/-- Entries that are moved from below one place to below another. -/
theorem lookup_move (source target rest : Place) (entries : List (Place × Node))
    (h : ∀ e ∈ entries, atOrBelow source e.1) :
    (entries.map fun e => (target ++ e.1.drop source.length, e.2)).lookup (target ++ rest) =
      entries.lookup (source ++ rest) := by
  induction entries with
  | nil => rfl
  | cons e entries ih =>
    obtain ⟨key, node⟩ := e
    have hkey : atOrBelow source key := h (key, node) (by simp)
    obtain ⟨below, rfl⟩ := List.isPrefixOf_iff_prefix.mp hkey
    have ih := ih fun e he => h e (by simp [he])
    rw [List.map_cons, List.lookup_cons, List.lookup_cons, ih, List.drop_left']
    · have hbeq : (target ++ rest == target ++ below) = (source ++ rest == source ++ below) := by
        rw [Bool.eq_iff_iff, beq_iff_eq, beq_iff_eq, List.append_cancel_left_eq,
          List.append_cancel_left_eq]
      rw [hbeq]
    · rfl

/-- A place is at or below another one if that comes first in it. -/
theorem atOrBelow_iff {top place : Place} : atOrBelow top place ↔ ∃ rest, place = top ++ rest := by
  rw [atOrBelow, List.isPrefixOf_iff_prefix]
  constructor
  · rintro ⟨rest, rfl⟩
    exact ⟨rest, rfl⟩
  · rintro ⟨rest, rfl⟩
    exact List.prefix_append _ _

theorem atOrBelow_refl (place : Place) : atOrBelow place place :=
  atOrBelow_iff.mpr ⟨[], by simp⟩

/-- What is above is at or below the same places only. -/
theorem atOrBelow_of_dropLast {top place : Place} (h : atOrBelow top place.dropLast) :
    atOrBelow top place := by
  rw [atOrBelow, List.isPrefixOf_iff_prefix] at *
  exact h.trans (List.dropLast_prefix place)

/-- What is above a place does not lie at or below it. -/
theorem not_atOrBelow_dropLast {place : Place} (h : place ≠ []) :
    ¬ atOrBelow place place.dropLast := by
  intro hbelow
  obtain ⟨rest, hrest⟩ := atOrBelow_iff.mp hbelow
  have hlength := congrArg List.length hrest
  have hpos : 0 < place.length := List.length_pos_iff.mpr h
  simp only [List.length_dropLast, List.length_append] at hlength
  omega

/-- The root does not lie at or below any other place. -/
theorem ne_nil_of_atOrBelow {top place : Place} (htop : top ≠ []) (h : atOrBelow top place) :
    place ≠ [] := by
  rintro rfl
  obtain ⟨rest, hrest⟩ := atOrBelow_iff.mp h
  exact htop (List.append_eq_nil_iff.mp hrest.symm).1

/-! ## Lookups -/

variable {disk : Disk}

theorem get?_of_ne_nil {place : Place} (h : place ≠ []) :
    disk.get? place = disk.entries.lookup place := if_neg h

theorem get?_set {place : Place} (h : place ≠ []) (node : Node) (other : Place) :
    (disk.set place node).get? other = if other = place then some node else disk.get? other := by
  by_cases heq : other = place
  · subst heq
    rw [get?_set_self disk node h, if_pos rfl]
  · rw [if_neg heq]
    by_cases hnil : other = []
    · rw [hnil, get?_nil, get?_nil]
    · have hne : (other == place) = false := beq_eq_false_iff_ne.mpr heq
      have := lookup_filter (fun key => decide (key ≠ place)) disk.entries other
      rw [get?_of_ne_nil hnil, get?_of_ne_nil hnil, set, List.lookup_cons, hne, this,
        if_pos (by simpa using heq)]

theorem get?_cut (top : Place) {place : Place} (h : place ≠ []) :
    (disk.cut top).get? place = if atOrBelow top place then none else disk.get? place := by
  have := lookup_filter (fun key => !atOrBelow top key) disk.entries place
  rw [get?_of_ne_nil h, get?_of_ne_nil h, cut, this]
  cases atOrBelow top place <;> rfl

theorem get?_cut_of_not {top place : Place} (h : ¬ atOrBelow top place) :
    (disk.cut top).get? place = disk.get? place := by
  by_cases hnil : place = []
  · rw [hnil, get?_nil, get?_nil]
  · rw [get?_cut top hnil, if_neg h]

theorem get?_clear (top : Place) {place : Place} (h : place ≠ []) :
    (disk.clear top).get? place =
      if atOrBelow top place ∧ place ≠ top then none else disk.get? place := by
  have := lookup_filter (fun key => !atOrBelow top key || key == top) disk.entries place
  rw [get?_of_ne_nil h, get?_of_ne_nil h, clear, this]
  by_cases hb : atOrBelow top place
  · by_cases heq : place = top
    · simp [heq]
    · simp [hb, heq]
  · simp [hb]

theorem get?_clear_of_not {top place : Place} (h : ¬ (atOrBelow top place ∧ place ≠ top)) :
    (disk.clear top).get? place = disk.get? place := by
  by_cases hnil : place = []
  · rw [hnil, get?_nil, get?_nil]
  · rw [get?_clear top hnil, if_neg h]

/-- What lay at or below the source lies at or below the target, and all else that lay there is
gone. -/
theorem get?_graft {source target place : Place} (hs : source ≠ []) (h : place ≠ []) :
    (disk.graft source target).get? place =
      if atOrBelow target place then disk.get? (source ++ place.drop target.length)
      else if atOrBelow source place then none else disk.get? place := by
  have hothers := lookup_filter (fun key => !atOrBelow source key && !atOrBelow target key)
    disk.entries place
  rw [get?_of_ne_nil h, graft, List.lookup_append, hothers]
  by_cases hb : atOrBelow target place
  · obtain ⟨rest, rfl⟩ := atOrBelow_iff.mp hb
    have hne : source ++ rest ≠ [] := by simp [hs]
    rw [lookup_move source target rest _ (by simp), lookup_filter, if_pos hb, List.drop_left',
      get?_of_ne_nil hne, if_pos (atOrBelow_iff.mpr ⟨rest, rfl⟩)]
    · simp [hb]
    · rfl
  · -- None of the entries that were moved stands at this place.
    have hmoved : ((disk.entries.filter fun e => atOrBelow source e.1).map fun e =>
        (target ++ e.1.drop source.length, e.2)).lookup place = none := by
      rw [List.lookup_eq_none_iff]
      intro e he
      obtain ⟨old, -, rfl⟩ := List.mem_map.mp he
      rw [bne_iff_ne]
      rintro rfl
      exact hb (atOrBelow_iff.mpr ⟨_, rfl⟩)
    rw [hmoved, if_neg hb, get?_of_ne_nil h]
    cases hsource : atOrBelow source place <;> simp [hb]

theorem get?_graft_of_not {source target place : Place} (hs : source ≠ [])
    (hsource : ¬ atOrBelow source place) (htarget : ¬ atOrBelow target place) :
    (disk.graft source target).get? place = disk.get? place := by
  by_cases hnil : place = []
  · rw [hnil, get?_nil, get?_nil]
  · rw [get?_graft hs hnil, if_neg htarget, if_neg hsource]

/-! ## Closed trees -/

theorem closed_empty : empty.Closed := by
  intro place hplace
  by_cases hnil : place = []
  · rw [hnil]
    exact get?_nil _
  · rw [get?_of_ne_nil hnil] at hplace
    exact absurd rfl hplace

/-- What is not a directory has nothing below it. -/
theorem Closed.get?_below (hclosed : disk.Closed) {top : Place}
    (h : disk.get? top ≠ some .directory) {rest : Place} (hrest : rest ≠ []) :
    disk.get? (top ++ rest) = none := by
  induction rest using List.reverseRecOn with
  | nil => exact absurd rfl hrest
  | append_singleton rest name ih =>
    by_contra hsome
    have habove := hclosed _ hsome
    rw [← List.append_assoc, List.dropLast_concat] at habove
    by_cases hnil : rest = []
    · subst hnil
      rw [List.append_nil] at habove
      exact h habove
    · rw [ih hnil] at habove
      cases habove

/-- In a closed tree a place below which nothing may lie is all that is cut. -/
theorem Closed.get?_cut (hclosed : disk.Closed) {top : Place}
    (h : disk.get? top ≠ some .directory) (place : Place) :
    (disk.cut top).get? place = if place = top then none else disk.get? place := by
  have htop : top ≠ [] := by
    rintro rfl
    exact h rfl
  by_cases hnil : place = []
  · rw [if_neg (by rw [hnil]; exact htop.symm), hnil, get?_nil, get?_nil]
  · rw [Disk.get?_cut top hnil]
    by_cases heq : place = top
    · rw [if_pos heq, if_pos (by rw [heq]; exact atOrBelow_refl top)]
    · rw [if_neg heq]
      by_cases hb : atOrBelow top place
      · obtain ⟨rest, rfl⟩ := atOrBelow_iff.mp hb
        rw [if_pos hb, hclosed.get?_below h (by simpa using heq)]
      · rw [if_neg hb]

/-- In a closed tree nothing but the two places changes when a file takes the place of a file or of
nothing. -/
theorem Closed.get?_graft (hclosed : disk.Closed) {source target : Place}
    (hs : disk.get? source ≠ some .directory) (ht : disk.get? target ≠ some .directory)
    (place : Place) : (disk.graft source target).get? place =
      if place = target then disk.get? source
      else if place = source then none else disk.get? place := by
  have hsn : source ≠ [] := by
    rintro rfl
    exact hs rfl
  have htn : target ≠ [] := by
    rintro rfl
    exact ht rfl
  by_cases hnil : place = []
  · rw [hnil, if_neg htn.symm, if_neg hsn.symm, get?_nil, get?_nil]
  · rw [Disk.get?_graft hsn hnil]
    by_cases htb : atOrBelow target place
    · obtain ⟨rest, rfl⟩ := atOrBelow_iff.mp htb
      rw [if_pos htb, List.drop_left' rfl]
      by_cases hrest : rest = []
      · simp [hrest]
      · rw [hclosed.get?_below hs hrest, if_neg (by simpa using hrest),
          hclosed.get?_below ht hrest, ite_self]
    · have hpt : place ≠ target := by
        rintro rfl
        exact htb (atOrBelow_refl place)
      rw [if_neg htb, if_neg hpt]
      by_cases hsb : atOrBelow source place
      · obtain ⟨rest, rfl⟩ := atOrBelow_iff.mp hsb
        rw [if_pos hsb]
        by_cases hrest : rest = []
        · simp [hrest]
        · rw [hclosed.get?_below hs hrest, ite_self]
      · have hps : place ≠ source := by
          rintro rfl
          exact hsb (atOrBelow_refl place)
        rw [if_neg hsb, if_neg hps]

/-- Something may be set in a directory; a directory must stay one. -/
theorem Closed.set (hclosed : disk.Closed) {place : Place} (h : place ≠ [])
    (habove : disk.get? place.dropLast = some .directory) {node : Node}
    (hnode : disk.get? place = some .directory → node = .directory) :
    (disk.set place node).Closed := by
  -- A directory is still one afterwards.
  have hkeep (other : Place) (ho : disk.get? other = some .directory) :
      (disk.set place node).get? other = some .directory := by
    rw [get?_set h]
    split
    · rename_i heq
      rw [hnode (heq ▸ ho)]
    · exact ho
  intro other hother
  apply hkeep
  rw [get?_set h] at hother
  by_cases heq : other = place
  · rw [heq]
    exact habove
  · rw [if_neg heq] at hother
    exact hclosed other hother

/-- All at or below a place may go. -/
theorem Closed.cut (hclosed : disk.Closed) (top : Place) : (disk.cut top).Closed := by
  intro place hplace
  by_cases hnil : place.dropLast = []
  · rw [hnil, get?_nil]
  · have hne : place ≠ [] := by
      rintro rfl
      exact hnil rfl
    rw [Disk.get?_cut top hne] at hplace
    split at hplace
    · exact absurd rfl hplace
    · rename_i hout
      rw [get?_cut_of_not fun hd => hout (atOrBelow_of_dropLast hd)]
      exact hclosed place hplace

/-- All below a place may go. -/
theorem Closed.clear (hclosed : disk.Closed) (top : Place) : (disk.clear top).Closed := by
  intro place hplace
  by_cases hnil : place.dropLast = []
  · rw [hnil, get?_nil]
  · have hne : place ≠ [] := by
      rintro rfl
      exact hnil rfl
    rw [get?_clear top hne] at hplace
    split at hplace
    · exact absurd rfl hplace
    · rename_i hout
      have hout' : ¬ (atOrBelow top place.dropLast ∧ place.dropLast ≠ top) := by
        rintro ⟨habove, -⟩
        refine hout ⟨atOrBelow_of_dropLast habove, ?_⟩
        rintro rfl
        exact not_atOrBelow_dropLast hne habove
      rw [get?_clear_of_not hout']
      exact hclosed place hplace

/-- All at or below a place may move into a directory that is not among it. -/
theorem Closed.graft (hclosed : disk.Closed) {source target : Place} (hs : source ≠ [])
    (ht : target ≠ []) (habove : disk.get? target.dropLast = some .directory)
    (hout : ¬ atOrBelow source target) : (disk.graft source target).Closed := by
  -- What lies neither at or below the one nor at or below the other is as before.
  have hother (place : Place) (hps : ¬ atOrBelow source place) (hpt : ¬ atOrBelow target place)
      (h : disk.get? place = some .directory) :
      (disk.graft source target).get? place = some .directory := by
    rw [get?_graft_of_not hs hps hpt]
    exact h
  intro place hplace
  by_cases hnil : place = []
  · rw [hnil]
    exact get?_nil _
  · rw [Disk.get?_graft hs hnil] at hplace
    by_cases htb : atOrBelow target place
    · obtain ⟨rest, rfl⟩ := atOrBelow_iff.mp htb
      rw [if_pos htb, List.drop_left' rfl] at hplace
      by_cases hrest : rest = []
      · subst hrest
        rw [List.append_nil]
        refine hother _ (fun h => hout (atOrBelow_of_dropLast h)) ?_ habove
        exact not_atOrBelow_dropLast ht
      · have hold := hclosed _ hplace
        rw [List.dropLast_append_of_ne_nil hrest] at hold ⊢
        rw [Disk.get?_graft hs (by simp [ht]), if_pos (atOrBelow_iff.mpr ⟨_, rfl⟩),
          List.drop_left' rfl]
        exact hold
    · rw [if_neg htb] at hplace
      by_cases hsb : atOrBelow source place
      · rw [if_pos hsb] at hplace
        exact absurd rfl hplace
      · rw [if_neg hsb] at hplace
        exact hother _ (fun h => hsb (atOrBelow_of_dropLast h))
          (fun h => htb (atOrBelow_of_dropLast h)) (hclosed place hplace)

end Refactoring.Disk
