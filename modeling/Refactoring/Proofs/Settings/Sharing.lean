import Mathlib.Data.List.Induction
import Refactoring.Settings.Store

/-!
# What managers share

Managers are made, copied and asked for the configuration in any order, while the disk changes.  All
copies that go back to one manager remember together: the first configuration that one of them got,
and none of the failures before.  From then on it is all that each of them gives, and the disk is
left alone.  A manager that is made anew goes back to none of the others.
-/

namespace Refactoring.Settings

open Disk (FilePath)

/-! ## Courses of events -/

/-- What happens to managers and around them.  Managers are numbered in the order in which they come
up. -/
inductive Event where
  | new (root : FilePath)
  | copy (manager : Nat)
  | get (manager : Nat)
  /-- The disk has changed. -/
  | outside (disk : Disk)

/-- How far things have come: the managers there are, what they and the disk are like, and what they
answered, each answer with the manager that was asked. -/
structure Course where
  state : State
  managers : List Manager
  answers : List (Nat × Except Failure ClientConfig)

namespace Course

/-- Only a disk, with no managers yet. -/
def start (disk : Disk) : Course := ⟨⟨disk, []⟩, [], []⟩

/-- What comes of an event; there is nothing to copy or to ask where there is no manager. -/
def after (c : Course) : Event → Course
  | .new root =>
    let (manager, cells) := Manager.new root c.state.cells
    { c with state := { c.state with cells }, managers := c.managers ++ [manager] }
  | .copy number => { c with managers := c.managers ++ c.managers[number]?.toList }
  | .get number =>
    match c.managers[number]? with
    | none => c
    | some manager =>
      let (state, answer) := manager.get c.state
      { c with state, answers := c.answers ++ [(number, answer)] }
  | .outside disk => { c with state := { c.state with disk } }

/-- What comes of events one after the other. -/
def run (disk : Disk) (events : List Event) : Course := events.foldl after (start disk)

/-- What a manager remembers, if there is such a manager. -/
def memory (c : Course) (number : Nat) : Option (Option ClientConfig) :=
  c.managers[number]?.bind fun manager => c.state.cells[manager.cell]?

theorem run_concat (disk : Disk) (events : List Event) (event : Event) :
    run disk (events ++ [event]) = (run disk events).after event := by
  rw [run, List.foldl_append]
  rfl

end Course

/-! ## Where managers come from -/

/-- A manager that was not copied, and its root. -/
structure Origin where
  number : Nat
  root : FilePath
  deriving DecidableEq

/-- The origins of managers one event later: who is made anew is the own origin, who is copied has
the same origin. -/
def originsAfter (origins : List Origin) : Event → List Origin
  | .new root => origins ++ [⟨origins.length, root⟩]
  | .copy number => origins ++ origins[number]?.toList
  | .get _ => origins
  | .outside _ => origins

/-- The origin of each manager. -/
def origins (events : List Event) : List Origin := events.foldl originsAfter []

theorem origins_concat (events : List Event) (event : Event) :
    origins (events ++ [event]) = originsAfter (origins events) event := by
  rw [origins, List.foldl_append]
  rfl

/-- The first configuration that a manager of an origin gave. -/
def firstGiven (origins : List Origin) (origin : Origin)
    (answers : List (Nat × Except Failure ClientConfig)) : Option ClientConfig :=
  answers.findSome? fun (number, answer) =>
    if origins[number]? = some origin then answer.toOption else none

section FirstGiven

variable {known : List Origin} {origin : Origin} {number : Nat}
  {answers : List (Nat × Except Failure ClientConfig)}

theorem firstGiven_concat_of_some {config : ClientConfig}
    (h : firstGiven known origin answers = some config) (answer : Except Failure ClientConfig) :
    firstGiven known origin (answers ++ [(number, answer)]) = some config := by
  rw [firstGiven] at h ⊢
  rw [List.findSome?_append, h]
  rfl

theorem firstGiven_concat_of_ne (hne : known[number]? ≠ some origin)
    (answer : Except Failure ClientConfig) :
    firstGiven known origin (answers ++ [(number, answer)]) = firstGiven known origin answers := by
  rw [firstGiven, List.findSome?_append]
  simp [hne, firstGiven]

theorem firstGiven_concat_of_none (h : firstGiven known origin answers = none)
    (hnumber : known[number]? = some origin) (answer : Except Failure ClientConfig) :
    firstGiven known origin (answers ++ [(number, answer)]) = answer.toOption := by
  rw [firstGiven] at h
  rw [firstGiven, List.findSome?_append, h]
  simp [hnumber]

/-- Managers that come up later have given nothing yet. -/
theorem firstGiven_append (h : ∀ answer ∈ answers, answer.1 < known.length) (more : List Origin) :
    firstGiven (known ++ more) origin answers = firstGiven known origin answers := by
  unfold firstGiven
  induction answers with
  | nil => rfl
  | cons answer answers ih =>
    rw [List.findSome?_cons, List.findSome?_cons, ih fun a ha => h a (List.mem_cons_of_mem _ ha)]
    dsimp only
    rw [List.getElem?_append_left (h answer List.mem_cons_self)]

end FirstGiven

/-! ## One event -/

theorem Manager.get_of_some {m : Manager} {s : State} {config : ClientConfig}
    (h : s.cells[m.cell]? = some (some config)) : m.get s = (s, .ok config) := by
  rw [Manager.get, h]

theorem Manager.get_of_none {m : Manager} {s : State} (h : s.cells[m.cell]? = some none) :
    m.get s = (⟨(ClientConfig.getOrCreate m.root s.disk).1,
      match (ClientConfig.getOrCreate m.root s.disk).2 with
      | .ok config => s.cells.set m.cell (some config)
      | .error _ => s.cells⟩, (ClientConfig.getOrCreate m.root s.disk).2) := by
  rw [Manager.get, h]
  rcases ClientConfig.getOrCreate m.root s.disk with ⟨disk, _ | _⟩ <;> rfl

/-- No manager overwrites a configuration that is remembered. -/
theorem Manager.get_keeps (m : Manager) {s : State} {cell : Nat} {config : ClientConfig}
    (h : s.cells[cell]? = some (some config)) :
    (m.get s).1.cells[cell]? = some (some config) := by
  unfold Manager.get
  split
  · exact h
  · rename_i hnone
    split
    · have hne : m.cell ≠ cell := by
        rintro rfl
        exact hnone config h
      rw [List.getElem?_set_ne hne]
      exact h
    · exact h

/-- A course in which each origin has a cell of its own, where the first configuration is that one
of its managers gave. -/
structure Course.Shares (c : Course) (known : List Origin) (cellOf : Origin → Nat) : Prop where
  managers : c.managers = known.map fun origin => ⟨origin.root, cellOf origin⟩
  cells : ∀ origin ∈ known,
    c.state.cells[cellOf origin]? = some (firstGiven known origin c.answers)
  apart : ∀ origin ∈ known, ∀ other ∈ known, cellOf origin = cellOf other → origin = other
  earlier : ∀ origin ∈ known, origin.number < known.length
  asked : ∀ answer ∈ c.answers, answer.1 < known.length

namespace Course.Shares

variable {c : Course} {known : List Origin} {cellOf : Origin → Nat} {origin : Origin} {number : Nat}

theorem getElem? (h : c.Shares known cellOf) (number : Nat) :
    c.managers[number]? = known[number]?.map fun origin => ⟨origin.root, cellOf origin⟩ := by
  rw [h.managers, List.getElem?_map]

theorem memory (h : c.Shares known cellOf) (hnumber : known[number]? = some origin) :
    c.memory number = some (firstGiven known origin c.answers) := by
  rw [Course.memory, h.getElem?, hnumber]
  exact h.cells origin (List.mem_of_getElem? hnumber)

/-- Nothing is given yet by managers that are still to come. -/
theorem firstGiven_new (h : c.Shares known cellOf) (root : FilePath) (more : List Origin) :
    firstGiven (known ++ more) ⟨known.length, root⟩ c.answers = none := by
  rw [firstGiven_append h.asked, firstGiven, List.findSome?_eq_none_iff]
  rintro ⟨number, answer⟩ -
  refine if_neg fun hnumber => ?_
  exact absurd (h.earlier _ (List.mem_of_getElem? hnumber)) (Nat.lt_irrefl _)

/-- A new manager gets a cell of its own, with nothing in it. -/
theorem new (h : c.Shares known cellOf) (root : FilePath) :
    ∃ cellOf, (c.after (.new root)).Shares (originsAfter known (.new root)) cellOf := by
  let cellOf' (origin : Origin) : Nat :=
    if origin.number < known.length then cellOf origin else c.state.cells.length
  have hold {origin : Origin} (horigin : origin ∈ known) : cellOf' origin = cellOf origin :=
    if_pos (h.earlier origin horigin)
  have hnew : cellOf' ⟨known.length, root⟩ = c.state.cells.length := if_neg (Nat.lt_irrefl _)
  have hbound {origin : Origin} (horigin : origin ∈ known) :
      cellOf origin < c.state.cells.length :=
    (List.getElem?_eq_some_iff.mp (h.cells origin horigin)).1
  have hmem {origin : Origin} (horigin : origin ∈ originsAfter known (.new root)) :
      origin ∈ known ∨ origin = ⟨known.length, root⟩ := by
    simpa [originsAfter] using horigin
  have hlength : (originsAfter known (.new root)).length = known.length + 1 :=
    List.length_append
  refine ⟨cellOf', ?_, fun origin horigin => ?_, fun origin horigin other hother heq => ?_,
    fun origin horigin => ?_, fun answer hanswer => ?_⟩
  · change c.managers ++ [⟨root, c.state.cells.length⟩] = _
    rw [originsAfter, List.map_append, h.managers, List.map_singleton, hnew]
    congr 1
    exact List.map_congr_left fun origin horigin => by rw [hold horigin]
  · change (c.state.cells ++ [none])[cellOf' origin]? =
      some (firstGiven (known ++ [⟨known.length, root⟩]) origin c.answers)
    rcases hmem horigin with horigin | rfl
    · rw [hold horigin, List.getElem?_append_left (hbound horigin), firstGiven_append h.asked]
      exact h.cells origin horigin
    · rw [hnew, h.firstGiven_new root, List.getElem?_concat_length]
  · rcases hmem horigin with horigin | rfl <;> rcases hmem hother with hother | rfl
    · rw [hold horigin, hold hother] at heq
      exact h.apart origin horigin other hother heq
    · rw [hold horigin, hnew] at heq
      exact absurd heq (Nat.ne_of_lt (hbound horigin))
    · rw [hold hother, hnew] at heq
      exact absurd heq.symm (Nat.ne_of_lt (hbound hother))
    · rfl
  · rw [hlength]
    rcases hmem horigin with horigin | rfl
    · exact Nat.lt_succ_of_lt (h.earlier origin horigin)
    · exact Nat.lt_succ_self _
  · rw [hlength]
    exact Nat.lt_succ_of_lt (h.asked answer hanswer)

/-- A copy has the cell of what it is copied from. -/
theorem copy (h : c.Shares known cellOf) (number : Nat) :
    (c.after (.copy number)).Shares (originsAfter known (.copy number)) cellOf := by
  have hmem {origin : Origin} (horigin : origin ∈ originsAfter known (.copy number)) :
      origin ∈ known := by
    rcases List.mem_append.mp horigin with horigin | horigin
    · exact horigin
    · exact List.mem_of_getElem? (Option.mem_toList.mp horigin)
  have hlength : known.length ≤ (originsAfter known (.copy number)).length := by
    rw [originsAfter, List.length_append]
    exact Nat.le_add_right _ _
  refine ⟨?_, fun origin horigin => ?_, fun origin horigin other hother => ?_,
    fun origin horigin => ?_, fun answer hanswer => ?_⟩
  · change c.managers ++ c.managers[number]?.toList = _
    rw [h.getElem?, h.managers, originsAfter, List.map_append]
    cases known[number]? <;> rfl
  · change c.state.cells[cellOf origin]? =
      some (firstGiven (known ++ known[number]?.toList) origin c.answers)
    rw [firstGiven_append h.asked]
    exact h.cells origin (hmem horigin)
  · exact h.apart origin (hmem horigin) other (hmem hother)
  · exact Nat.lt_of_lt_of_le (h.earlier origin (hmem horigin)) hlength
  · exact Nat.lt_of_lt_of_le (h.asked answer hanswer) hlength

/-- Who remembers a configuration gives it and leaves everything as it is. -/
theorem get_of_some (h : c.Shares known cellOf) (hnumber : known[number]? = some origin)
    {config : ClientConfig} (hfirst : firstGiven known origin c.answers = some config) :
    c.after (.get number) = { c with answers := c.answers ++ [(number, .ok config)] } := by
  have hcell := h.cells origin (List.mem_of_getElem? hnumber)
  rw [hfirst] at hcell
  rw [after, h.getElem?, hnumber]
  dsimp only [Option.map_some]
  rw [Manager.get_of_some hcell]

/-- Who remembers nothing looks on the disk, and remembers what it finds there. -/
theorem get_of_none (h : c.Shares known cellOf) (hnumber : known[number]? = some origin)
    (hfirst : firstGiven known origin c.answers = none) :
    c.after (.get number) =
      ⟨⟨(ClientConfig.getOrCreate origin.root c.state.disk).1,
        match (ClientConfig.getOrCreate origin.root c.state.disk).2 with
        | .ok config => c.state.cells.set (cellOf origin) (some config)
        | .error _ => c.state.cells⟩, c.managers,
        c.answers ++ [(number, (ClientConfig.getOrCreate origin.root c.state.disk).2)]⟩ := by
  have hcell := h.cells origin (List.mem_of_getElem? hnumber)
  rw [hfirst] at hcell
  rw [after, h.getElem?, hnumber]
  dsimp only [Option.map_some]
  rw [Manager.get_of_none hcell]

/-- An answer keeps the cells in step with what was given. -/
theorem get (h : c.Shares known cellOf) (number : Nat) :
    (c.after (.get number)).Shares known cellOf := by
  cases hnumber : known[number]? with
  | none =>
    have hsame : c.after (.get number) = c := by
      rw [after, h.getElem?, hnumber]
      rfl
    rw [hsame]
    exact h
  | some origin =>
    have horigin := List.mem_of_getElem? hnumber
    have hasked (answer : Except Failure ClientConfig) :
        ∀ a ∈ c.answers ++ [(number, answer)], a.1 < known.length := by
      intro a ha
      rcases List.mem_append.mp ha with ha | ha
      · exact h.asked a ha
      · rw [List.mem_singleton.mp ha]
        exact (List.getElem?_eq_some_iff.mp hnumber).1
    have hne {other : Origin} (heq : other ≠ origin) : known[number]? ≠ some other := by
      rw [hnumber]
      exact fun h => heq (Option.some.inj h).symm
    cases hfirst : firstGiven known origin c.answers with
    | some config =>
      rw [h.get_of_some hnumber hfirst]
      refine ⟨h.managers, fun other hother => ?_, h.apart, h.earlier, hasked _⟩
      refine (h.cells other hother).trans (congrArg some ?_)
      by_cases heq : other = origin
      · subst heq
        rw [hfirst, firstGiven_concat_of_some hfirst]
      · rw [firstGiven_concat_of_ne (hne heq)]
    | none =>
      rw [h.get_of_none hnumber hfirst]
      refine ⟨h.managers, fun other hother => ?_, h.apart, h.earlier, hasked _⟩
      dsimp only
      by_cases heq : other = origin
      · subst heq
        rw [firstGiven_concat_of_none hfirst hnumber]
        have hcell := h.cells other hother
        split
        · rename_i config hanswer
          rw [hanswer, List.getElem?_set_self (List.getElem?_eq_some_iff.mp hcell).1]
          rfl
        · rename_i e hanswer
          rw [hanswer, hcell, hfirst]
          rfl
      · rw [firstGiven_concat_of_ne (hne heq), ← h.cells other hother]
        split
        · rw [List.getElem?_set_ne]
          exact fun hcell => heq (h.apart origin horigin other hother hcell).symm
        · rfl

/-- Each event keeps the cells in step. -/
theorem after (h : c.Shares known cellOf) (event : Event) :
    ∃ cellOf, (c.after event).Shares (originsAfter known event) cellOf := by
  cases event with
  | new root => exact h.new root
  | copy number => exact ⟨cellOf, h.copy number⟩
  | get number => exact ⟨cellOf, h.get number⟩
  | outside disk => exact ⟨cellOf, h.managers, h.cells, h.apart, h.earlier, h.asked⟩

end Course.Shares

/-! ## Any number of events -/

theorem Course.shares_run (disk : Disk) (events : List Event) :
    ∃ cellOf, (run disk events).Shares (origins events) cellOf := by
  induction events using List.reverseRecOn with
  | nil =>
    exact ⟨fun _ => 0, rfl, nofun, nofun, nofun, nofun⟩
  | append_singleton events event ih =>
    obtain ⟨cellOf, h⟩ := ih
    rw [run_concat, origins_concat]
    exact h.after event

namespace Course

variable {disk : Disk} {number : Nat} {origin : Origin}

/-- A manager remembers what was first given by one of its origin. -/
theorem memory_run (disk : Disk) {events : List Event}
    (hnumber : (origins events)[number]? = some origin) :
    (run disk events).memory number =
      some (firstGiven (origins events) origin (run disk events).answers) := by
  obtain ⟨cellOf, h⟩ := shares_run disk events
  exact h.memory hnumber

/-- Later events leave the origins of managers as they are. -/
theorem getElem?_originsAfter {known : List Origin} (event : Event)
    (hnumber : known[number]? = some origin) :
    (originsAfter known event)[number]? = some origin := by
  have hlt := (List.getElem?_eq_some_iff.mp hnumber).1
  cases event with
  | new root => rw [originsAfter, List.getElem?_append_left hlt, hnumber]
  | copy other => rw [originsAfter, List.getElem?_append_left hlt, hnumber]
  | get other => exact hnumber
  | outside disk => exact hnumber

/-- What is remembered stays remembered, whatever happens. -/
theorem memory_after {c : Course} {config : ClientConfig}
    (h : c.memory number = some (some config)) (event : Event) :
    (c.after event).memory number = some (some config) := by
  obtain ⟨manager, hmanager, hcell⟩ := Option.bind_eq_some_iff.mp h
  refine Option.bind_eq_some_iff.mpr ⟨manager, ?_⟩
  have hmore (more : List Manager) : (c.managers ++ more)[number]? = some manager := by
    rw [List.getElem?_append_left (List.getElem?_eq_some_iff.mp hmanager).1, hmanager]
  cases event with
  | new root =>
    refine ⟨hmore _, ?_⟩
    change (c.state.cells ++ [none])[manager.cell]? = _
    rw [List.getElem?_append_left (List.getElem?_eq_some_iff.mp hcell).1, hcell]
  | copy other => exact ⟨hmore _, hcell⟩
  | get other =>
    rw [after]
    cases c.managers[other]? with
    | none => exact ⟨hmanager, hcell⟩
    | some asked => exact ⟨hmanager, asked.get_keeps hcell⟩
  | outside disk => exact ⟨hmanager, hcell⟩

/-- At the end of a course, and at the end of every longer one, a manager that remembers a
configuration remembers and gives it. -/
theorem remembers_run {events : List Event} {config : ClientConfig}
    (h : (run disk events).memory number = some (some config)) (more : List Event) :
    (run disk (events ++ more)).memory number = some (some config) := by
  induction more using List.reverseRecOn with
  | nil => rwa [List.append_nil]
  | append_singleton more event ih =>
    rw [← List.append_assoc, run_concat]
    exact memory_after ih event

theorem get_of_memory {c : Course} {config : ClientConfig}
    (h : c.memory number = some (some config)) :
    c.after (.get number) = { c with answers := c.answers ++ [(number, .ok config)] } := by
  obtain ⟨manager, hmanager, hcell⟩ := Option.bind_eq_some_iff.mp h
  rw [after, hmanager]
  dsimp only
  rw [Manager.get_of_some hcell]

/-- What comes of asking a manager at the end of a course. -/
structure Answers (disk : Disk) (events : List Event) (number : Nat) (origin : Origin) : Prop where
  /-- It remembers the first configuration that it or one of the managers with its origin gave. -/
  first : (run disk events).memory number =
    some (firstGiven (origins events) origin (run disk events).answers)
  /-- Until there is one, it gives what is found on the disk or made there, and remembers this
  unless it is a failure. -/
  looks : (run disk events).memory number = some none →
    let looked := ClientConfig.getOrCreate origin.root (run disk events).state.disk
    let c := run disk (events ++ [.get number])
    c.answers = (run disk events).answers ++ [(number, looked.2)] ∧ c.state.disk = looked.1 ∧
      c.memory number = some looked.2.toOption
  /-- From then on it gives the same, at any later time, and changes nothing. -/
  remembers : ∀ config, (run disk events).memory number = some (some config) → ∀ more,
    let c := run disk (events ++ more)
    run disk (events ++ more ++ [.get number]) =
      { c with answers := c.answers ++ [(number, .ok config)] }
  /-- Managers with another origin remember what they did. -/
  apart : ∀ other, (origins events)[other]? ≠ some origin →
    (run disk (events ++ [.get number])).memory other = (run disk events).memory other
  /-- A manager that is made anew has an origin of its own and remembers nothing, and the others
  remember what they did. -/
  fresh : ∀ root, let next := (origins events).length
    (origins (events ++ [.new root]))[next]? = some ⟨next, root⟩ ∧
    ⟨next, root⟩ ∉ origins events ∧
    (run disk (events ++ [.new root])).memory next = some none ∧
    ∀ other < next,
      (run disk (events ++ [.new root])).memory other = (run disk events).memory other

theorem memory_get_of_ne {events : List Event} (hnumber : (origins events)[number]? = some origin)
    {other : Nat} (hother : (origins events)[other]? ≠ some origin) :
    (run disk (events ++ [.get number])).memory other = (run disk events).memory other := by
  obtain ⟨cellOf, h⟩ := shares_run disk events
  have hafter := h.get number
  rw [run_concat]
  cases hotherwise : (origins events)[other]? with
  | none =>
    rw [memory, memory, hafter.getElem?, h.getElem?, hotherwise]
    rfl
  | some found =>
    have hne : (origins events)[number]? ≠ some found := by
      rw [hnumber, ← hotherwise]
      exact fun heq => hother heq.symm
    rw [hafter.memory hotherwise, h.memory hotherwise]
    cases hfirst : firstGiven (origins events) origin (run disk events).answers with
    | some config =>
      rw [h.get_of_some hnumber hfirst, firstGiven_concat_of_ne hne]
    | none =>
      rw [h.get_of_none hnumber hfirst, firstGiven_concat_of_ne hne]

theorem fresh_run (disk : Disk) (events : List Event) (root : FilePath) :
    let next := (origins events).length
    (origins (events ++ [.new root]))[next]? = some ⟨next, root⟩ ∧
      ⟨next, root⟩ ∉ origins events ∧
      (run disk (events ++ [.new root])).memory next = some none ∧
      ∀ other < next,
        (run disk (events ++ [.new root])).memory other = (run disk events).memory other := by
  obtain ⟨cellOf, h⟩ := shares_run disk events
  obtain ⟨cellOf', h'⟩ := h.new root
  have hnext : (originsAfter (origins events) (.new root))[(origins events).length]? =
      some ⟨(origins events).length, root⟩ := List.getElem?_concat_length
  dsimp only
  rw [origins_concat, run_concat]
  refine ⟨hnext, fun hmem => absurd (h.earlier _ hmem) (Nat.lt_irrefl _), ?_,
    fun other hother => ?_⟩
  · rw [h'.memory hnext]
    exact congrArg some (h.firstGiven_new root _)
  · obtain ⟨found, hfound⟩ : ∃ found, (origins events)[other]? = some found :=
      ⟨_, List.getElem?_eq_getElem hother⟩
    rw [h.memory hfound, h'.memory (getElem?_originsAfter _ hfound)]
    exact congrArg some (firstGiven_append h.asked _)

/-- Managers with one origin share what they remember, and nothing else is shared: whatever has
happened to them and to the disk, each gives what is found there until one of its origin gave a
configuration, and this one from then on. -/
theorem answers_run (disk : Disk) {events : List Event}
    (hnumber : (origins events)[number]? = some origin) : Answers disk events number origin := by
  have hfirst := memory_run disk hnumber
  refine ⟨hfirst, fun hnone => ?_, fun config hconfig more => ?_, fun other hother => ?_,
    fresh_run disk events⟩
  · obtain ⟨cellOf, h⟩ := shares_run disk events
    rw [hfirst, Option.some_inj] at hnone
    have hget := h.get_of_none hnumber hnone
    have hmemory := (h.get number).memory hnumber
    dsimp only
    rw [run_concat]
    refine ⟨by rw [hget], by rw [hget], ?_⟩
    rw [hmemory, hget, firstGiven_concat_of_none hnone hnumber]
  · rw [run_concat]
    exact get_of_memory (remembers_run hconfig more)
  · exact memory_get_of_ne hnumber hother

/-- A manager is asked in vain where a file is in the way; then it is copied, and the file goes. -/
def askedTooEarly : List Event :=
  [.new [47, 70], .get 0, .copy 0, .outside Disk.empty]

theorem answers_run_askedTooEarly :
    let disk := Disk.empty.set [[70]] (.file [])
    (origins askedTooEarly)[1]? = some ⟨0, [47, 70]⟩ ∧
      (run disk askedTooEarly).memory 1 = some none ∧
      Answers disk askedTooEarly 1 ⟨0, [47, 70]⟩ :=
  ⟨rfl, rfl, answers_run _ rfl⟩

end Course

end Refactoring.Settings
