import Refactoring.Proofs.Flow.Choices

/-!
# Types that are left out

A member moves to a class, an interface or an enumeration of the workspace, but for some that are
left out by their qualified names.  The type that the member is in is always left out.  A type that
moves is left out itself if its name is put together as that of a symbol is; where an enclosing
type is missing or has an empty name it may not be, and then the type is offered to itself.
-/

namespace Refactoring

open Refactoring.Flow (Runs)

/-! ## Qualified names -/

/-- A name behind that of its container; an empty container is none. -/
def qualified (container name : String) : String :=
  if container = "" then name else s!"{container}.{name}"

theorem Symbol.qualifiedName_eq (symbol : Symbol) :
    symbol.qualifiedName = qualified (symbol.container.getD "") symbol.name := by
  unfold qualifiedName
  cases symbol.container with
  | none => rfl
  | some container => rfl

/-- The qualified name of the type that a row shows. -/
def PickItem.qualifiedName (item : PickItem) : String :=
  qualified (item.description.getD "") item.label

theorem Symbol.qualifiedName_row (symbol : Symbol) :
    symbol.row.qualifiedName = symbol.qualifiedName := symbol.qualifiedName_eq.symm

/-- A name behind that of a container is another one, even where that is empty. -/
theorem dotted_ne (container name : String) : s!"{container}.{name}" ≠ name := by
  intro h
  have hlength : (container ++ "." ++ name).length = name.length := congrArg String.length h
  rw [String.length_append, String.length_append] at hlength
  have hdot : ".".length = 1 := rfl
  omega

namespace CommandInfo

/-- The name of the type that a member is in, empty if it is in none. -/
def enclosing (info : CommandInfo) : String := info.enclosingTypeName.getD ""

/-- The qualified name of a member. -/
def qualifiedName (info : CommandInfo) : String := qualified info.enclosing info.displayName

variable {info : CommandInfo}

theorem enclosingTypeName_of_ne (h : info.enclosing ≠ "") :
    info.enclosingTypeName = some info.enclosing := by
  unfold enclosing at *
  cases hname : info.enclosingTypeName with
  | none => simp [hname] at h
  | some enclosing => rfl

theorem enclosing_mem_excludedTargets (h : info.enclosing ≠ "") :
    info.enclosing ∈ info.excludedTargets := by
  rw [excludedTargets, enclosingTypeName_of_ne h]
  cases info.isType <;> simp

theorem qualifiedName_mem_excludedTargets (htype : info.isType) (h : info.enclosing ≠ "") :
    info.qualifiedName ∈ info.excludedTargets := by
  rw [qualifiedName, qualified, if_neg h, excludedTargets, enclosingTypeName_of_ne h]
  simp [htype]

theorem ownName?_eq (hname : info.displayName ≠ "") (h : info.enclosingTypeName ≠ some "") :
    info.ownName? = some info.qualifiedName := by
  rw [ownName?, if_neg hname, qualifiedName, qualified, enclosing]
  cases henclosing : info.enclosingTypeName with
  | none => rfl
  | some enclosing =>
    rw [Option.getD_some, if_neg]
    rintro rfl
    exact h henclosing

/-- Without an enclosing type the name of a member is not among those that are left out. -/
theorem qualifiedName_notMem_excludedTargets (hname : info.displayName ≠ "")
    (h : info.enclosing = "") : info.qualifiedName ∉ info.excludedTargets := by
  rw [qualifiedName, qualified, if_pos h]
  unfold enclosing excludedTargets at *
  cases henclosing : info.enclosingTypeName with
  | none => exact List.not_mem_nil
  | some enclosing =>
    obtain rfl : enclosing = "" := by simpa [henclosing] using h
    cases info.isType with
    | false => simpa using hname
    | true => simpa using ⟨hname, (dotted_ne "" info.displayName).symm⟩

theorem ownName?_ne (h : info.enclosingTypeName = some "") :
    info.ownName? ≠ some info.qualifiedName := by
  unfold ownName? qualifiedName qualified enclosing
  rw [h]
  split
  · nofun
  · exact fun hown => dotted_ne "" info.displayName (Option.some.inj hown)

end CommandInfo

/-! ## Members and what is left out for them -/

namespace Errand

/-- The member that an errand moves to a class, and whether it is a type. -/
def member? : Errand → Option (CommandInfo × Bool)
  | moveStaticMember _ info => some (info, info.isType)
  | moveTypeToClass _ info => some (info, true)
  | _ => none

/-- Whether a type that moves is known by its name: as a static member it must be in a type, and
otherwise it must have a name and not be in a type that has an empty one. -/
def KnowsType : Errand → Prop
  | moveStaticMember _ info => info.enclosing ≠ ""
  | moveTypeToClass _ info => info.displayName ≠ "" ∧ info.enclosingTypeName ≠ some ""
  | _ => False

variable {errand : Errand} {info : CommandInfo} {isType : Bool}

/-- A member is moved to one of the symbols that a search finds. -/
theorem exists_search_of_member (h : errand.member? = some (info, isType)) :
    ∃ excluded, errand.search? = some (info.projectName, excluded) ∧
      (info.enclosing ≠ "" → info.enclosing ∈ excluded) ∧
      (isType → errand.KnowsType → info.qualifiedName ∈ excluded) ∧
      (info.displayName ≠ "" → ¬ errand.KnowsType → info.qualifiedName ∉ excluded) := by
  cases errand with
  | moveStaticMember selection member =>
    cases h
    refine ⟨_, rfl, CommandInfo.enclosing_mem_excludedTargets,
      CommandInfo.qualifiedName_mem_excludedTargets, fun hname hknows => ?_⟩
    exact CommandInfo.qualifiedName_notMem_excludedTargets hname (not_not.mp hknows)
  | moveTypeToClass selection member =>
    cases h
    refine ⟨_, rfl, fun henclosing => ?_, fun _ hknows => ?_, fun hname hknows => ?_⟩
    · exact List.mem_append_left _ (CommandInfo.enclosing_mem_excludedTargets henclosing)
    · rw [CommandInfo.ownName?_eq hknows.1 hknows.2]
      simp
    · have hempty : info.enclosingTypeName = some "" := not_not.mp fun h => hknows ⟨hname, h⟩
      rw [List.mem_append, not_or, Option.mem_toList]
      refine ⟨CommandInfo.qualifiedName_notMem_excludedTargets hname ?_,
        CommandInfo.ownName?_ne hempty⟩
      rw [CommandInfo.enclosing, hempty]
      rfl
  | _ => cases h

end Errand

/-! ## The picker -/

section Picker

variable {placeholder : String} {excluded : List String} {project : Option String}
  {next : Option Symbol → Flow Outcome} {events : List CallEvent}
  {result : Except Problem Outcome}

/-- A search for a class fails, or it finds no class and that is reported, or the classes that are
left are shown; then the picker fails, or no row is chosen, or the symbol of a row is taken. -/
theorem runs_selectTargetClass
    (h : Runs (selectTargetClass placeholder excluded project >>= next) events result) :
    (∃ failure, events = [⟨.searchSymbols (allSymbols project), .error failure⟩]) ∨
    ∃ symbols rest,
      events = ⟨.searchSymbols (allSymbols project), .ok symbols⟩ :: rest ∧
        let candidates := symbols.filter (Symbol.isCandidate excluded)
        candidates = [] ∧ rest = [⟨.showError noClasses, ()⟩] ∨
        ∃ reply more,
          rest = ⟨.pick (candidates.map Symbol.row) placeholder, reply⟩ :: more ∧
            (more = [] ∨ Runs (next none) more result ∨
              ∃ symbol ∈ candidates, Runs (next (some symbol)) more result) := by
  rw [selectTargetClass, bind_assoc] at h
  rcases Flow.runs_bind.mp h with ⟨problem, hasked, -⟩ | ⟨asked, rest, symbols, rfl, hasked, hrest⟩
  · obtain ⟨reply, hreply, hproblem⟩ := Flow.runs_orElse.mp hasked
    obtain rfl := Program.runs_request.mp hreply
    cases reply with
    | ok symbols => cases hproblem
    | error failure => exact .inl ⟨failure, rfl⟩
  · obtain ⟨reply, hreply, hsymbols⟩ := Flow.runs_orElse.mp hasked
    obtain rfl := Program.runs_request.mp hreply
    cases reply with
    | error failure => cases hsymbols
    | ok found =>
      cases hsymbols
      refine .inr ⟨symbols, rest, rfl, ?_⟩
      dsimp only at hrest ⊢
      split at hrest
      · rename_i hempty
        exact .inl ⟨List.isEmpty_iff.mp hempty, (Flow.runs_report.mp hrest).1⟩
      · obtain ⟨reply, more, rfl, ⟨failure, rfl, rfl, -⟩ | ⟨-, hnone⟩ |
          ⟨i, symbol, rfl, hi, hsome⟩⟩ := Flow.runs_choose_cases _ _ _ hrest
        · exact .inr ⟨_, _, rfl, .inl rfl⟩
        · exact .inr ⟨_, _, rfl, .inr (.inl hnone)⟩
        · exact .inr ⟨_, _, rfl, .inr (.inr ⟨symbol, List.mem_of_getElem? hi, hsome⟩)⟩

/-- A call that does not show a type of this name, and moves only to symbols of other names. -/
def Call.Spares (name : String) : Call → Prop
  | .pick items _ => ∀ item ∈ items, item.qualifiedName ≠ name
  | .move request =>
    ∃ symbol, request.destination = some (.symbol symbol) ∧ symbol.qualifiedName ≠ name
  | _ => True

variable {name : String}

theorem Call.spares_of_concludes {call : Call} (h : call.concludes) : call.Spares name := by
  cases call with
  | pick | move => cases h
  | _ => trivial

theorem spares_commit {saving : Bool} {request : MoveRequest} {symbol : Symbol}
    (hdestination : request.destination = some (.symbol symbol))
    (hname : symbol.qualifiedName ≠ name) : (request.commit saving).Within (Call.Spares name) := by
  refine .bind (.orElse (.ask ⟨symbol, hdestination, hname⟩)) fun sent => ?_
  exact (concludes_carryOut saving sent).mono fun _ => Call.spares_of_concludes

/-- A name that is left out is spared. -/
theorem spares_selectTargetClass (hname : name ∈ excluded)
    (hnone : (next none).Within (Call.Spares name))
    (hsome : ∀ symbol : Symbol, symbol.qualifiedName ≠ name →
      (next (some symbol)).Within (Call.Spares name)) :
    (selectTargetClass placeholder excluded project >>= next).Within (Call.Spares name) := by
  intro events result hruns
  have hcandidate {symbols : List Symbol} :
      ∀ symbol ∈ symbols.filter (Symbol.isCandidate excluded), symbol.qualifiedName ≠ name := by
    rintro symbol hsymbol rfl
    have hcandidate := (List.mem_filter.mp hsymbol).2
    simp [Symbol.isCandidate, hname] at hcandidate
  rcases runs_selectTargetClass hruns with
    ⟨failure, rfl⟩ | ⟨symbols, rest, rfl, ⟨-, rfl⟩ | ⟨reply, more, rfl, hmore⟩⟩
  · simp [Call.Spares]
  · simp [Call.Spares]
  · refine List.forall_mem_cons.mpr ⟨trivial, List.forall_mem_cons.mpr ⟨?_, ?_⟩⟩
    · intro item hitem
      obtain ⟨symbol, hsymbol, rfl⟩ := List.mem_map.mp hitem
      rw [symbol.qualifiedName_row]
      exact hcandidate symbol hsymbol
    · rcases hmore with rfl | hmore | ⟨symbol, hsymbol, hmore⟩
      · exact List.forall_mem_nil _
      · exact hnone _ _ hmore
      · exact hsome symbol (hcandidate symbol hsymbol) _ _ hmore

/-- Each class of this name that a search finds is shown in a picker behind it. -/
def ShowsFound (name : String) (events : List CallEvent) : Prop :=
  ∀ query symbols rest, events = ⟨.searchSymbols query, .ok symbols⟩ :: rest →
    ∀ symbol ∈ symbols, symbol.kind ∈ memberHolders → symbol.qualifiedName = name →
      ∃ items question reply more,
        rest = ⟨.pick items question, reply⟩ :: more ∧ symbol.row ∈ items

/-- A name that is not left out is shown. -/
theorem shows_selectTargetClass (hname : name ∉ excluded)
    (h : Runs (selectTargetClass placeholder excluded project >>= next) events result) :
    ShowsFound name events := by
  rintro query symbols rest rfl symbol hsymbol hkind rfl
  rcases runs_selectTargetClass h with ⟨failure, hevents⟩ | ⟨found, later, hevents, hlater⟩
  · cases hevents
  · cases hevents
    have hcandidate : symbol ∈ symbols.filter (Symbol.isCandidate excluded) :=
      List.mem_filter.mpr ⟨hsymbol, by simp [Symbol.isCandidate, hkind, hname]⟩
    rcases hlater with ⟨hempty, -⟩ | ⟨reply, more, rfl, -⟩
    · rw [hempty] at hcandidate
      cases hcandidate
    · exact ⟨_, _, reply, more, rfl, List.mem_map_of_mem hcandidate⟩

end Picker

/-! ## Services -/

section Services

variable {project : Option String} {excluded : List String} {name : String}
  {events rest : List CallEvent} {result : Except Problem Outcome}

/-- A move to a symbol that is searched for spares what is left out and offers everything else. -/
theorem spares_or_shows_commit {request : Symbol → MoveRequest} {placeholder : String}
    (hdestination : ∀ symbol, (request symbol).destination = some (.symbol symbol))
    (h : Runs (do
      let some target ← selectTargetClass placeholder excluded project | return .cancelled
      (request target).commit false) events result) :
    (name ∈ excluded → ∀ event ∈ events, event.1.Spares name) ∧
      (name ∉ excluded → ShowsFound name events) := by
  refine ⟨fun hname => ?_, fun hname => shows_selectTargetClass hname h⟩
  refine spares_selectTargetClass hname (.pure _) (fun symbol hsymbol => ?_) _ _ h
  exact spares_commit (hdestination symbol) hsymbol

theorem Errand.spares_or_shows {errand : Errand}
    (hsearch : errand.search? = some (project, excluded)) (h : Runs errand.flow events result) :
    (name ∈ excluded → ∀ event ∈ events, event.1.Spares name) ∧
      (name ∉ excluded → ShowsFound name events) := by
  cases errand with
  | moveStaticMember selection info =>
    cases hsearch
    exact spares_or_shows_commit (fun _ => rfl) h
  | moveTypeToClass selection info =>
    cases hsearch
    exact spares_or_shows_commit (fun _ => rfl) h
  | _ => cases hsearch

/-- What a run does behind the calls that show what its errand comes to is a run of that errand. -/
theorem Errand.ComesTo.runs {errand real : Errand} {choice : List CallEvent}
    (hcomes : errand.ComesTo choice real) (h : Runs errand.flow (choice ++ rest) result) :
    Runs real.flow rest result := by
  cases errand with
  | moveType selection info =>
    obtain ⟨i, destination, hi, rfl, rfl⟩ := hcomes
    rcases runs_moveType h with
      hevents | ⟨reply, hnone, hevents⟩ | ⟨j, chosen, more, hj, hevents, hmore⟩
    · cases hevents
    · cases hevents
      cases (hnone i rfl).symm.trans hi
    · cases hevents
      cases hj.symm.trans hi
      exact hmore
  | _ =>
    obtain ⟨rfl, rfl⟩ := hcomes
    exact h

/-- When a member moves to a class, the type that it is in is neither offered nor moved to.  A type
that moves is neither offered nor moved to itself if it is known by its name; if it has a name but
is not known by it, then it is offered wherever the server lists it. -/
theorem Service.spares_types {service : Service} {choice : List CallEvent} {errand : Errand}
    {info : CommandInfo} {isType : Bool} (hcomes : service.errand.ComesTo choice errand)
    (hmember : errand.member? = some (info, isType))
    (h : Runs service.flow (choice ++ rest) result) :
    (info.enclosing ≠ "" → ∀ event ∈ rest, event.1.Spares info.enclosing) ∧
    (isType → errand.KnowsType → ∀ event ∈ rest, event.1.Spares info.qualifiedName) ∧
    (isType → info.displayName ≠ "" → ¬ errand.KnowsType → ShowsFound info.qualifiedName rest) := by
  rw [service.flow_eq] at h
  obtain ⟨excluded, hsearch, henclosing, hknown, hunknown⟩ := errand.exists_search_of_member hmember
  have hruns := hcomes.runs h
  refine ⟨fun hname => ?_, fun htype hknows => ?_, fun _ hname hknows => ?_⟩
  · exact (Errand.spares_or_shows hsearch hruns).1 (henclosing hname)
  · exact (Errand.spares_or_shows hsearch hruns).1 (hknown htype hknows)
  · exact (Errand.spares_or_shows hsearch hruns).2 (hunknown hname hknows)

end Services

/-- A class with a container. -/
def Symbol.ofClass (container : Option String) (name : String) : Symbol :=
  ⟨name, 5, none, none, ⟨.localResource [name], ⟨⟨0, 0⟩, ⟨0, 0⟩⟩⟩, container⟩

/-- The beginning of a document. -/
def Selection.beginning (name : String) : Selection :=
  ⟨.localResource [name], ⟨⟨0, 0⟩, ⟨0, 0⟩⟩, ⟨[], none, none⟩, none, none⟩

/-- The class `p.Outer.Inner`, which can move to another class. -/
def innerClass : CommandInfo :=
  ⟨none, none, some "Inner", some "p.Outer", some 55, none, some ["class"]⟩

/-- The server lists both classes and a third one, of which only the third is shown. -/
def thirdChosen : List CallEvent :=
  [⟨.searchSymbols (allSymbols none), .ok [.ofClass (some "p") "Outer",
      .ofClass (some "p.Outer") "Inner", .ofClass (some "p") "Third"]⟩,
    ⟨.pick [(Symbol.ofClass (some "p") "Third").row] "Select the new class for the type Inner.",
      .ok (some 0)⟩,
    ⟨.move ((selectionQuery .moveTypeToClass (.beginning "Outer")).withDestination
        (.symbol (.ofClass (some "p") "Third"))), .ok none⟩]

/-- The class in a class is moved neither to itself nor to the one that it is in. -/
theorem Service.spares_types_innerClass :
    Runs (Service.flow (.moveType (.beginning "Outer") innerClass))
      ([innerClass.typeChoice (.ok (some 0))] ++ thirdChosen) (.ok .nothingToDo) ∧
    (∀ event ∈ thirdChosen, event.1.Spares "p.Outer") ∧
    ∀ event ∈ thirdChosen, event.1.Spares "p.Outer.Inner" := by
  have hruns : Runs (Service.flow (.moveType (.beginning "Outer") innerClass))
      ([innerClass.typeChoice (.ok (some 0))] ++ thirdChosen) (.ok .nothingToDo) :=
    .ask (.ask (.ask (.ask (.done _))))
  have hcomes : (Service.errand (.moveType (.beginning "Outer") innerClass)).ComesTo
      [innerClass.typeChoice (.ok (some 0))]
      (.moveTypeToClass (.beginning "Outer") innerClass) :=
    ⟨0, .insideClass, rfl, rfl, rfl⟩
  obtain ⟨houter, hinner, -⟩ := Service.spares_types hcomes rfl hruns
  exact ⟨hruns, houter (by decide), hinner rfl ⟨by decide, by decide⟩⟩

/-- A class that is in no class. -/
def outerClass : CommandInfo := ⟨none, none, some "Outer", none, some 55, none, none⟩

/-- The server lists that class, and it is shown and chosen. -/
def outerChosen : List CallEvent :=
  [⟨.searchSymbols (allSymbols none), .ok [.ofClass none "Outer"]⟩,
    ⟨.pick [(Symbol.ofClass none "Outer").row] "Select the new class for the type Outer.",
      .ok (some 0)⟩,
    ⟨.move ((selectionQuery .moveStaticMember (.beginning "Outer")).withDestination
        (.symbol (.ofClass none "Outer"))), .ok none⟩]

/-- As a static member a class that is in no class is moved to itself. -/
theorem Service.not_forall_spares_types :
    ¬ ∀ (service : Service) (choice rest : List CallEvent) (errand : Errand) (info : CommandInfo)
      (result : Except Problem Outcome), service.errand.ComesTo choice errand →
      errand.member? = some (info, true) → Runs service.flow (choice ++ rest) result →
      ∀ event ∈ rest, event.1.Spares info.qualifiedName := by
  intro h
  have hruns : Runs (Service.flow (.moveStaticMember (.beginning "Outer") outerClass))
      ([] ++ outerChosen) (.ok .nothingToDo) := .ask (.ask (.ask (.done _)))
  have hcomes : (Service.errand (.moveStaticMember (.beginning "Outer") outerClass)).ComesTo []
      (.moveStaticMember (.beginning "Outer") outerClass) := ⟨rfl, rfl⟩
  have hspares := h _ _ _ _ _ _ hcomes rfl hruns
  obtain ⟨symbol, hdestination, hname⟩ := hspares outerChosen[2] (by simp [outerChosen])
  cases hdestination
  exact hname rfl

end Refactoring
