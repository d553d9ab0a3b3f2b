import Refactoring.Proofs.Flow.Choices
import Refactoring.Proofs.Flow.Inquiries
import Refactoring.Proofs.Wire.Destinations

/-!
# What becomes of the values in a reply

The server lists destinations or symbols, the user chooses one, and it is sent back in the request
for the move.  The request holds the value that the server has sent if and only if that was spelled
out.
-/

namespace Refactoring

open Json
open Refactoring.Flow (Runs)

/-! ## Lists -/

/-- The values that the server has listed in a reply, as an object or with its members in order. -/
inductive Lists : CallEvent → List Json → Prop
  | offered {query : MoveRequest} {offer : DestinationList} {members : List (String × Json)}
      {values : List Json} (hread : DestinationList.decode (.object members) = .ok offer)
      (hvalues : member? members "destinations" = some (.array values)) :
      Lists ⟨.moveDestinations query, .ok (some offer)⟩ values
  | offeredInOrder {query : MoveRequest} {offer : DestinationList} {message : Json}
      {values : List Json}
      (hread : DestinationList.decode (.array [message, .array values]) = .ok offer) :
      Lists ⟨.moveDestinations query, .ok (some offer)⟩ values
  | found {query : SymbolQuery} {symbols : List Symbol} {values : List Json}
      (hread : Decoder.list Symbol.decode (.array values) = .ok symbols) :
      Lists ⟨.searchSymbols query, .ok symbols⟩ values

theorem forall₂_of_read {s : Source} {destinations : List Destination} {values : List Json}
    (hread : (Record.withDefault "destinations" [] (Decoder.list Destination.decode)).read s =
      .ok destinations)
    (hvalues : member? s.members "destinations" = some (.array values)) :
    List.Forall₂ (fun j d => Destination.decode j = .ok d) values destinations := by
  rcases Record.read_withDefault_eq_ok.mp hread with ⟨shown, hshown, hlist⟩ | ⟨hnone, -⟩
  · obtain rfl := Option.some.inj (hvalues.symm.trans hshown)
    exact mapM_eq_ok.mp hlist
  · cases hvalues.symm.trans hnone

theorem Lists.forall₂_offered {query : MoveRequest} {offer : DestinationList} {values : List Json}
    (h : Lists ⟨.moveDestinations query, .ok (some offer)⟩ values) :
    List.Forall₂ (fun j d => Destination.decode j = .ok d) values offer.destinations := by
  cases h with
  | offered hread hvalues =>
    have hreads := decoder_object_eq_ok.mp hread
    simp only [Record.reads_seq, Record.reads_map] at hreads
    obtain ⟨_, -, destinations, hdestinations, rfl⟩ := hreads
    exact forall₂_of_read hdestinations hvalues
  | offeredInOrder hread =>
    obtain ⟨read, hfields, hend⟩ := bind_eq_ok.mp hread
    obtain rfl : read = _ := Except.ok.inj hend
    have hreads : Record.Reads _ _ (· = read) := ⟨read, mapError_eq_ok.mp hfields, rfl⟩
    simp only [Record.reads_seq, Record.reads_map] at hreads
    obtain ⟨_, -, destinations, hdestinations, rfl⟩ := hreads
    exact forall₂_of_read hdestinations rfl

theorem Lists.forall₂_found {query : SymbolQuery} {symbols : List Symbol} {values : List Json}
    (h : Lists ⟨.searchSymbols query, .ok symbols⟩ values) :
    List.Forall₂ (fun j s => Symbol.decode j = .ok s) values symbols := by
  cases h with
  | found hread => exact mapM_eq_ok.mp hread

theorem Lists.isQuery {event : CallEvent} {values : List Json} (h : Lists event values) :
    event.1.isQuery := by
  cases h <;> rfl

/-! ## Values that stand for rows -/

/-- What is let through of some results stands for what is let through of the items. -/
theorem exists_sublist_of_forall₂ {α β : Type} {R : α → β → Prop} {items : List α}
    {results : List β} (h : List.Forall₂ R items results) (keeps : β → Bool) :
    ∃ kept, kept.Sublist items ∧ List.Forall₂ R kept (results.filter keeps) := by
  induction h with
  | nil => exact ⟨[], .slnil, .nil⟩
  | @cons item result items results hitem _ ih =>
    obtain ⟨kept, hkept, hresults⟩ := ih
    by_cases hkeeps : keeps result
    · rw [List.filter_cons_of_pos hkeeps]
      exact ⟨item :: kept, hkept.cons_cons item, .cons hitem hresults⟩
    · rw [List.filter_cons_of_neg hkeeps]
      exact ⟨kept, hkept.cons item, hresults⟩

theorem exists_getElem?_of_forall₂ {α β : Type} {R : α → β → Prop} {items : List α}
    {results : List β} (h : List.Forall₂ R items results) {i : Nat} {result : β}
    (hi : results[i]? = some result) : ∃ item, items[i]? = some item ∧ R item result := by
  induction h generalizing i with
  | nil => cases hi
  | @cons item _ _ _ hitem _ ih =>
    cases i with
    | zero =>
      obtain rfl := Option.some.inj hi
      exact ⟨item, rfl, hitem⟩
    | succ i => exact ih hi

theorem forall₂_comp {α β γ : Type} {R : α → β → Prop} {S : β → γ → Prop} {as : List α}
    {bs : List β} {cs : List γ} (h : List.Forall₂ R as bs) (h' : List.Forall₂ S bs cs) :
    List.Forall₂ (fun a c => ∃ b, R a b ∧ S b c) as cs := by
  induction h generalizing cs with
  | nil =>
    cases h'
    exact .nil
  | cons hab _ ih =>
    cases h' with
    | cons hbc hrest => exact .cons ⟨_, hab, hbc⟩ (ih hrest)

/-- The candidates of an errand that has asked once are read from the values that were listed in
reply, or they are scopes. -/
theorem Errand.Offers.of_lists {errand : Errand} {before : List CallEvent}
    {candidates : List Candidate} (h : errand.Offers before candidates) {event : CallEvent}
    {values : List Json} (hlists : Lists event values) (hevent : event ∈ before)
    (honly : ∀ other ∈ before, other.1.isQuery → other = event) :
    (∃ picks destinations, picks.Sublist values ∧
        List.Forall₂ Destination.ReadFrom picks destinations ∧
        candidates = destinations.map .destination) ∨
      ∃ scopes : List String, candidates = scopes.map .scope := by
  induction h with
  | queried hquery hoffer =>
    obtain rfl := honly _ hoffer rfl
    obtain ⟨picks, hpicks, hread⟩ := exists_sublist_of_forall₂ hlists.forall₂_offered _
    exact .inl ⟨picks, _, hpicks, hread.imp fun _ _ => .offered, rfl⟩
  | searched hsearch hsymbols =>
    obtain rfl := honly _ hsymbols rfl
    obtain ⟨picks, hpicks, hread⟩ := exists_sublist_of_forall₂ hlists.forall₂_found _
    refine .inl ⟨picks, _, hpicks, ?_, List.map_map.symm⟩
    exact List.forall₂_map_right_iff.mpr (hread.imp fun _ _ => .found)
  | scopes => exact .inr ⟨_, rfl⟩
  | branches => cases hevent
  | inBranch hi hoffers ih =>
    rcases List.mem_cons.mp hevent with rfl | hevent
    · cases hlists.isQuery
    · exact ih hevent fun other hother => honly other (List.mem_cons_of_mem _ hother)

/-- An errand asks once at most, so that a query in a run is the only one. -/
theorem Errand.query_unique {errand : Errand} {events : List CallEvent}
    {result : Except Problem Outcome} (h : Runs errand.flow events result) {event other : CallEvent}
    (hevent : event ∈ events) (hquery : event.1.isQuery) (hother : other ∈ events)
    (hquery' : other.1.isQuery) : other = event := by
  have hlength : (events.filter (·.1.isQuery)).length ≤ 1 := by
    have honce := errand.queriesOnce events result h
    rwa [queries, List.filter_map, List.length_map] at honce
  have hmem : event ∈ events.filter (·.1.isQuery) := List.mem_filter.mpr ⟨hevent, hquery⟩
  have hmem' : other ∈ events.filter (·.1.isQuery) := List.mem_filter.mpr ⟨hother, hquery'⟩
  obtain ⟨only, honly⟩ := List.length_eq_one_iff.mp
    (Nat.le_antisymm hlength (List.length_pos_of_mem hmem))
  rw [honly, List.mem_singleton] at hmem hmem'
  rw [hmem, hmem']

/-! ## Requests for moves -/

theorem MoveRequest.get?_destination (request : MoveRequest) :
    request.toJson.get? "destination" = request.destination.map Destination.toJson := by
  simp [toJson, objectOf_eq, get?]

/-- What is chosen among destinations is what the move is to. -/
theorem Errand.Takes.destination_eq {errand : Errand} {chosen : Candidate} {after : List CallEvent}
    {result : Except Problem Outcome} (h : errand.Takes chosen after result)
    {request : MoveRequest} {reply : Except Failure (Option RefactoringResult)}
    (hmove : (⟨.move request, reply⟩ : CallEvent) ∈ after) :
    (∀ destination, chosen = .destination destination → request.destination = some destination) ∧
      ∀ scope, chosen ≠ .scope scope := by
  have hcommitted : Call.move request ∈ commitments after := mem_commitments hmove rfl
  cases h with
  | moved hmoved hdestination =>
    rw [hmoved, List.mem_singleton] at hcommitted
    obtain rfl := Call.move.inj hcommitted
    refine ⟨?_, fun _ => Candidate.noConfusion⟩
    rintro _ ⟨⟩
    exact hdestination
  | stayed _ _ hstayed =>
    rw [hstayed] at hcommitted
    cases hcommitted
  | given hgiven =>
    rw [hgiven, List.mem_singleton] at hcommitted
    cases hcommitted
  | branched => exact ⟨fun _ => Candidate.noConfusion, fun _ => Candidate.noConfusion⟩

/-- Where the user chooses a row among the values that the server has listed in reply to a query,
and a move is requested, the rows stand for some of the values in their order, and the move is to
what was read from the value of the chosen row.  The request holds that value, up to the order of
members, if and only if it was spelled out. -/
theorem Service.destination_same_iff {service : Service} {before after : List CallEvent}
    {rows : List PickItem} {question : String} {i : Nat} {result : Except Problem Outcome}
    (h : Runs service.flow (before ++ ⟨.pick rows question, .ok (some i)⟩ :: after) result)
    (hi : i < rows.length) {event : CallEvent} {values : List Json} (hevent : event ∈ before)
    (hlists : Lists event values) {request : MoveRequest}
    {reply : Except Failure (Option RefactoringResult)}
    (hmove : (⟨.move request, reply⟩ : CallEvent) ∈ after) :
    ∃ (picks : List Json) (j : Json) (destination : Destination), picks.Sublist values ∧
      List.Forall₂ (fun j row => ∃ d, Destination.ReadFrom j d ∧
        (Candidate.destination d).ShownAs before row) picks rows ∧
      picks[i]? = some j ∧ destination.ReadFrom j ∧
      request.toJson.get? "destination" = some destination.toJson ∧
      (destination.toJson.Same j ↔ destination.SpelledOut j) := by
  rw [service.flow_eq] at h
  obtain ⟨candidates, chosen, hoffers, hshown, hchosen, -, htakes⟩ := Errand.takesChosen h hi
  obtain ⟨hdestination, hscope⟩ := htakes.destination_eq hmove
  have honly : ∀ other ∈ before, other.1.isQuery → other = event := fun other hother hquery =>
    Errand.query_unique h (List.mem_append_left _ hevent) hlists.isQuery
      (List.mem_append_left _ hother) hquery
  rcases hoffers.of_lists hlists hevent honly with
    ⟨picks, destinations, hpicks, hread, rfl⟩ | ⟨scopes, rfl⟩
  · rw [List.getElem?_map] at hchosen
    obtain ⟨destination, hpicked, rfl⟩ := Option.map_eq_some_iff.mp hchosen
    obtain ⟨j, hj, hfrom⟩ := exists_getElem?_of_forall₂ hread hpicked
    refine ⟨picks, j, destination, hpicks,
      forall₂_comp hread (List.forall₂_map_left_iff.mp hshown), hj, hfrom, ?_, hfrom.same_iff⟩
    rw [request.get?_destination, hdestination destination rfl, Option.map_some]
  · rw [List.getElem?_map] at hchosen
    obtain ⟨scope, -, rfl⟩ := Option.map_eq_some_iff.mp hchosen
    exact absurd rfl (hscope scope)

/-! ## A package that is taken -/

/-- A package of which nothing is known but its name. -/
def namedOnly : PackageNode := ⟨"p", none, none, none, false, false⟩

/-- The server offers a package for a file. -/
def namedOffered : CallEvent :=
  ⟨.moveDestinations (filesQuery [.localResource ["A"]]),
    .ok (some ⟨none, [.package namedOnly]⟩)⟩

/-- The user takes the package and the file is to move there. -/
def namedTaken : List CallEvent :=
  [namedOffered] ++
    ⟨.pick [namedOnly.row none] (filesPlaceholder [.localResource ["A"]]), .ok (some 0)⟩ ::
      [⟨.move (filesMove [.localResource ["A"]] namedOnly), .ok none⟩]

/-- The package with both marks. -/
def nameAndMarks : Json := .object [("displayName", .string "p"), ("isDefaultPackage", .bool false),
  ("isParentOfSelectedFile", .bool false)]

/-- The package without the marks, which a server may leave out. -/
def bareName : Json := .object [("displayName", .string "p")]

theorem runs_namedTaken :
    Runs (Service.flow (.moveFiles [.localResource ["A"]])) namedTaken (.ok .nothingToDo) :=
  .ask (.ask (.ask (.done _)))

/-- The reply may have been either. -/
theorem lists_namedTaken {value : Json} (h : value = nameAndMarks ∨ value = bareName) :
    Lists namedOffered [value] := by
  rcases h with rfl | rfl
  · exact @Lists.offered _ _ [("destinations", .array [nameAndMarks])] _ rfl rfl
  · exact @Lists.offered _ _ [("destinations", .array [bareName])] _ rfl rfl

/-- A package with both marks is sent back as it came. -/
theorem Service.destination_same_iff_nameAndMarks :
    Runs (Service.flow (.moveFiles [.localResource ["A"]])) namedTaken (.ok .nothingToDo) ∧
      Lists namedOffered [nameAndMarks] ∧
      ∃ j, (filesMove [.localResource ["A"]] namedOnly).toJson.get? "destination" = some j ∧
        j.Same nameAndMarks := by
  refine ⟨runs_namedTaken, lists_namedTaken (.inl rfl), ?_⟩
  obtain ⟨picks, j, destination, hpicks, -, hj, hfrom, hdestination, hiff⟩ :=
    Service.destination_same_iff runs_namedTaken Nat.one_pos (List.mem_singleton_self _)
      (lists_namedTaken (.inl rfl)) (List.mem_singleton_self _)
  obtain rfl : j = nameAndMarks :=
    List.mem_singleton.mp (hpicks.subset (List.mem_of_getElem? hj))
  refine ⟨_, hdestination, hiff.mpr ?_⟩
  have hdecode : Destination.decode nameAndMarks = .ok (.package namedOnly) := rfl
  obtain rfl : destination = .package namedOnly := by
    cases hfrom with
    | offered h => exact Except.ok.inj (h.symm.trans hdecode)
    | found h => cases h
  refine spells_object_iff.mpr ⟨?_, ?_, fun key hkey => ?_⟩
  · simp [member?, Anything]
  · simp [member?]
  · obtain ⟨value, hvalue⟩ := Option.isSome_iff_exists.mp hkey
    have hmem := List.mem_map_of_mem (f := Prod.fst) (mem_of_member?_eq_some hvalue)
    exact List.mem_append_left _ hmem

/-- A package is sent with marks that did not come with it. -/
theorem Service.not_forall_destination_same :
    ¬ ∀ (service : Service) (before after : List CallEvent) (rows : List PickItem)
      (question : String) (i : Nat) (result : Except Problem Outcome) (event : CallEvent)
      (values : List Json) (request : MoveRequest)
      (reply : Except Failure (Option RefactoringResult)),
      Runs service.flow (before ++ ⟨.pick rows question, .ok (some i)⟩ :: after) result →
        i < rows.length → event ∈ before → Lists event values →
        (⟨.move request, reply⟩ : CallEvent) ∈ after →
        ∃ value ∈ values, ∃ j, request.toJson.get? "destination" = some j ∧ j.Same value := by
  intro h
  obtain ⟨value, hvalue, j, hj, hsame⟩ := h _ _ _ _ _ _ _ _ _ _ _ runs_namedTaken Nat.one_pos
    (List.mem_singleton_self _) (lists_namedTaken (.inr rfl)) (List.mem_singleton_self _)
  obtain rfl : value = bareName := List.mem_singleton.mp hvalue
  obtain rfl := Option.some.inj hj
  cases hsame [.key "isDefaultPackage"]

end Refactoring
