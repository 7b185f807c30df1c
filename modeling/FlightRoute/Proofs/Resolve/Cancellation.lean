/-
**Calling a request off only takes results away.**

A request looks at its flag where it searches: along the airways of its literal segments, and for its commands.
Under a raised flag it ends as it does without a flag, or it is called off; a flag that is not raised is as good
as none. A request that looks for a shortest path, for a command or along an airway, is not resolved under a
raised flag.

* `literalSegment_cutShort`, `fillAll_cutShort`, `resolveTokens_cutShort`: the steps of a request;
* `Resolver.Searches`, `resolveTokens_raised`: requests that look for a shortest path;
* `resolve_onlyRemoves`: whole requests.
-/

import FlightRoute.Proofs.Cancellation
import FlightRoute.Proofs.Resolve.Neighbours
import FlightRoute.Proofs.RandomWalk.Genuine

namespace FlightRoute.Resolver

variable {σ α : Type}

/-- The resolver under another flag. -/
def under (resolver : Resolver σ α) (cancel : Option CancelFlag) : Resolver σ α :=
  { resolver with cancel }

variable [Distance α] {resolver : Resolver σ α} {graph : Graph α} {flight : Flight}
  {segments : List Segment} {tokens : List Token}

/-! ### The steps of a request -/

/-- **A literal segment under a flag.** -/
theorem literalSegment_cutShort (isFirst isLast : Bool) (tokens : List Token) :
    CutShort resolver.cancel (resolver.literalSegment graph flight isFirst isLast tokens)
      ((resolver.under none).literalSegment graph flight isFirst isLast tokens) := by
  rw [literalSegment_eq, literalSegment_eq]
  refine (CutShort.refl _).bind fun ⟨front, behind⟩ _ => (CutShort.refl _).bind fun ⟨back, middle⟩ _ => ?_
  exact ((resolver.bodyRun graph flight isFirst isLast front back).resolve_cutShort middle).bind
    fun _ _ => .refl _

theorem piecesFrom_cutShort (isFirst : Bool) (segments : List Segment) :
    CutShort resolver.cancel (resolver.piecesFrom graph flight isFirst segments)
      ((resolver.under none).piecesFrom graph flight isFirst segments) := by
  induction segments generalizing isFirst with
  | nil => exact .refl _
  | cons segment rest ih =>
    rw [piecesFrom_cons, piecesFrom_cons]
    refine CutShort.bind ?_ fun piece _ => (ih false).bind fun _ _ => .refl _
    cases segment with
    | literal tokens =>
      exact (literalSegment_cutShort isFirst rest.isEmpty tokens).bind fun _ _ => .refl _
    | auto => exact .refl _
    | rand => exact .refl _

theorem autoFill_cutShort (gap : Gap) :
    CutShort resolver.cancel (resolver.autoFill graph flight gap)
      ((resolver.under none).autoFill graph flight gap) := by
  rw [autoFill_eq, autoFill_eq]
  refine (CutShort.refl _).bind fun start _ => (CutShort.refl _).bind fun finish _ => ?_
  exact ShortestRoute.find_cutShort graph start finish

/-- **A fill under a flag.** -/
theorem fill_cutShort (random : resolver.random.CutShort) (draws : σ) (fill : Fill α) :
    DrawsShort resolver.cancel (resolver.fill graph flight draws fill)
      ((resolver.under none).fill graph flight draws fill) := by
  cases fill with
  | done route => exact Or.inl rfl
  | auto gap => exact (autoFill_cutShort gap).draws draws
  | rand gap => exact random graph resolver.settings resolver.cancel _ _ draws

/-- The first fill that fails is what fails. -/
theorem fillAll_failed {draws : σ} {first : Fill α} {rest : List (Fill α)} {failure : RouteError}
    (failed : (resolver.fill graph flight draws first).1 = .error failure ∨
      ∃ route middle, resolver.fill graph flight draws first = (.ok route, middle) ∧
        (resolver.fillAll graph flight middle rest).1 = .error failure) :
    (resolver.fillAll graph flight draws (first :: rest)).1 = .error failure := by
  unfold fillAll
  rcases failed with here | ⟨route, middle, here, there⟩
  · rcases made : resolver.fill graph flight draws first with ⟨_ | _, behind⟩
    · rw [made] at here
      cases here
      rfl
    · rw [made] at here
      cases here
  · rw [here]
    dsimp only
    rcases made : resolver.fillAll graph flight middle rest with ⟨_ | _, behind⟩
    · rw [made] at there
      cases there
      rfl
    · rw [made] at there
      cases there

/-- **Fills one after the other.** -/
theorem fillAll_cutShort (random : resolver.random.CutShort) (draws : σ) (fills : List (Fill α)) :
    DrawsShort resolver.cancel (resolver.fillAll graph flight draws fills)
      ((resolver.under none).fillAll graph flight draws fills) := by
  induction fills generalizing draws with
  | nil => exact Or.inl rfl
  | cons first rest ih =>
    rcases fill_cutShort random draws first with same | ⟨failure, failed, off⟩
    · rcases made : (resolver.under none).fill graph flight draws first with ⟨failure | route, middle⟩
      · rw [DrawsShort, fillAll, fillAll, same, made]
        exact Or.inl rfl
      · rcases ih middle with alike | ⟨failure, failed, off⟩
        · rw [DrawsShort, fillAll, fillAll, same, made]
          dsimp only
          rw [alike]
          exact Or.inl rfl
        · exact Or.inr ⟨failure, fillAll_failed (Or.inr ⟨route, middle, same.trans made, failed⟩), off⟩
    · exact Or.inr ⟨failure, fillAll_failed (Or.inl failed), off⟩

/-- **Tokens under a flag.** -/
theorem resolveTokens_cutShort (random : resolver.random.CutShort) (tokens : List Token) (draws : σ) :
    DrawsShort resolver.cancel (resolver.resolveTokens graph flight tokens draws)
      ((resolver.under none).resolveTokens graph flight tokens draws) := by
  have reads : CutShort resolver.cancel (Segment.group tokens >>= resolver.pieces graph flight)
      (Segment.group tokens >>= (resolver.under none).pieces graph flight) :=
    (CutShort.refl _).bind fun segments _ => piecesFrom_cutShort true segments
  unfold resolveTokens
  rcases reads with same | ⟨failure, failed, off⟩
  · rw [same]
    rcases Segment.group tokens >>= (resolver.under none).pieces graph flight with failure | pieces
    · exact Or.inl rfl
    · dsimp only
      have fills : DrawsShort _ (resolver.fillAll graph flight draws (Piece.plan pieces)) _ :=
        fillAll_cutShort random draws _
      rcases fills with alike | ⟨failure, failed, off⟩
      · rw [alike]
        exact Or.inl rfl
      · refine Or.inr ⟨failure, ?_, off⟩
        rcases made : resolver.fillAll graph flight draws (Piece.plan pieces) with ⟨_ | _, behind⟩
        · rw [made] at failed
          cases failed
          rfl
        · rw [made] at failed
          cases failed
  · rw [failed]
    exact Or.inr ⟨failure, rfl, off⟩

/-! ### Requests that search -/

/-- Segments are resolved by a shortest path, for a command or along an airway. What may fail before that is
left out. -/
inductive Searches (resolver : Resolver σ α) (graph : Graph α) (flight : Flight)
    (segments : List Segment) : Prop
  /-- For a command. -/
  | auto : .auto ∈ segments → Searches resolver graph flight segments
  /-- Along an airway of a literal segment, between its departure and its arrival. -/
  | airway {position : Nat} {tokens behind middle : List Token} {front back : Option (Route α)} :
      segments[position]? = some (.literal tokens) →
      resolver.head graph flight (position == 0) tokens = .ok (front, behind) →
      resolver.tail graph flight (position + 1 == segments.length) behind = .ok (back, middle) →
      (resolver.bodyRun graph flight (position == 0) (position + 1 == segments.length) front
        back).Searches middle →
      Searches resolver graph flight segments

/-- **Under a raised flag** tokens that take a shortest path are not resolved. -/
theorem resolveTokens_raised {failure : RouteError} (raised : checkCancel resolver.cancel = .error failure)
    (grouped : Segment.group tokens = .ok segments)
    (searches : (resolver.under none).Searches graph flight segments) (draws : σ) (whole : Route α) :
    (resolver.resolveTokens graph flight tokens draws).1 ≠ .ok whole := by
  intro resolved
  obtain ⟨own, pieces, routes, behind, again, read, filled, _⟩ := resolveTokens_eq_ok.mp resolved
  cases grouped.symm.trans again
  cases searches with
  | auto member =>
    obtain ⟨position, here⟩ := List.mem_iff_getElem?.mp member
    obtain ⟨piece, made, found⟩ := piecesFrom_pieceOf read here
    cases made
    obtain ⟨route, auto⟩ := autoFill_of_fillAll filled found
    rw [autoFill_eq] at auto
    obtain ⟨start, _, auto⟩ := bind_eq_ok.mp auto
    obtain ⟨finish, _, auto⟩ := bind_eq_ok.mp auto
    exact ShortestRoute.find_raised graph raised start finish route auto
  | @airway position run left middle front back here head tail along =>
    obtain ⟨piece, made, _⟩ := piecesFrom_pieceOf read here
    obtain ⟨route, segment, _⟩ := bind_eq_ok.mp made
    obtain ⟨_, _, body, _, ⟨⟨_, departed, arrived⟩, followed⟩, _⟩ := literalSegment_eq_ok.mp segment
    rw [Bool.true_and] at departed followed
    -- Neither the departure nor the arrival looks at the flag.
    change resolver.head graph flight (position == 0) run = _ at head
    change resolver.tail graph flight (position + 1 == segments.length) left = _ at tail
    cases head.symm.trans departed
    cases tail.symm.trans arrived
    let between :=
      resolver.bodyRun graph flight (position == 0) (position + 1 == segments.length) front back
    have off : checkCancel between.cancel = .error failure := raised
    exact LiteralRun.resolve_raised off along body followed

/-! ### Whole requests -/

/-- **A request under a flag.** -/
theorem resolve_cutShort (graph : Graph α) (random : resolver.random.CutShort) (request : RouteRequest)
    (draws : σ) :
    resolver.resolve graph request draws = (resolver.under none).resolve graph request draws ∨
      ∃ failure, (resolver.resolve graph request draws).outcome = .error failure ∧
        CalledOff resolver.cancel failure := by
  unfold resolve
  have known : (resolver.under none).flight request = resolver.flight request := rfl
  rw [known]
  cases resolver.flight request with
  | error failure => exact Or.inl rfl
  | ok flight =>
    dsimp only
    cases tokensOf request with
    | error failure => exact Or.inl rfl
    | ok tokens =>
      cases tokens with
      | nil => exact Or.inl rfl
      | cons first rest =>
        let scope := resolver.coordinateScope graph (first :: rest)
        refine (resolveTokens_cutShort random (first :: rest) draws).imp (fun same => ?_) id
        exact congrArg (fun result => (⟨result.1, scope.close, result.2⟩ : Resolution σ α)) same

/-- Under a raised flag a request that takes a shortest path is not resolved. -/
theorem resolve_raised {request : RouteRequest} {failure : RouteError}
    (raised : checkCancel resolver.cancel = .error failure)
    (known : resolver.flight request = .ok flight) (read : tokensOf request = .ok tokens)
    (grouped : Segment.group tokens = .ok segments)
    (searches : (resolver.under none).Searches (resolver.coordinateScope graph tokens).graph flight
      segments) (draws : σ) :
    ∃ failure, (resolver.resolve graph request draws).outcome = .error failure := by
  unfold resolve
  rw [known]
  dsimp only
  rw [read]
  cases tokens with
  | nil =>
    cases grouped
    cases searches with
    | auto member => cases member
    | airway here => cases here
  | cons first rest =>
    have refused := resolveTokens_raised raised grouped searches draws
    dsimp only
    cases outcome : (resolver.resolveTokens (resolver.coordinateScope graph (first :: rest)).graph flight
        (first :: rest) draws).1 with
    | error failure => exact ⟨failure, rfl⟩
    | ok whole => exact absurd outcome (refused whole)

/-- What a flag does to a request, and to the searches. -/
structure OnlyRemoves (resolver : Resolver σ α) (graph : Graph α) (request : RouteRequest) (draws : σ) :
    Prop where
  /-- Under a raised flag a request ends as it does without a flag, or it is called off. -/
  raised : (resolver.under (some ⟨true⟩)).resolve graph request draws =
      (resolver.under none).resolve graph request draws ∨
    ((resolver.under (some ⟨true⟩)).resolve graph request draws).outcome = .error .cancelled
  /-- So what is resolved under a raised flag is resolved to the same route without one. -/
  kept : ∀ route, ((resolver.under (some ⟨true⟩)).resolve graph request draws).outcome = .ok route →
    ((resolver.under none).resolve graph request draws).outcome = .ok route
  /-- A request that without a flag takes a shortest path fails under a raised flag. -/
  stops : ∀ flight tokens segments, resolver.flight request = .ok flight →
    tokensOf request = .ok tokens → Segment.group tokens = .ok segments →
    (resolver.under none).Searches (resolver.coordinateScope graph tokens).graph flight segments →
      ∃ failure, ((resolver.under (some ⟨true⟩)).resolve graph request draws).outcome = .error failure
  /-- A flag that is not raised is as good as none. -/
  lowered : (resolver.under (some ⟨false⟩)).resolve graph request draws =
    (resolver.under none).resolve graph request draws
  /-- No search for a shortest path ends well under a raised flag, on any graph. -/
  findsNothing : ∀ (graph : Graph α) (route : Route α),
    (∀ start finish, ShortestRoute.find graph start finish (some ⟨true⟩) ≠ .ok route) ∧
      ∀ start candidates airway,
        ShortestRoute.alongAirway graph start candidates airway (some ⟨true⟩) ≠ .ok route
  /-- Under a flag that is not raised it ends as it does without one. -/
  idle : ∀ graph : Graph α,
    (∀ start finish, ShortestRoute.find graph start finish (some ⟨false⟩) =
      ShortestRoute.find graph start finish none) ∧
      ∀ start candidates airway,
        ShortestRoute.alongAirway graph start candidates airway (some ⟨false⟩) =
          ShortestRoute.alongAirway graph start candidates airway none

/-- **Calling a request off only takes results away**, with a source of random routes that draws alike under a
flag. -/
theorem onlyRemoves (random : resolver.random.CutShort) (graph : Graph α) (request : RouteRequest)
    (draws : σ) : resolver.OnlyRemoves graph request draws := by
  have raised := (resolver.under (some ⟨true⟩)).resolve_cutShort graph random request draws
  have lowered := (resolver.under (some ⟨false⟩)).resolve_cutShort graph random request draws
  refine ⟨raised.imp id ?_, fun route resolved => ?_, fun flight tokens segments known read grouped path => ?_,
    lowered.resolve_right ?_, fun graph route => ⟨fun start finish => ?_, fun start candidates airway => ?_⟩,
    fun graph => ⟨fun start finish => ?_, fun start candidates airway => ?_⟩⟩
  · rintro ⟨failure, failed, rfl, _⟩
    exact failed
  · rcases raised with same | ⟨failure, failed, _⟩
    · exact same ▸ resolved
    · cases resolved.symm.trans failed
  · exact (resolver.under (some ⟨true⟩)).resolve_raised rfl known read grouped path draws
  · exact fun ⟨failure, _, off⟩ => not_calledOff rfl failure off
  · exact ShortestRoute.find_raised graph rfl start finish route
  · exact ShortestRoute.alongAirway_raised graph rfl start candidates airway route
  · exact (ShortestRoute.find_cutShort graph start finish).eq rfl
  · exact (ShortestRoute.alongAirway_cutShort graph start candidates airway).eq rfl

/-- **Calling a request off only takes results away**, with seeded random routes, whatever edges they take. -/
theorem resolve_onlyRemoves {τ : Type} (airports : AirportTable) (store : ProcedureStore α)
    (chooser : SearchSettings → RandomWalk.Chooser τ α) (seed : τ) (settings : SearchSettings)
    (graph : Graph α) (request : RouteRequest) (draws : σ) :
    ({ airports, store, random := RandomWalk.replayed chooser seed, settings } :
      Resolver σ α).OnlyRemoves graph request draws :=
  onlyRemoves (RandomWalk.replayed_cutShort chooser seed) graph request draws

/-- The resolver on the flat earth, with random routes along the first edges. -/
def seededPlanar : Resolver Unit ℚ where
  airports := planar.airports
  store := planar.store
  random := RandomWalk.replayed (fun _ => RandomWalk.takesFirst) ()

omit [Distance α] in
/-- Under a raised flag a request without tokens is still resolved, to the direct route that it has without a
flag; one for a shortest path fails. -/
theorem resolve_onlyRemoves_crossing :
    tokensOf ⟨"KAAA", "09", "KBBB", "27", "AUTO"⟩ = .ok [.auto] ∧
      ((seededPlanar.under (some ⟨true⟩)).resolve crossing ⟨"KAAA", "09", "KBBB", "27", ""⟩ ()).outcome =
        .ok (directRoute eastbound) ∧
      ((seededPlanar.under none).resolve crossing ⟨"KAAA", "09", "KBBB", "27", ""⟩ ()).outcome =
        .ok (directRoute eastbound) ∧
      ∃ failure, ((seededPlanar.under (some ⟨true⟩)).resolve crossing
        ⟨"KAAA", "09", "KBBB", "27", "AUTO"⟩ ()).outcome = .error failure := by
  have parsed : RouteString.parse "AUTO" = .ok [.auto] :=
    RouteString.parse_word rfl rfl rfl
  have read : tokensOf ⟨"KAAA", "09", "KBBB", "27", "AUTO"⟩ = .ok [.auto] := by
    unfold tokensOf
    dsimp only
    rw [parsed]
    rfl
  have blank : tokensOf ⟨"KAAA", "09", "KBBB", "27", ""⟩ = .ok [] := rfl
  have known : ∀ text, (seededPlanar.under (some ⟨true⟩)).flight ⟨"KAAA", "09", "KBBB", "27", text⟩ =
    .ok eastbound := planar_flight
  have straight : ((seededPlanar.under (some ⟨true⟩)).resolve crossing
      ⟨"KAAA", "09", "KBBB", "27", ""⟩ ()).outcome = .ok (directRoute eastbound) := by
    unfold resolve
    rw [known]
    dsimp only
    rw [blank]
  have removes := fun text => resolve_onlyRemoves planar.airports planar.store
    (fun _ => RandomWalk.takesFirst) () {} crossing ⟨"KAAA", "09", "KBBB", "27", text⟩ ()
  refine ⟨read, straight, (removes "").kept _ straight, ?_⟩
  exact (removes "AUTO").stops eastbound [.auto] [.auto] (planar_flight "AUTO") read rfl
    (.auto List.mem_cons_self)

end FlightRoute.Resolver
