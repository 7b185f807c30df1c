/-
**Trails to the goal are connections.**

The goal stands behind the nodes, and no edge of a well-formed graph leads there: a trail to the goal
follows edges up to a node and then takes a target of that node. A connection that is found is
therefore a source, edges of the airway, and a target that fit together (`Connection.Joins`). The other
way round every walk between a source and a target is a trail to the goal.

* `connection?_joins`: what a connection is;
* `connection?_isLeast`: on exact lengths, none of them negative, no way between a source and a target
  is shorter than the connection.
-/

import FlightRoute.Proofs.Distance.Exact
import FlightRoute.Proofs.Graph.Walk
import FlightRoute.Proofs.Search.Minimal

namespace FlightRoute

open Search (Arc Trail)

variable {α : Type}

/-- A connection that begins with a source, follows edges of the airway and ends with a target. -/
structure Connection.Joins (connection : Connection) (graph : Graph α) (sources targets : List (Nat × α))
    (airway : Option String) (edges : List (Edge α)) (finish : Nat) (before after : α) : Prop where
  source : sources[connection.source]? = some (connection.start, before)
  follows : graph.Follows connection.start connection.hops edges finish
  along : ∀ edge ∈ edges, airway.all (· == edge.airway) = true
  target : targets[connection.target]? = some (finish, after)

namespace Graph

variable {graph : Graph α} {sources targets : List (Nat × α)} {airway : Option String}

/-! ### The arcs of a node -/

theorem mem_targetArcs {node : Nat} {arc : Arc α} :
    arc ∈ graph.targetArcs targets node ↔
      targets[arc.label]? = some (node, arc.cost) ∧ arc.target = graph.size := by
  unfold targetArcs
  rw [List.mem_map]
  constructor
  · rintro ⟨⟨⟨place, cost⟩, index⟩, member, rfl⟩
    obtain ⟨member, here⟩ := List.mem_filter.mp member
    have same : place = node := beq_iff_eq.mp here
    exact ⟨same ▸ List.mem_zipIdx_iff_getElem?.mp member, rfl⟩
  · rintro ⟨found, goal⟩
    refine ⟨((node, arc.cost), arc.label), List.mem_filter.mpr ⟨?_, beq_self_eq_true _⟩, ?_⟩
    · exact List.mem_zipIdx_iff_getElem?.mpr found
    · rw [← goal]

theorem mem_edgeArcs {edges : Array (Edge α)} {arc : Arc α} :
    arc ∈ edgeArcs edges airway ↔
      ∃ edge, edges[arc.label]? = some edge ∧ airway.all (· == edge.airway) = true ∧
        arc.target = edge.target ∧ arc.cost = edge.distance := by
  unfold edgeArcs
  rw [List.mem_map]
  constructor
  · rintro ⟨⟨edge, index⟩, member, rfl⟩
    obtain ⟨member, label⟩ := List.mem_filter.mp member
    refine ⟨edge, ?_, label, rfl, rfl⟩
    rw [← Array.getElem?_toList]
    exact List.mem_zipIdx_iff_getElem?.mp member
  · rintro ⟨edge, found, label, target, cost⟩
    refine ⟨(edge, arc.label), List.mem_filter.mpr ⟨?_, label⟩, ?_⟩
    · rw [← Array.getElem?_toList] at found
      exact List.mem_zipIdx_iff_getElem?.mpr found
    · rw [← target, ← cost]

theorem arcs_eq_ok {node : Nat} {arcs : List (Arc α)} :
    (graph.network targets airway).arcs node = .ok arcs ↔
      ∃ edges, graph.outgoing[node]? = some edges ∧
        graph.targetArcs targets node ++ edgeArcs edges airway = arcs := by
  unfold network
  simp only [bind_eq_ok, edgesFrom_eq_ok, pure_eq_ok, Except.ok.injEq]

/-- **An arc of a node** is one of its targets or one of its edges. -/
theorem arc_cases {node : Nat} {arcs : List (Arc α)} {arc : Arc α}
    (leaving : (graph.network targets airway).arcs node = .ok arcs) (member : arc ∈ arcs) :
    (targets[arc.label]? = some (node, arc.cost) ∧ arc.target = graph.size) ∨
      ∃ edge, graph.edge ⟨node, arc.label⟩ = .ok edge ∧ airway.all (· == edge.airway) = true ∧
        arc.target = edge.target ∧ arc.cost = edge.distance := by
  obtain ⟨edges, found, rfl⟩ := arcs_eq_ok.mp leaving
  rcases List.mem_append.mp member with target | edge
  · exact Or.inl (mem_targetArcs.mp target)
  · obtain ⟨edge, here, label, target, cost⟩ := mem_edgeArcs.mp edge
    exact Or.inr ⟨edge, edge_eq_ok.mpr ⟨edges, found, here⟩, label, target, cost⟩

/-! ### Trails -/

variable [Distance α]

/-- The length of edges behind a length. -/
def lengthBehind (before : α) (edges : List (Edge α)) : α :=
  (edges.map (·.distance)).foldl Distance.add before

/-- **A trail to a node** follows edges of the airway from its source. -/
theorem leads_follows (wellFormed : graph.WellFormed) {trail : Trail} {node : Nat} {cost : α}
    (leads : (graph.network targets airway).Leads sources trail node cost)
    (inside : node < graph.size) :
    ∃ edges before, sources[trail.seed]? = some (trail.start, before) ∧
      graph.Follows trail.start trail.hops.reverse edges node ∧
      (∀ edge ∈ edges, airway.all (· == edge.airway) = true) ∧ cost = lengthBehind before edges := by
  induction leads with
  | seed place => exact ⟨[], _, place, .stay inside, by simp, rfl⟩
  | @arc trail vertex cost arcs arc leads leaving member ih =>
    rcases arc_cases leaving member with ⟨_, goal⟩ | ⟨edge, found, label, target, length⟩
    · rw [goal] at inside
      exact absurd inside (Nat.lt_irrefl _)
    · obtain ⟨edgesFrom, leave, _⟩ := arcs_eq_ok.mp leaving
      have here : vertex < graph.size := wellFormed.lt_of_outgoing leave
      obtain ⟨edges, before, source, follows, along, rfl⟩ := ih here
      refine ⟨edges ++ [edge], before, source, ?_, ?_, ?_⟩
      · rw [List.reverse_cons, target]
        exact follows.snoc found (wellFormed.edge_lt found)
      · intro other member
        rcases List.mem_append.mp member with old | new
        · exact along other old
        · rw [List.mem_singleton.mp new]
          exact label
      · unfold lengthBehind
        rw [List.map_append, List.foldl_append, length]
        rfl

/-- **A trail to the goal** follows edges up to a node and takes a target there. -/
theorem leads_joins (wellFormed : graph.WellFormed) {trail : Trail} {last : Search.Hop}
    {earlier : List Search.Hop} {cost : α} (hops : trail.hops = last :: earlier)
    (leads : (graph.network targets airway).Leads sources trail graph.size cost) :
    ∃ edges finish before after,
      Connection.Joins ⟨trail.seed, last.label, trail.start, earlier.reverse⟩ graph sources targets
        airway edges finish before after ∧
      cost = Distance.add (lengthBehind before edges) after ∧ last.vertex = finish := by
  generalize goal : graph.size = node at leads
  cases leads with
  | seed place => cases hops
  | @arc trail vertex cost arcs arc leads leaving member =>
    cases hops
    rcases arc_cases leaving member with ⟨target, _⟩ | ⟨edge, found, _, target, _⟩
    · obtain ⟨edgesFrom, leave, _⟩ := arcs_eq_ok.mp leaving
      have here : vertex < graph.size := wellFormed.lt_of_outgoing leave
      obtain ⟨edges, before, source, follows, along, rfl⟩ := leads_follows wellFormed leads here
      exact ⟨edges, vertex, before, arc.cost, ⟨source, follows, along, target⟩, rfl, rfl⟩
    · have beyond : edge.target < graph.size := wellFormed.edge_lt found
      rw [← target, ← goal] at beyond
      exact absurd beyond (Nat.lt_irrefl _)

/-- A walk along edges of the airway continues a trail. -/
theorem Walk.leads {node finish : Nat} {edges : List (Edge α)} (walk : graph.Walk node edges finish)
    (along : ∀ edge ∈ edges, airway.all (· == edge.airway) = true) {trail : Trail} {cost : α}
    (leads : (graph.network targets airway).Leads sources trail node cost) :
    ∃ longer, (graph.network targets airway).Leads sources longer finish
      (lengthBehind cost edges) := by
  induction walk generalizing trail cost with
  | stay _ => exact ⟨trail, leads⟩
  | @edge node finish leaving edge rest found member _ ih =>
    obtain ⟨label, here⟩ := Array.mem_iff_getElem?.mp member
    have arc : (⟨label, edge.target, edge.distance⟩ : Arc α) ∈
        graph.targetArcs targets node ++ edgeArcs leaving airway := by
      refine List.mem_append_right _ (mem_edgeArcs.mpr ⟨edge, here, ?_, rfl, rfl⟩)
      exact along edge List.mem_cons_self
    have further := Search.Network.Leads.arc leads (arcs_eq_ok.mpr ⟨leaving, found, rfl⟩) arc
    exact ih (fun other inside => along other (List.mem_cons_of_mem _ inside)) further

/-- A walk between a source and a target is a trail to the goal. -/
theorem Walk.leads_goal (wellFormed : graph.WellFormed) {start finish : Nat} {before after : α}
    {edges : List (Edge α)} (source : (start, before) ∈ sources)
    (walk : graph.Walk start edges finish)
    (along : ∀ edge ∈ edges, airway.all (· == edge.airway) = true)
    (target : (finish, after) ∈ targets) :
    ∃ trail, (graph.network targets airway).Leads sources trail graph.size
      (Distance.add (lengthBehind before edges) after) := by
  obtain ⟨index, place⟩ := List.mem_iff_getElem?.mp source
  obtain ⟨label, here⟩ := List.mem_iff_getElem?.mp target
  have seed : (graph.network targets airway).Leads sources ⟨index, start, []⟩ start before :=
    .seed place
  obtain ⟨trail, leads⟩ := walk.leads along seed
  obtain ⟨edgesFrom, leave⟩ := wellFormed.outgoing_of_lt walk.finish_lt
  have arc : (⟨label, graph.size, after⟩ : Arc α) ∈
      graph.targetArcs targets finish ++ edgeArcs edgesFrom airway :=
    List.mem_append_left _ (mem_targetArcs.mpr ⟨here, rfl⟩)
  have leaving : (graph.network targets airway).arcs finish = .ok _ :=
    arcs_eq_ok.mpr ⟨edgesFrom, leave, rfl⟩
  exact ⟨_, .arc leads leaving arc⟩

/-! ### Connections -/

theorem connection?_eq_ok {cancel : Option CancelFlag} {connection : Connection}
    (found : graph.connection? sources targets airway cancel = .ok (some connection)) :
    ∃ trail last earlier,
      Search.shortest (graph.network targets airway) sources graph.size cancel = .ok (some trail) ∧
      trail.hops = last :: earlier ∧
      connection = ⟨trail.seed, last.label, trail.start, earlier.reverse⟩ := by
  unfold connection? at found
  obtain ⟨outcome, searched, found⟩ := bind_eq_ok.mp found
  cases outcome with
  | none => cases found
  | some trail =>
    dsimp only at found
    cases hops : trail.hops with
    | nil =>
      rw [hops] at found
      cases found
    | cons last earlier =>
      rw [hops] at found
      cases found
      exact ⟨trail, last, earlier, searched, hops, rfl⟩

/-- **A connection that is found** is a source, edges of the airway and a target that fit. -/
theorem connection?_joins (wellFormed : graph.WellFormed) {cancel : Option CancelFlag}
    {connection : Connection}
    (found : graph.connection? sources targets airway cancel = .ok (some connection)) :
    ∃ edges finish before after,
      connection.Joins graph sources targets airway edges finish before after := by
  obtain ⟨trail, last, earlier, searched, hops, rfl⟩ := connection?_eq_ok found
  obtain ⟨cost, leads⟩ := Search.shortest_leads searched
  obtain ⟨edges, finish, before, after, joins, _⟩ := leads_joins wellFormed hops leads
  exact ⟨edges, finish, before, after, joins⟩

/-- Edges without negative lengths. -/
def Nonnegative [Zero α] [LE α] (graph : Graph α) : Prop :=
  ∀ edges ∈ graph.outgoing, ∀ edge ∈ edges, 0 ≤ edge.distance

instance instDecidableNonnegative [Zero α] [LE α] [DecidableLE α] (graph : Graph α) :
    Decidable graph.Nonnegative :=
  inferInstanceAs (Decidable (∀ edges ∈ graph.outgoing, ∀ edge ∈ edges, 0 ≤ edge.distance))

section Exact

variable [AddCommMonoid α] [LinearOrder α] [Distance.Exact α]

theorem lengthBehind_eq (before : α) (edges : List (Edge α)) :
    lengthBehind before edges = before + (edges.map (·.distance)).sum := by
  unfold lengthBehind
  induction edges generalizing before with
  | nil => simp
  | cons edge rest ih =>
    rw [List.map_cons, List.foldl_cons, ih, Distance.add_eq, List.sum_cons, add_assoc]

omit [Distance α] [Distance.Exact α] in
theorem network_nonnegative (nonnegative : graph.Nonnegative)
    (ends : ∀ target ∈ targets, 0 ≤ target.2) : (graph.network targets airway).Nonnegative := by
  intro node arcs arc leaving member
  rcases arc_cases leaving member with ⟨target, _⟩ | ⟨edge, found, _, _, length⟩
  · exact ends _ (List.mem_of_getElem? target)
  · obtain ⟨edges, leave, here⟩ := edge_eq_ok.mp found
    rw [length]
    exact nonnegative _ (Array.mem_of_getElem? leave) _ (Array.mem_of_getElem? here)

/-- **No way between a source and a target is shorter** than a connection that is found. -/
theorem connection?_isLeast [IsOrderedAddMonoid α] (wellFormed : graph.WellFormed)
    (nonnegative : graph.Nonnegative) (ends : ∀ target ∈ targets, 0 ≤ target.2)
    {cancel : Option CancelFlag} {connection : Connection}
    (found : graph.connection? sources targets airway cancel = .ok (some connection)) :
    ∃ edges finish before after,
      connection.Joins graph sources targets airway edges finish before after ∧
      ∀ start other first last way, (start, first) ∈ sources → graph.Walk start way other →
        (∀ edge ∈ way, airway.all (· == edge.airway) = true) → (other, last) ∈ targets →
        before + (edges.map (·.distance)).sum + after ≤
          first + (way.map (·.distance)).sum + last := by
  obtain ⟨trail, last, earlier, searched, hops, rfl⟩ := connection?_eq_ok found
  obtain ⟨cost, leads, least⟩ :=
    Search.shortest_isLeast (network_nonnegative nonnegative ends) searched
  obtain ⟨edges, finish, before, after, joins, length, _⟩ := leads_joins wellFormed hops leads
  refine ⟨edges, finish, before, after, joins, ?_⟩
  intro start other first last way source walk along target
  obtain ⟨longer, reaches⟩ := walk.leads_goal wellFormed source along target
  have bound : cost ≤ _ := least longer _ reaches
  rw [length, Distance.add_eq, Distance.add_eq, lengthBehind_eq, lengthBehind_eq] at bound
  exact bound

end Exact

end Graph

end FlightRoute
