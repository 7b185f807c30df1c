/-
**Grouping is exact, and it can be undone.**

Two scans read the tokens of a route: the check for two commands side by side, and the cutting into segments.
They refuse the same token lists, and for the same two commands, the first ones that clash (`FirstClash`). What
is not refused has exactly one canonical form: segments that are not empty, hold no commands inside, and
alternate with commands (`Canonical`). Cutting finds that form, and putting its segments together gives the
tokens back.

* `adjacentCommands_eq_some`: the check finds the first commands that clash;
* `groupAfter_eq_error_iff`: the cutting fails as the check does, whatever came before;
* `group_canonical`, `group_flatten`: canonical segments are what comes out, and they come out again;
* `grouping_exact`: both scans and both directions.
-/

import FlightRoute.Proofs.Segment

namespace FlightRoute

/-! ### Commands that are apart -/

namespace RouteString

/-- No two commands stand side by side. -/
def Apart (tokens : List Token) : Prop :=
  tokens.IsChain fun first second => ¬(first.isCommand = true ∧ second.isCommand = true)

variable {tokens rest : List Token} {first second : Token}

theorem adjacentCommands_eq_none : adjacentCommands tokens = none ↔ Apart tokens := by
  fun_induction adjacentCommands tokens with
  | case1 first second rest both =>
    refine iff_of_false nofun fun apart => ?_
    exact (List.isChain_cons_cons.mp apart).1 (Bool.and_eq_true_iff.mp both)
  | case2 first second rest single ih =>
    refine ih.trans ⟨fun apart => ?_, fun apart => (List.isChain_cons_cons.mp apart).2⟩
    exact List.isChain_cons_cons.mpr ⟨fun both => single (Bool.and_eq_true_iff.mpr both), apart⟩
  | case3 tokens short =>
    match tokens with
    | [] => exact iff_of_true rfl .nil
    | [token] => exact iff_of_true rfl (.singleton token)
    | first :: second :: rest => exact absurd rfl (short first second rest)

/-- **Tokens pass the check** when no two commands stand side by side. -/
theorem checkCommands_eq_ok : checkCommands tokens = .ok () ↔ Apart tokens := by
  rw [← adjacentCommands_eq_none]
  unfold checkCommands
  cases adjacentCommands tokens with
  | none => exact iff_of_true rfl rfl
  | some pair => exact iff_of_false nofun nofun

/-- Two commands stand side by side, and no two do before them. -/
def FirstClash (tokens : List Token) (first second : Token) : Prop :=
  ∃ front back, tokens = front ++ first :: second :: back ∧ Apart (front ++ [first]) ∧
    first.isCommand = true ∧ second.isCommand = true

/-- Two tokens that do not clash are passed over. -/
theorem adjacentCommands_skip (single : ¬(first.isCommand = true ∧ second.isCommand = true)) :
    adjacentCommands (first :: second :: rest) = adjacentCommands (second :: rest) := by
  rw [adjacentCommands, if_neg]
  simpa using single

theorem adjacentCommands_clash (command : first.isCommand = true) (also : second.isCommand = true) :
    adjacentCommands (first :: second :: rest) = some (first, second) := by
  simp [adjacentCommands, command, also]

/-- **The check finds the first commands that clash.** -/
theorem adjacentCommands_eq_some :
    adjacentCommands tokens = some (first, second) ↔ FirstClash tokens first second := by
  constructor
  · intro found
    fun_induction adjacentCommands tokens with
    | case1 a b rest both =>
      cases found
      obtain ⟨command, also⟩ := Bool.and_eq_true_iff.mp both
      exact ⟨[], rest, rfl, .singleton _, command, also⟩
    | case2 a b rest single ih =>
      obtain ⟨front, back, same, apart, commands⟩ := ih found
      have head : (front ++ [first]).head? = some b := by
        cases front <;> cases same <;> rfl
      refine ⟨a :: front, back, by rw [same]; rfl, List.isChain_cons.mpr ⟨?_, apart⟩, commands⟩
      intro next member both
      change (front ++ [first]).head? = some next at member
      rw [head] at member
      cases member
      exact single (Bool.and_eq_true_iff.mpr both)
    | case3 tokens short => cases found
  · rintro ⟨front, back, rfl, apart, command, also⟩
    induction front with
    | nil => exact adjacentCommands_clash command also
    | cons a front ih =>
      obtain ⟨link, further⟩ := List.isChain_cons.mp apart
      rw [← ih further]
      cases front with
      | nil => exact adjacentCommands_skip (link first rfl)
      | cons b front => exact adjacentCommands_skip (link b rfl)

theorem checkCommands_eq_error {failure : RouteError} :
    checkCommands tokens = .error failure ↔
      ∃ first second, FirstClash tokens first second ∧ failure = commandClash first second := by
  simp only [← adjacentCommands_eq_some]
  unfold checkCommands
  cases adjacentCommands tokens with
  | none => simp
  | some pair => simp [Prod.ext_iff, eq_comm]

end RouteString

namespace Segment

open RouteString (Apart FirstClash checkCommands commandClash)

variable {previous : Option Token} {run tokens : List Token} {segments : List Segment}

/-! ### What is refused -/

/-- A token that is no command has nothing to do with the check. -/
theorem checkCommands_behind {token : Token}
    (free : previous.filter Token.isCommand = none ∨ token.isCommand = false) :
    checkCommands (previous.toList ++ token :: tokens) = checkCommands (token :: tokens) := by
  cases previous with
  | none => rfl
  | some earlier =>
    have single : ¬(earlier.isCommand = true ∧ token.isCommand = true) := by
      rintro ⟨command, also⟩
      rcases free with none | plain
      · simp [Option.filter_some, command] at none
      · simp [plain] at also
    unfold checkCommands
    rw [Option.toList_some, List.singleton_append, RouteString.adjacentCommands_skip single]

/-- **The cutting fails as the check does**, also behind a token that was read before. -/
theorem groupAfter_eq_error_iff {failure : RouteError} :
    groupAfter previous run tokens = .error failure ↔
      checkCommands (previous.toList ++ tokens) = .error failure := by
  induction tokens generalizing previous run with
  | nil => cases previous <;> exact iff_of_false nofun nofun
  | cons token rest ih =>
    unfold groupAfter
    by_cases command : token.isCommand = true
    · rw [if_pos command]
      cases before : previous.filter Token.isCommand with
      | some earlier =>
        obtain ⟨rfl, also⟩ := Option.filter_eq_some_iff.mp before
        unfold checkCommands
        rw [Option.toList_some, List.singleton_append, RouteString.adjacentCommands_clash also command]
        simp
      | none =>
        rw [checkCommands_behind (Or.inl before), bind_eq_error, ih]
        simp
    · rw [if_neg command, ih, checkCommands_behind (Or.inr (by simpa using command))]
      rfl

theorem group_eq_error_iff {failure : RouteError} :
    group tokens = .error failure ↔ checkCommands tokens = .error failure :=
  groupAfter_eq_error_iff

/-- Tokens that are not refused are cut into segments, also behind a token that was read before. -/
theorem exists_groupAfter (apart : Apart (previous.toList ++ tokens)) :
    ∃ segments, groupAfter previous run tokens = .ok segments := by
  cases grouped : groupAfter previous run tokens with
  | ok segments => exact ⟨segments, rfl⟩
  | error failure =>
    have refused := groupAfter_eq_error_iff.mp grouped
    rw [RouteString.checkCommands_eq_ok.mpr apart] at refused
    cases refused

/-- **Tokens whose commands are apart** can be grouped. -/
theorem exists_group (apart : Apart tokens) : ∃ segments, group tokens = .ok segments :=
  exists_groupAfter apart

/-- **No other tokens** can be grouped. -/
theorem exists_group_iff : (∃ segments, group tokens = .ok segments) ↔ Apart tokens := by
  refine ⟨?_, exists_group⟩
  rintro ⟨segments, grouped⟩
  rw [← RouteString.checkCommands_eq_ok]
  cases checked : checkCommands tokens with
  | ok _ => rfl
  | error failure =>
    rw [group_eq_error_iff.mpr checked] at grouped
    cases grouped

/-! ### What comes out -/

/-- Segments as they are cut: no run is empty or holds a command, and runs and commands alternate. -/
structure Canonical (segments : List Segment) : Prop where
  nonempty : literal [] ∉ segments
  plain : ∀ run, literal run ∈ segments → ∀ token ∈ run, token.isCommand = false
  alternate : (segments.map isLiteral).IsChain (· ≠ ·)

/-- The run of a segment is not empty. -/
theorem literal_nil_notMem_ofRun (run : List Token) : literal [] ∉ ofRun run := by
  cases run <;> simp [ofRun]

theorem groupAfter_nonempty (grouped : groupAfter previous run tokens = .ok segments) :
    literal [] ∉ segments := by
  induction tokens generalizing previous run segments with
  | nil =>
    cases grouped
    exact literal_nil_notMem_ofRun run
  | cons token rest ih =>
    unfold groupAfter at grouped
    by_cases command : token.isCommand = true
    · rw [if_pos command] at grouped
      cases before : previous.filter Token.isCommand with
      | some earlier => simp [before] at grouped
      | none =>
        rw [before] at grouped
        obtain ⟨others, further, whole⟩ := bind_eq_ok.mp grouped
        cases whole
        have lone : literal [] ≠ ofCommand token := by cases token <;> simp [ofCommand]
        simp [literal_nil_notMem_ofRun, lone, ih further]
    · rw [if_neg command] at grouped
      exact ih grouped

/-- **What comes out is canonical.** -/
theorem group_canonical (grouped : group tokens = .ok segments) : Canonical segments where
  nonempty := groupAfter_nonempty grouped
  plain := groupAfter_plain grouped fun _ member => absurd member List.not_mem_nil
  alternate := group_alternates grouped

/-- Tokens that begin with none but a command begin with a run. -/
theorem group_cons (plain : token.isCommand = false) (grouped : group (token :: tokens) = .ok segments) :
    ∃ inner others, segments = .literal (token :: inner) :: others := by
  have whole := flatten_group grouped
  cases segments with
  | nil => cases whole
  | cons first others =>
    cases first with
    | auto =>
      cases whole
      cases plain
    | rand =>
      cases whole
      cases plain
    | literal inner =>
      cases inner with
      | nil => exact absurd List.mem_cons_self (group_canonical grouped).nonempty
      | cons own rest =>
        cases whole
        exact ⟨rest, others, rfl⟩

namespace Canonical

variable {segment : Segment}

theorem tail (canonical : Canonical (segment :: segments)) : Canonical segments where
  nonempty member := canonical.nonempty (List.mem_cons_of_mem _ member)
  plain inner member := canonical.plain inner (List.mem_cons_of_mem _ member)
  alternate := (List.isChain_cons.mp canonical.alternate).2

/-- What follows a segment begins otherwise. -/
theorem head?_tail (canonical : Canonical (segment :: segments)) :
    (segments.map isLiteral).head? ≠ some segment.isLiteral := fun same =>
  (List.isChain_cons.mp canonical.alternate).1 _ same rfl

end Canonical

/-- Tokens that are no commands are added to the run in progress. -/
theorem groupAfter_append {inner : List Token} (plain : ∀ token ∈ inner, token.isCommand = false) :
    groupAfter previous run (inner ++ tokens) =
      groupAfter (inner.getLast?.or previous) (run ++ inner) tokens := by
  induction inner generalizing previous run with
  | nil => simp
  | cons token rest ih =>
    have own : token.isCommand = false := plain token List.mem_cons_self
    rw [List.cons_append, groupAfter, own, if_neg Bool.false_ne_true,
      ih fun other member => plain other (List.mem_cons_of_mem _ member), List.append_assoc]
    cases rest with
    | nil => simp
    | cons next more => simp [List.getLast?_cons]

/-- Canonical segments come out again, behind a run in progress that they do not add to. -/
theorem groupAfter_flatten (canonical : Canonical segments)
    (free : previous.filter Token.isCommand ≠ none → (segments.map isLiteral).head? ≠ some false)
    (apart : run ≠ [] → (segments.map isLiteral).head? ≠ some true) :
    groupAfter previous run (flatten segments) = .ok (ofRun run ++ segments) := by
  induction segments generalizing previous run with
  | nil => simp [flatten, groupAfter]
  | cons segment rest ih =>
    -- A command ends the run, a literal segment is the run: in both cases the rest begins otherwise.
    have behind := canonical.head?_tail
    have command : ∀ token : Token, token.isCommand = true → ofCommand token = segment →
        groupAfter previous run (token :: flatten rest) = .ok (ofRun run ++ segment :: rest) := by
      rintro token own rfl
      have dropped : previous.filter Token.isCommand = none := by
        by_contra held
        exact free held (by simp [isLiteral_ofCommand])
      rw [isLiteral_ofCommand] at behind
      rw [groupAfter, if_pos own, dropped]
      dsimp only
      rw [ih canonical.tail (fun _ => behind) (fun nonempty => absurd rfl nonempty)]
      rfl
    cases segment with
    | auto => exact command .auto rfl rfl
    | rand => exact command .rand rfl rfl
    | literal inner =>
      have empty : run = [] := by
        by_contra some
        exact apart some rfl
      have plain := canonical.plain inner List.mem_cons_self
      have nonempty : inner ≠ [] := by
        rintro rfl
        exact canonical.nonempty List.mem_cons_self
      have ends := List.getLast?_eq_some_getLast nonempty
      have closed : (some (inner.getLast nonempty)).filter Token.isCommand = none := by
        simp [Option.filter_some, plain]
      show groupAfter previous run (inner ++ flatten rest) = _
      rw [groupAfter_append plain, ends, empty, List.nil_append, Option.some_or,
        ih canonical.tail (fun command => absurd closed command) (fun _ => behind)]
      simp [ofRun, nonempty]

/-- **Canonical segments come out again.** -/
theorem group_flatten (canonical : Canonical segments) : group (flatten segments) = .ok segments :=
  groupAfter_flatten canonical (fun nonempty => absurd rfl nonempty) (fun nonempty => absurd rfl nonempty)

/-- **Segments are those of a token list** exactly when they are canonical and hold its tokens. -/
theorem group_eq_ok_iff :
    group tokens = .ok segments ↔ Canonical segments ∧ flatten segments = tokens := by
  constructor
  · intro grouped
    exact ⟨group_canonical grouped, FlightRoute.Segment.flatten_group grouped⟩
  · rintro ⟨canonical, rfl⟩
    exact group_flatten canonical

/-- **Grouping is exact, and it can be undone.** Tokens can be grouped exactly when no two commands stand side
by side, which is when they pass the check; otherwise both fail for the first two that do. The segments of a
token list are the canonical ones that hold its tokens, and so canonical segments are those of their tokens. -/
theorem grouping_exact (tokens : List Token) :
    ((∃ segments, group tokens = .ok segments) ↔ Apart tokens) ∧
      (checkCommands tokens = .ok () ↔ Apart tokens) ∧
      (∀ failure, group tokens = .error failure ↔ checkCommands tokens = .error failure) ∧
      (∀ failure, checkCommands tokens = .error failure ↔
        ∃ first second, FirstClash tokens first second ∧ failure = commandClash first second) ∧
      ∀ segments, group tokens = .ok segments ↔ Canonical segments ∧ flatten segments = tokens :=
  ⟨exists_group_iff, RouteString.checkCommands_eq_ok, fun _ => group_eq_error_iff,
    fun _ => RouteString.checkCommands_eq_error, fun _ => group_eq_ok_iff⟩

end Segment

end FlightRoute
