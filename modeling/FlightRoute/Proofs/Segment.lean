/-
**Segments and the tokens they come from.**

Grouping cuts a token list into commands and maximal runs of other tokens, so that literal segments and
commands alternate, and putting the segments together gives the tokens back.

* `flatten_group`: the segments of a token list hold its tokens;
* `group_alternates`: no two literal segments and no two commands stand side by side;
* `group_eq_literal`: tokens without a command are one literal segment, and no others are.
-/

import Mathlib.Data.List.Chain
import FlightRoute.Proofs.Except
import FlightRoute.Segment

namespace FlightRoute.Segment

/-- Whether a segment is a run of tokens. -/
def isLiteral : Segment → Bool
  | literal _ => true
  | _ => false

variable {previous : Option Token} {run tokens : List Token} {segments : List Segment}

theorem isLiteral_ofCommand (token : Token) : (ofCommand token).isLiteral = false := by
  cases token <;> rfl

theorem tokens_ofCommand {token : Token} (command : token.isCommand = true) :
    (ofCommand token).tokens = [token] := by
  cases token with
  | auto => rfl
  | rand => rfl
  | _ => cases command

theorem flatten_ofRun (run : List Token) (rest : List Segment) :
    flatten (ofRun run ++ rest) = run ++ flatten rest := by
  unfold ofRun
  split
  · rename_i empty
    rw [List.isEmpty_iff.mp empty]
    rfl
  · rfl

/-- The segments of the tokens behind a run hold the run and the tokens. -/
theorem flatten_groupAfter (grouped : groupAfter previous run tokens = .ok segments) :
    flatten segments = run ++ tokens := by
  induction tokens generalizing previous run segments with
  | nil =>
    cases grouped
    rw [← List.append_nil (ofRun run), flatten_ofRun]
    rfl
  | cons token rest ih =>
    unfold groupAfter at grouped
    split at grouped
    · rename_i command
      split at grouped
      · cases grouped
      · obtain ⟨others, further, whole⟩ := bind_eq_ok.mp grouped
        cases whole
        rw [flatten_ofRun]
        show run ++ ((ofCommand token).tokens ++ flatten others) = _
        rw [tokens_ofCommand command, ih further]
        rfl
    · rw [ih grouped, List.append_assoc]
      rfl

/-- **The segments of a token list hold its tokens.** -/
theorem flatten_group (grouped : group tokens = .ok segments) : flatten segments = tokens :=
  flatten_groupAfter grouped

/-- Segments alternate, begin with the run in progress if there is one, and do not begin with a command
behind a command. -/
theorem groupAfter_alternates (grouped : groupAfter previous run tokens = .ok segments)
    (apart : run = [] ∨ previous.filter Token.isCommand = none) :
    (segments.map isLiteral).IsChain (· ≠ ·) ∧
      (run ≠ [] → (segments.map isLiteral).head? = some true) ∧
      (previous.filter Token.isCommand ≠ none → (segments.map isLiteral).head? ≠ some false) := by
  induction tokens generalizing previous run segments with
  | nil =>
    cases grouped
    unfold ofRun
    cases run with
    | nil => exact ⟨.nil, fun nonempty => absurd rfl nonempty, fun _ => nofun⟩
    | cons first rest => exact ⟨.singleton _, fun _ => rfl, fun _ => nofun⟩
  | cons token rest ih =>
    unfold groupAfter at grouped
    split at grouped
    · rename_i command
      split at grouped
      · cases grouped
      · rename_i free
        obtain ⟨others, further, whole⟩ := bind_eq_ok.mp grouped
        cases whole
        obtain ⟨chain, _, noCommand⟩ := ih further (Or.inl rfl)
        have head : (others.map isLiteral).head? ≠ some false :=
          noCommand (by rw [Option.filter_some, command]; nofun)
        have behind : (false :: others.map isLiteral).IsChain (· ≠ ·) := by
          refine List.isChain_cons.mpr ⟨fun next member same => ?_, chain⟩
          exact head (by rw [member, ← same])
        unfold ofRun
        rw [List.map_append, List.map_cons, isLiteral_ofCommand]
        cases run with
        | nil => exact ⟨behind, fun nonempty => absurd rfl nonempty, fun nonempty => absurd free nonempty⟩
        | cons first more =>
          refine ⟨List.isChain_cons_cons.mpr ⟨nofun, behind⟩, fun _ => rfl, fun _ => nofun⟩
    · rename_i other
      have plain : (some token).filter Token.isCommand = none := by
        rw [Option.filter_some, if_neg other]
      obtain ⟨chain, begins, _⟩ := ih grouped (Or.inr plain)
      have head := begins (List.append_ne_nil_of_right_ne_nil _ (List.cons_ne_nil _ _))
      refine ⟨chain, fun _ => head, fun _ same => ?_⟩
      rw [head] at same
      cases same

/-- **Literal segments and commands alternate.** -/
theorem group_alternates (grouped : group tokens = .ok segments) :
    (segments.map isLiteral).IsChain (· ≠ ·) :=
  (groupAfter_alternates grouped (Or.inl rfl)).1

/-- Literal segments hold no commands. -/
theorem groupAfter_plain (grouped : groupAfter previous run tokens = .ok segments)
    (plain : ∀ token ∈ run, token.isCommand = false) :
    ∀ inner, literal inner ∈ segments → ∀ token ∈ inner, token.isCommand = false := by
  have ofRun_plain : ∀ inner, literal inner ∈ ofRun run → ∀ token ∈ inner,
      token.isCommand = false := by
    intro inner member
    unfold ofRun at member
    split at member
    · exact absurd member List.not_mem_nil
    · cases List.mem_singleton.mp member
      exact plain
  induction tokens generalizing previous run segments with
  | nil =>
    cases grouped
    exact ofRun_plain
  | cons token rest ih =>
    unfold groupAfter at grouped
    split at grouped
    · split at grouped
      · cases grouped
      · obtain ⟨others, further, whole⟩ := bind_eq_ok.mp grouped
        cases whole
        intro inner member
        rcases List.mem_append.mp member with here | there
        · exact ofRun_plain inner here
        · rcases List.mem_cons.mp there with same | there
          · cases token <;> cases same
          · exact ih further (fun _ member => absurd member List.not_mem_nil)
              (fun _ member => absurd member List.not_mem_nil) inner there
    · rename_i other
      have more : ∀ item ∈ run ++ [token], item.isCommand = false := by
        intro item member
        rcases List.mem_append.mp member with here | last
        · exact plain item here
        · rw [List.mem_singleton.mp last]
          exact Bool.not_eq_true _ ▸ other
      refine ih grouped more fun inner member => ?_
      unfold ofRun at member
      split at member
      · exact absurd member List.not_mem_nil
      · cases List.mem_singleton.mp member
        exact more

theorem groupAfter_of_plain (plain : ∀ token ∈ tokens, token.isCommand = false) :
    groupAfter previous run tokens = .ok (ofRun (run ++ tokens)) := by
  induction tokens generalizing previous run with
  | nil => rw [List.append_nil, groupAfter]
  | cons token rest ih =>
    unfold groupAfter
    rw [plain token List.mem_cons_self, if_neg Bool.false_ne_true,
      ih fun other member => plain other (List.mem_cons_of_mem _ member), List.append_assoc]
    rfl

/-- **Tokens without a command are one literal segment**, and no other tokens are. -/
theorem group_eq_literal (nonempty : tokens ≠ []) :
    group tokens = .ok [.literal run] ↔
      run = tokens ∧ ∀ token ∈ tokens, token.isCommand = false := by
  constructor
  · intro grouped
    have same : run = tokens := by
      rw [← flatten_group grouped]
      exact (List.append_nil run).symm
    subst same
    exact ⟨rfl, groupAfter_plain grouped (fun _ member => absurd member List.not_mem_nil) run
      List.mem_cons_self⟩
  · rintro ⟨rfl, plain⟩
    unfold group
    rw [groupAfter_of_plain plain, List.nil_append, ofRun, if_neg (by simpa using nonempty)]

end FlightRoute.Segment
