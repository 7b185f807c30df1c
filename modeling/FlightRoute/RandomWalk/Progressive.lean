/-
**Walks that make progress.**

An edge is the more likely to be taken, the more of its length closes the distance to the end of the
walk. With a strong bias only the best edges are left, with none all edges are alike; a negative bias
prefers edges that lead away.

`progress` and `weights` say how likely an edge is. The draw itself (`positionAbove`, `drawable`)
stands in for the weighted choice that comes with an external generator: it picks an edge with that
likelihood, and any edge alike when the weights are refused, but not the edge that the external
choice would pick for the same seed.
-/

import FlightRoute.Distance.GreatCircle
import FlightRoute.RandomWalk.Basic
import FlightRoute.RandomWalk.Generator

namespace FlightRoute.RandomWalk

/-- A float no less than -1 and no more than 1. -/
def clamped (x : Float) : Float := if x < -1.0 then -1.0 else if 1.0 < x then 1.0 else x

/-- The part of the length of an edge that closes the distance to the end of the walk. -/
def progress (here : Float) (choice : Choice Float) : Float :=
  let length := if choice.edge.distance ≥ 1e-6 then choice.edge.distance else 1e-6
  clamped ((here - choice.ahead) / length)

/-- The largest of the scores; what is no number does not count. -/
def topScore (scores : List Float) : Float :=
  scores.foldl (fun top score => if top < score then score else top) (-1.0 / 0.0)

/-- How likely each edge is, the best one weighing 1. -/
def weights (bias here : Float) (choices : List (Choice Float)) : List Float :=
  let scores := choices.map fun choice => bias * progress here choice
  let top := topScore scores
  scores.map fun score => Float.exp (score - top)

/-- The position at which the running sum of the weights exceeds a mark. -/
def positionAbove (mark : Float) : Float → List Float → Nat
  | _, [] => 0
  | sum, weight :: rest =>
    if mark < sum + weight then 0 else positionAbove mark (sum + weight) rest + 1

/-- Whether the weights can be drawn by: none is negative or no number, and not all are zero. -/
def drawable (weights : List Float) : Bool :=
  weights.all (fun weight => 0.0 ≤ weight) && weights.any fun weight => 0.0 < weight

/-- Draws an edge by its weight, or any edge alike when the weights do not allow it. -/
def progressive (settings : SearchSettings) : Chooser Generator Float where
  pick here first others generator :=
    let weights := weights settings.progressBias here (first :: others)
    if drawable weights then
      let (part, generator) := generator.unit
      let sum := weights.foldl (· + ·) 0.0
      let position := positionAbove (part * sum) 0.0 weights
      if inRange : position < others.length + 1 then (⟨position, inRange⟩, generator)
      else generator.position others.length
    else generator.position others.length

/-- The source of random routes of a seed: every call makes the same walk. -/
def seeded {τ : Type} (seed : UInt64) : RandomSource τ Float :=
  replayed progressive (Generator.ofSeed seed)

end FlightRoute.RandomWalk
