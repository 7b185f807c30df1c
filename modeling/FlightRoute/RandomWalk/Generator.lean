/-
**Random numbers.**

A generator of 64-bit words: a counter with a fixed odd step, whose value is mixed by shifts and
multiplications. It stands in for an external generator, whose stream of words it does not follow:
the same seed gives the same walk, but not the walk that the external one would give. Nothing is
proved of the words themselves. What holds of random walks holds for every `Chooser`, on whichever
state it draws.
-/

namespace FlightRoute.RandomWalk

/-- The state of the generator. -/
structure Generator where
  counter : UInt64

namespace Generator

/-- The generator of a seed. -/
def ofSeed (seed : UInt64) : Generator := ⟨seed⟩

/-- The next word. -/
def next (generator : Generator) : UInt64 × Generator :=
  let counter := generator.counter + 0x9e3779b97f4a7c15
  let mixed := (counter ^^^ (counter >>> 30)) * 0xbf58476d1ce4e5b9
  let mixed := (mixed ^^^ (mixed >>> 27)) * 0x94d049bb133111eb
  (mixed ^^^ (mixed >>> 31), ⟨counter⟩)

/-- A float that is at least zero and below one, all multiples of `2 ^ -53` alike. -/
def unit (generator : Generator) : Float × Generator :=
  let (word, generator) := generator.next
  ((word >>> 11).toFloat / 9007199254740992.0, generator)

/-- A position in a list of `size + 1` items. -/
def position (size : Nat) (generator : Generator) : Fin (size + 1) × Generator :=
  let (word, generator) := generator.next
  (Fin.ofNat (size + 1) word.toNat, generator)

end Generator

end FlightRoute.RandomWalk
