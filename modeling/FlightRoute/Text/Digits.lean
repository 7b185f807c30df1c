/-
**Decimal digits.**

Numbers are read digit by digit in base ten. Only the ten ASCII digits count.

* `value`: the number that a run of digits denotes;
* `unsigned?`: a whole number below a bound, with at most one plus sign in front;
* `takeWhile_run`, `dropWhile_run`: a run of characters in front of what does not belong to it.
-/

namespace FlightRoute.Text.Digits

/-- The number that a run of digits denotes, most significant digit first. -/
def value (digits : List Char) : Nat :=
  digits.foldl (fun number digit => 10 * number + (digit.toNat - 48)) 0

/-- Whether the run is not empty and holds digits only. -/
def isNumber (characters : List Char) : Bool :=
  !characters.isEmpty && characters.all Char.isDigit

/-- The float nearest to `whole.fraction`, both given by their digits. -/
def decimal (whole fraction : List Char) : Float :=
  Float.ofScientific (value (whole ++ fraction)) true fraction.length

/-- The whole number below `bound` that a text denotes: digits, after a plus sign or not. -/
def unsigned? (bound : Nat) (text : String) : Option Nat :=
  let digits := match text.toList with
    | '+' :: rest => rest
    | characters => characters
  if isNumber digits && value digits < bound then some (value digits) else none

/-- One more than the largest number of 64 bits. -/
def wordBound : Nat := Nat.pow 2 64

section Runs

variable {test : Char → Bool} {run rest : List Char}

theorem takeWhile_run (passes : ∀ c ∈ run, test c = true) (stops : ∀ c ∈ rest.head?, test c = false) :
    (run ++ rest).takeWhile test = run := by
  rw [List.takeWhile_append_of_pos passes]
  cases rest with
  | nil => simp
  | cons c others => simp [stops c rfl]

theorem dropWhile_run (passes : ∀ c ∈ run, test c = true) (stops : ∀ c ∈ rest.head?, test c = false) :
    (run ++ rest).dropWhile test = rest := by
  rw [List.dropWhile_append_of_pos passes]
  cases rest with
  | nil => simp
  | cons c others => simp [stops c rfl]

end Runs

end FlightRoute.Text.Digits
