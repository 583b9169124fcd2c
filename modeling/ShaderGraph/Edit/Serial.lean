import ShaderGraph.Number.Decimal

/-!
# Serial ids

The id of a new block or connection says what it names, when it was made, in
milliseconds, and ends in nine characters drawn at random. The clock and the
draws come from outside; an id is a function of them and of how many ids were
drawn before.
-/

namespace ShaderGraph

/-- A clock's time in seconds: a whole number, or any binary64 number. -/
inductive Seconds
  | whole (n : Int)
  | binary (x : Binary64)

/-- The time in whole milliseconds, the rest cut off; `none` if the clock is not
finite. -/
def Seconds.milliseconds? : Seconds → Option Int
  | .whole n => some (n * 1000)
  | .binary x => (x.scaleBy 1000).truncate?

/-- Where ids come from: a clock, and numbers to draw by, taken in turn over and
over. -/
structure Serial where
  clock : Seconds
  draws : List Int

namespace Serial

/-- The characters of a suffix. -/
def alphabet : List Char := "0123456789abcdefghijklmnopqrstuvwxyz".toList

/-- How many characters a suffix has. -/
def suffixLength : Nat := 9

/-- The character of one draw. -/
def drawn (s : Serial) (n : Nat) : Char :=
  let draw := s.draws.getD (n % s.draws.length) 0
  alphabet.getD (draw % alphabet.length).toNat '0'

/-- The suffix of the id drawn after `count` others. -/
def suffix (s : Serial) (count : Nat) : String :=
  String.ofList ((List.range suffixLength).map fun i => s.drawn (count * suffixLength + i))

/-- The ids with a label, by the number of ids drawn before; `none` if the clock
is not finite. -/
def ids? (s : Serial) (label : String) : Option (Nat → String) :=
  s.clock.milliseconds?.map fun ms count =>
    label ++ "-" ++ toString ms ++ "-" ++ s.suffix count

/-- The label of a block's id. -/
def blockLabel : String := "block"

/-- The label of a connection's id. -/
def connectionLabel : String := "conn"

end Serial

end ShaderGraph
