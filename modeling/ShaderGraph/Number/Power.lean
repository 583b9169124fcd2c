/-!
# Powers of two and of ten

The two bases that numbers are written in here.
-/

namespace ShaderGraph

/-- A power of two. -/
def twoTo (n : Nat) : Nat := Nat.pow 2 n

/-- A power of ten. -/
def tenTo (n : Nat) : Nat := Nat.pow 10 n

end ShaderGraph
