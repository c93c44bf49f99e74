/-!
# Powers

The powers of the two bases in which numbers are kept and written.
-/

namespace StreamTemplate.Number

/-- The power of two with the given exponent. -/
def twoTo (n : Nat) : Nat :=
  Nat.pow 2 n

/-- The power of ten with the given exponent. -/
def tenTo (n : Nat) : Nat :=
  Nat.pow 10 n

end StreamTemplate.Number
