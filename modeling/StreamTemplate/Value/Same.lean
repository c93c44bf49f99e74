import StreamTemplate.Value.Basic

/-!
# One and the same value

Whether two values are one and the same, as opposed to equal. Values without an identity are the
same if they are alike. Two floating-point numbers or tuples written out in the code of one tag are
the same if they are alike; otherwise each that was made is one of its own.
-/

namespace StreamTemplate.Value

mutual

/-- Whether two values are one and the same. -/
def same : Value → Value → Bool
  | none, none => true
  | bool a, bool b => a == b
  | int a, int b => a == b
  | float i a, float j b => i == j && a.toBits == b.toBits
  | text a, text b => a == b
  | binary k a, binary l b => k == l && a == b
  | tuple _ [], tuple _ [] => true
  | tuple (.made i) _, tuple (.made j) _ => i == j
  | tuple i as, tuple j bs => i == j && sameAll as bs
  | range i .., range j .. => i == j
  | builtin a, builtin b => a == b
  | method i .., method j .. => i == j
  | typeForm i .., typeForm j .. => i == j
  | cell _ a, cell _ b => a == b
  | process k a, process l b => k == l && a == b
  | _, _ => false

/-- Whether two lists of values are the same throughout. -/
def sameAll : List Value → List Value → Bool
  | [], [] => true
  | a :: as, b :: bs => same a b && sameAll as bs
  | _, _ => false

end

end StreamTemplate.Value
