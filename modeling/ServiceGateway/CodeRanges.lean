import ServiceGateway.Text

/-!
# Sets of characters as ranges

A property that a standard lists code point by code point is kept as a list of closed ranges of
code points in ascending order. Membership scans the list; nothing here depends on its order.
-/
namespace ServiceGateway

structure CodeRange where
  first : Nat
  last : Nat
  deriving DecidableEq, Repr

def CodeRange.contains (r : CodeRange) (c : Char) : Bool :=
  decide (r.first ≤ c.toNat) && decide (c.toNat ≤ r.last)

abbrev CodeRanges := List CodeRange

def CodeRanges.covers (rs : CodeRanges) (c : Char) : Bool := rs.any (·.contains c)

end ServiceGateway
