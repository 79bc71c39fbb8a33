import ServiceGateway.Atom

/-!
# What values stand for as names

Values compare as names in a mapping do: numbers by what they denote, whatever their type, and times
with offsets by universal time; tuples by their items in order, and fixed sets by their items in any
order. What a value stands for is worked out once, and comparing is done on that. A bare object, a
value that is no number and a value whose content can change stand for nothing, which is not even
the same as itself. Numbers, moments with offsets, durations and tuples of them are also in order.
-/
namespace ServiceGateway

inductive NameForm where
  | nothing
  | number (real imaginary : Decimal)
  | instant (microseconds : Int)
  | clock (seconds : Int) (microsecond : Nat) (rest : Int)
  | span (microseconds : Int)
  | atom (a : Atom)
  | part (p : KeyPart)
  | key (k : EntityKey)
  | tuple (items : List NameForm)
  | fixedSet (items : List NameForm)
  deriving Repr

namespace NameForm

def ofNumber (real imaginary : Option Decimal) : NameForm :=
  match real, imaginary with
  | some x, some y => number x y
  | _, _ => nothing

mutual
def same : NameForm → NameForm → Bool
  | number x y, number x' y' => x == x' && y == y'
  | instant m, instant n => m == n
  | clock s m r, clock s' m' r' => s == s' && m == m' && r == r'
  | span m, span n => m == n
  | atom a, atom b => a == b
  | part p, part q => p == q
  | key k, key l => k == l
  | tuple xs, tuple ys => sameItems xs ys
  | fixedSet xs, fixedSet ys => xs.length == ys.length && eachIn xs ys
  | _, _ => false
/-- Items compared in order. -/
def sameItems : List NameForm → List NameForm → Bool
  | [], [] => true
  | x :: xs, y :: ys => x.same y && sameItems xs ys
  | _, _ => false
/-- Whether every item has an equal among the others. -/
def eachIn : List NameForm → List NameForm → Bool
  | [], _ => true
  | x :: xs, ys => ys.any x.same && eachIn xs ys
end

mutual
/-- How two names stand to each other, if they are in order; tuples as their first items that are
not the same. -/
def order? : NameForm → NameForm → Option Ordering
  | number x y, number x' y' =>
    if y = .zero ∧ y' = .zero then x.order? x' else none
  | instant m, instant n => some (compare m n)
  | span m, span n => some (compare m n)
  | tuple xs, tuple ys => orderItems? xs ys
  | _, _ => none
def orderItems? : List NameForm → List NameForm → Option Ordering
  | [], [] => some .eq
  | [], _ :: _ => some .lt
  | _ :: _, [] => some .gt
  | x :: xs, y :: ys => if x.same y then orderItems? xs ys else x.order? y
end

end NameForm

namespace Atom

/-- True stands for one and false for zero. -/
def form : Atom → NameForm
  | boolean b => .number (.finite ⟨false, b.toNat, 0⟩) .zero
  | integer n => .number (.finite (DecimalNumeral.ofInt n).reduced) .zero
  | double x => .ofNumber x.toDecimal.denotation? (some .zero)
  | decimal d => .ofNumber d.denotation? (some .zero)
  | complex z => .ofNumber z.real.toDecimal.denotation? z.imaginary.toDecimal.denotation?
  | moment m =>
    match m.universal? with
    | some n => .instant n
    | none => .atom (.moment m)
  | dayTime c =>
    match c.universal? with
    | some (seconds, microsecond, rest) => .clock seconds microsecond rest
    | none => .atom (.dayTime c)
  | duration d => .span d.microseconds
  | buffer _ | object => .nothing
  | a => .atom a

end Atom

end ServiceGateway
