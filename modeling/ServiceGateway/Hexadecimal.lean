import ServiceGateway.Text

/-!
# Hexadecimal digits

Numbers in a fixed number of hexadecimal digits, in small or in capital letters. Higher digits
than the width has room for are dropped.
-/
namespace ServiceGateway

/-- The digit of a number below sixteen; `ten` is the letter for ten. -/
def hexDigit (ten : Char) (d : Nat) : Char :=
  if d < 10 then Char.ofNat ('0'.toNat + d) else Char.ofNat (ten.toNat + (d - 10))

def hexDigits (ten : Char) : Nat → Nat → Text
  | 0, _ => []
  | width + 1, n => hexDigits ten width (n / 16) ++ [hexDigit ten (n % 16)]

/-- The value of a digit, in small or capital letters. -/
def hexValue? (c : Char) : Option Nat :=
  if '0' ≤ c ∧ c ≤ '9' then some (c.toNat - '0'.toNat)
  else if 'a' ≤ c ∧ c ≤ 'f' then some (c.toNat - 'a'.toNat + 10)
  else if 'A' ≤ c ∧ c ≤ 'F' then some (c.toNat - 'A'.toNat + 10)
  else none

/-- The number that digits stand for, most significant first. -/
def readHex? (digits : Text) : Option Nat :=
  digits.foldlM (fun n c => (hexValue? c).map (16 * n + ·)) 0

theorem hexValue?_hexDigit : ∀ d < 16, hexValue? (hexDigit 'a' d) = some d := by decide

/-- Digits are read as the number they were written for if the width has room for it. -/
theorem readHex?_hexDigits {width n : Nat} (h : n < Nat.pow 16 width) :
    readHex? (hexDigits 'a' width n) = some n := by
  unfold readHex?
  induction width generalizing n with
  | zero =>
    obtain rfl : n = 0 := Nat.lt_one_iff.1 h
    rfl
  | succ width ih =>
    have hhigh : n / 16 < Nat.pow 16 width := Nat.div_lt_of_lt_mul (by rwa [Nat.mul_comm])
    rw [hexDigits, List.foldlM_append, ih hhigh]
    have hlow := hexValue?_hexDigit (n % 16) (Nat.mod_lt n (by decide))
    simp [hlow, Nat.div_add_mod]

end ServiceGateway
