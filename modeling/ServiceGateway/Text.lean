/-!
# Text

Text is the list of its characters, so that every definition on it is by recursion on the list and
every statement about it is one about lists. String literals stand for their lists of characters.
Splitting and joining are those of lists, with the separator as a character.
-/
namespace ServiceGateway

abbrev Text := List Char

instance : Coe String Text := ⟨String.toList⟩

/-- The text with a slash put after it unless it already ends in one. -/
def slashEnded (t : Text) : Text :=
  if t.getLast? = some '/' then t else t ++ ['/']

theorem slashEnded_eq (t : Text) :
    (t.getLast? = some '/' ∧ slashEnded t = t) ∨
      (t.getLast? ≠ some '/' ∧ slashEnded t = t ++ ['/']) := by
  unfold slashEnded
  split
  · exact .inl ⟨‹_›, rfl⟩
  · exact .inr ⟨‹_›, rfl⟩

@[simp] theorem getLast?_slashEnded (t : Text) : (slashEnded t).getLast? = some '/' := by
  rcases slashEnded_eq t with ⟨h, e⟩ | ⟨_, e⟩ <;> simp [e]
  exact h

theorem head?_slashEnded {t : Text} (h : t.head? = some '/') :
    (slashEnded t).head? = some '/' := by
  rcases slashEnded_eq t with ⟨-, ht⟩ | ⟨-, ht⟩
  · rw [ht, h]
  · rw [ht, List.head?_append, h, Option.some_or]

@[simp] theorem slashEnded_idem (t : Text) : slashEnded (slashEnded t) = slashEnded t := by
  simp [slashEnded.eq_def (slashEnded t)]

/-- What stands behind a given beginning of the text. -/
def below? : Text → Text → Option Text
  | [], t => some t
  | _ :: _, [] => none
  | p :: ps, c :: cs => if p = c then below? ps cs else none

theorem below?_eq_some_iff {p t rest : Text} : below? p t = some rest ↔ t = p ++ rest := by
  induction p generalizing t with
  | nil => simp [below?, eq_comm]
  | cons a p ih =>
    cases t with
    | nil => simp [below?]
    | cons c cs => by_cases h : a = c <;> simp [below?, h, ih, eq_comm]

@[simp] theorem below?_append (p t : Text) : below? p (p ++ t) = some t :=
  below?_eq_some_iff.2 rfl

/-- The segments of a path, in order; a path without a slash is one segment. -/
def segments (t : Text) : List Text := t.splitOn '/'

/-- The segments joined by single slashes. -/
def joinSegments (ts : List Text) : Text := ['/'].intercalate ts

@[simp] theorem joinSegments_segments (t : Text) : joinSegments (segments t) = t :=
  List.intercalate_splitOn '/'

theorem segments_joinSegments {ts : List Text} (h : ∀ t ∈ ts, '/' ∉ t) (hne : ts ≠ []) :
    segments (joinSegments ts) = ts :=
  List.splitOn_intercalate '/' h hne

/-- Decimal digits, without leading zeros. -/
def naturalText (n : Nat) : Text := Nat.toDigits 10 n

def integerText : Int → Text
  | .ofNat n => naturalText n
  | .negSucc n => '-' :: naturalText (n + 1)

/-- Ten to the given power. -/
def powerOfTen (n : Nat) : Nat := Nat.pow 10 n

theorem powerOfTen_mono {m n : Nat} (h : m ≤ n) : powerOfTen m ≤ powerOfTen n :=
  Nat.pow_le_pow_right (by decide) h

/-- The largest number of digits with which an integer is put into text. -/
def maxDigits : Nat := 4300

/-- Integers that are put into text. -/
def HasText (n : Int) : Prop := n.natAbs < powerOfTen maxDigits

instance (n : Int) : Decidable (HasText n) := by
  unfold HasText
  infer_instance

theorem not_hasText_iff {n : Int} : ¬ HasText n ↔ powerOfTen maxDigits ≤ n.natAbs := by
  simp only [HasText, Nat.not_lt]

theorem hasText_of_lt {n : Int} {digits : Nat} (hdigits : digits ≤ maxDigits)
    (h : n.natAbs < powerOfTen digits) : HasText n :=
  Nat.lt_of_lt_of_le h (powerOfTen_mono hdigits)

/-- What is said where an integer that is not put into text would have to be. -/
def noTextMessage : Text :=
  "Exceeds the limit (" ++ naturalText maxDigits ++ " digits) for integer string conversion; " ++
    "use sys.set_int_max_str_digits() to increase the limit"

/-- Decimal digits, filled up with zeros on the left to the given width. -/
def paddedText (width n : Nat) : Text :=
  List.replicate (width - (naturalText n).length) '0' ++ naturalText n

/-- The texts with a separator between neighbours. -/
def joinWith (separator : Text) (ts : List Text) : Text := separator.intercalate ts

@[simp] theorem joinWith_singleton (separator t : Text) : joinWith separator [t] = t :=
  List.intercalate_singleton

theorem joinWith_cons_cons (c : Char) (t u : Text) (ts : List Text) :
    joinWith [c] (t :: u :: ts) = t ++ c :: joinWith [c] (u :: ts) := by
  simp [joinWith]

end ServiceGateway
