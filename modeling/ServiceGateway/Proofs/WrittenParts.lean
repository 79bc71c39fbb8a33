import Mathlib.Data.List.TakeWhile
import ServiceGateway.EntityKey

/-!
# Written key parts

Numbers and dates are written in digits and hyphens only, so their written form ends where another
character comes, and no two of them are written alike: an integer has its hyphen in front or none at
all, a date has digits before its first one. A text begins with a quote. So distinct key parts have
distinct written forms.
-/
namespace ServiceGateway

/-! ## Digits -/

theorem isDigit_of_mem_naturalText {n : Nat} {c : Char} (h : c ∈ naturalText n) :
    c.isDigit = true :=
  Nat.isDigit_of_mem_toDigits (by decide) (by decide) h

theorem naturalText_ne_nil (n : Nat) : naturalText n ≠ [] := Nat.toDigits_ne_nil

/-- The digits give the number back. -/
theorem ofDigitChars_naturalText (n : Nat) : Nat.ofDigitChars 10 (naturalText n) 0 = n :=
  Nat.ofDigitChars_ten_toDigits

theorem naturalText_injective {m n : Nat} (h : naturalText m = naturalText n) : m = n := by
  rw [← ofDigitChars_naturalText m, h, ofDigitChars_naturalText]

theorem isDigit_of_mem_paddedText {width n : Nat} {c : Char} (h : c ∈ paddedText width n) :
    c.isDigit = true := by
  rcases List.mem_append.1 h with h | h
  · rw [List.eq_of_mem_replicate h]
    decide
  · exact isDigit_of_mem_naturalText h

theorem paddedText_ne_nil (width n : Nat) : paddedText width n ≠ [] := by
  intro h
  exact naturalText_ne_nil n (List.append_eq_nil_iff.1 h).2

/-- Zeros in front do not count. -/
theorem ofDigitChars_paddedText (width n : Nat) :
    Nat.ofDigitChars 10 (paddedText width n) 0 = n := by
  rw [paddedText, Nat.ofDigitChars_append, Nat.ofDigitChars_replicate_zero, Nat.mul_zero,
    ofDigitChars_naturalText]

theorem paddedText_injective {width m n : Nat} (h : paddedText width m = paddedText width n) :
    m = n := by
  rw [← ofDigitChars_paddedText width m, h, ofDigitChars_paddedText]

theorem naturalText_ne_of_hyphen_mem {n : Nat} {t : Text} (h : '-' ∈ t) : naturalText n ≠ t := by
  rintro rfl
  exact absurd (isDigit_of_mem_naturalText h) (by decide)

/-! ## Where a written number ends -/

/-- A leading part of one kind of characters ends where a character of another kind comes. -/
theorem takeWhile_append_of_kind {p : Char → Bool} {t r : Text} (ht : ∀ c ∈ t, p c = true)
    (hr : ∀ c ∈ r.head?, p c = false) : (t ++ r).takeWhile p = t := by
  have rest : r.takeWhile p = [] := by
    cases r with
    | nil => rfl
    | cons c r => exact List.takeWhile_cons_of_neg (by simp [hr c rfl])
  rw [List.takeWhile_append_of_pos ht, rest, List.append_nil]

theorem dropWhile_append_of_kind {p : Char → Bool} {t r : Text} (ht : ∀ c ∈ t, p c = true)
    (hr : ∀ c ∈ r.head?, p c = false) : (t ++ r).dropWhile p = r := by
  have whole := List.takeWhile_append_dropWhile (p := p) (l := t ++ r)
  rw [takeWhile_append_of_kind ht hr] at whole
  exact List.append_cancel_left whole

/-- Such a leading part is found again. -/
theorem append_inj_of_kind {p : Char → Bool} {t u r s : Text} (ht : ∀ c ∈ t, p c = true)
    (hu : ∀ c ∈ u, p c = true) (hr : ∀ c ∈ r.head?, p c = false) (hs : ∀ c ∈ s.head?, p c = false)
    (h : t ++ r = u ++ s) : t = u ∧ r = s := by
  have htu : t = u := by
    rw [← takeWhile_append_of_kind ht hr, h, takeWhile_append_of_kind hu hs]
  exact ⟨htu, List.append_cancel_left (htu ▸ h)⟩

/-- Digits and hyphens. -/
def isNumeral (c : Char) : Bool := c.isDigit || c == '-'

theorem isNumeral_of_isDigit {c : Char} (h : c.isDigit = true) : isNumeral c = true := by
  rw [isNumeral, h, Bool.true_or]

/-! ## Integers and dates -/

theorem integerText_injective {m n : Int} (h : integerText m = integerText n) : m = n := by
  cases m with
  | ofNat m =>
    cases n with
    | ofNat n => rw [naturalText_injective h]
    | negSucc n => exact absurd h (naturalText_ne_of_hyphen_mem List.mem_cons_self)
  | negSucc m =>
    cases n with
    | ofNat n => exact absurd h.symm (naturalText_ne_of_hyphen_mem List.mem_cons_self)
    | negSucc n =>
      have hs : m + 1 = n + 1 := naturalText_injective (List.cons.inj h).2
      rw [Nat.succ.inj hs]

theorem isNumeral_of_mem_integerText {n : Int} {c : Char} (h : c ∈ integerText n) :
    isNumeral c = true := by
  cases n with
  | ofNat n => exact isNumeral_of_isDigit (isDigit_of_mem_naturalText h)
  | negSucc n =>
    rcases List.mem_cons.1 h with rfl | h
    · decide
    · exact isNumeral_of_isDigit (isDigit_of_mem_naturalText h)

/-- Digits in front of a hyphen are found again. -/
theorem digits_hyphen_inj {t u r s : Text} (ht : ∀ c ∈ t, c.isDigit = true)
    (hu : ∀ c ∈ u, c.isDigit = true) (h : t ++ '-' :: r = u ++ '-' :: s) : t = u ∧ r = s := by
  have hyphen (x : Text) : ∀ c ∈ ('-' :: x : Text).head?, c.isDigit = false := by
    intro c hc
    rw [← Option.some.inj hc]
    decide
  obtain ⟨htu, hrs⟩ := append_inj_of_kind ht hu (hyphen r) (hyphen s) h
  exact ⟨htu, (List.cons.inj hrs).2⟩

theorem Date.text_injective {d e : Date} (h : d.text = e.text) : d = e := by
  simp only [Date.text, List.append_assoc, List.cons_append] at h
  obtain ⟨hyear, h⟩ := digits_hyphen_inj (fun c => isDigit_of_mem_paddedText)
    (fun c => isDigit_of_mem_paddedText) h
  obtain ⟨hmonth, hday⟩ := digits_hyphen_inj (fun c => isDigit_of_mem_paddedText)
    (fun c => isDigit_of_mem_paddedText) h
  cases d
  cases e
  simp_all only [Date.mk.injEq]
  exact ⟨paddedText_injective hyear, paddedText_injective hmonth, paddedText_injective hday⟩

theorem Date.isNumeral_of_mem_text {d : Date} {c : Char} (h : c ∈ d.text) : isNumeral c = true := by
  simp only [Date.text, List.mem_append, List.mem_cons] at h
  rcases h with (h | rfl | h) | rfl | h
  · exact isNumeral_of_isDigit (isDigit_of_mem_paddedText h)
  · decide
  · exact isNumeral_of_isDigit (isDigit_of_mem_paddedText h)
  · decide
  · exact isNumeral_of_isDigit (isDigit_of_mem_paddedText h)

/-- A date has a digit in front and a hyphen behind it, an integer one of the two. -/
theorem integerText_ne_text (n : Int) (d : Date) : integerText n ≠ d.text := by
  intro h
  obtain ⟨c, year, hyear⟩ := List.exists_cons_of_ne_nil (paddedText_ne_nil 4 d.year)
  cases n with
  | ofNat n =>
    have hc : '-' ∈ d.text := by simp [Date.text]
    exact naturalText_ne_of_hyphen_mem hc h
  | negSucc n =>
    change '-' :: naturalText (n + 1) = d.text at h
    simp only [Date.text, hyear, List.cons_append] at h
    have hmem : c ∈ paddedText 4 d.year := by
      rw [hyear]
      exact List.mem_cons_self
    have hc : c.isDigit = true := isDigit_of_mem_paddedText hmem
    rw [← (List.cons.inj h).1] at hc
    cases hc

/-! ## Key parts -/

namespace KeyPart

theorem written_ne_nil (p : KeyPart) : p.written ≠ [] := by
  cases p with
  | text t => simp [written]
  | integer n =>
    cases n with
    | ofNat n => exact naturalText_ne_nil n
    | negSucc n => exact List.cons_ne_nil _ _
  | date d =>
    intro h
    simp [written, Date.text] at h

/-- A key part is written between quotes or in digits and hyphens. -/
theorem written_cases (p : KeyPart) :
    (∃ t, p = .text t ∧ p.written = '\'' :: t ++ ['\'']) ∨
      ∀ c ∈ p.written, isNumeral c = true := by
  cases p with
  | text t => exact .inl ⟨t, rfl, rfl⟩
  | integer n => exact .inr fun c hc => isNumeral_of_mem_integerText hc
  | date d => exact .inr fun c hc => Date.isNumeral_of_mem_text hc

theorem written_text_ne_of_isNumeral {t u : Text} (h : ∀ c ∈ u, isNumeral c = true) :
    (text t).written ≠ u := by
  rintro rfl
  have hc := h '\'' (by simp [written])
  revert hc
  decide

theorem written_injective {p q : KeyPart} (h : p.written = q.written) : p = q := by
  cases p with
  | text t =>
    cases q with
    | text u => simpa [written] using h
    | integer n =>
      exact absurd h (written_text_ne_of_isNumeral fun c => isNumeral_of_mem_integerText)
    | date d => exact absurd h (written_text_ne_of_isNumeral fun c => Date.isNumeral_of_mem_text)
  | integer m =>
    cases q with
    | text u =>
      exact absurd h.symm (written_text_ne_of_isNumeral fun c => isNumeral_of_mem_integerText)
    | integer n => rw [integerText_injective h]
    | date d => exact absurd h (integerText_ne_text m d)
  | date d =>
    cases q with
    | text u =>
      exact absurd h.symm (written_text_ne_of_isNumeral fun c => Date.isNumeral_of_mem_text)
    | integer n => exact absurd h.symm (integerText_ne_text n d)
    | date e => rw [Date.text_injective h]

end KeyPart

end ServiceGateway
