import Mathlib.Data.List.Basic
import ServiceGateway.LowerCase

/-!
# Small forms

No small form is a capital again, so a text that has been lower-cased once does not change any more,
whatever stood around its sigmas. That is a fact about the table of capitals, which is checked run
against run and not character by character. Below the small letters of ASCII every character is the
image of itself alone. Outside of ASCII only two characters turn into ASCII letters: the Kelvin sign
and, with a mark behind it, the capital I with a dot above.
-/
namespace ServiceGateway

/-- No image of the run is a capital of the other one. Two runs of every second character may
overlap if the images of the one lie between the capitals of the other. -/
def CaseRun.avoids (r s : CaseRun) : Bool :=
  !(s.first.ble (r.image + (r.last - r.first)) && r.image.ble s.last) ||
    (r.step.beq 2 && s.step.beq 2 && ((r.image + s.first) % 2).beq 1)

theorem CaseRun.small?_eq_some_iff {r : CaseRun} {n m : Nat} :
    r.small? n = some m ↔
      (r.first ≤ n ∧ n ≤ r.last ∧ (n - r.first) % r.step = 0) ∧ r.image + (n - r.first) = m := by
  unfold CaseRun.small?
  split <;> simp_all

theorem CaseRun.avoids_iff {r s : CaseRun} :
    r.avoids s = true ↔
      (s.first ≤ r.image + (r.last - r.first) → r.image ≤ s.last →
        r.step = 2 ∧ s.step = 2 ∧ (r.image + s.first) % 2 = 1) := by
  simp only [avoids, Bool.or_eq_true, Bool.not_eq_true', ← Bool.not_eq_true, Bool.and_eq_true,
    Nat.ble_eq, Nat.beq_eq]
  tauto

theorem CaseRun.small?_image {r s : CaseRun} {n m : Nat} (h : r.avoids s = true)
    (hm : r.small? n = some m) : s.small? m = none := by
  obtain ⟨⟨hfirst, hlast, hstep⟩, rfl⟩ := CaseRun.small?_eq_some_iff.1 hm
  rw [Option.eq_none_iff_forall_ne_some]
  intro k hk
  obtain ⟨⟨hf, hl, hs⟩, _⟩ := CaseRun.small?_eq_some_iff.1 hk
  -- the ranges overlap, so both runs take every second character, and parity keeps them apart
  obtain ⟨hr, hs', hodd⟩ := CaseRun.avoids_iff.1 h (by omega) (by omega)
  rw [hr] at hstep
  rw [hs'] at hs
  omega

/-- The check of the whole table. -/
theorem caseRuns_avoid : (caseRuns.all fun r => caseRuns.all r.avoids) = true := by
  decide +kernel

/-- Where the images lie: above the ASCII capitals, outside of the surrogates and off the capital I
with a dot. -/
theorem caseRuns_image : ∀ r ∈ caseRuns, 0x61 ≤ r.image ∧
    (r.image + (r.last - r.first) < 0x130 ∨ 0x130 < r.image) ∧
    (r.image + (r.last - r.first) < 0xD800 ∨
      0xDFFF < r.image ∧ r.image + (r.last - r.first) < 0x110000) := by
  decide +kernel

theorem exists_run_of_smallForm? {n m : Nat} (h : smallForm? n = some m) :
    ∃ r ∈ caseRuns, r.small? n = some m :=
  List.exists_of_findSome?_eq_some h

theorem smallForm?_image {n m : Nat} (h : smallForm? n = some m) : smallForm? m = none := by
  obtain ⟨r, hr, hm⟩ := exists_run_of_smallForm? h
  rw [smallForm?, List.findSome?_eq_none_iff]
  intro s hs
  have hall := List.all_eq_true.1 caseRuns_avoid r hr
  exact CaseRun.small?_image (List.all_eq_true.1 hall s hs) hm

theorem smallForm?_bounds {n m : Nat} (h : smallForm? n = some m) :
    0x61 ≤ m ∧ m ≠ 0x130 ∧ m.isValidChar := by
  obtain ⟨r, hr, hm⟩ := exists_run_of_smallForm? h
  obtain ⟨⟨hfirst, hlast, _⟩, rfl⟩ := CaseRun.small?_eq_some_iff.1 hm
  obtain ⟨hlow, hdot, hvalid⟩ := caseRuns_image r hr
  refine ⟨by omega, by omega, ?_⟩
  unfold Nat.isValidChar
  omega

theorem toNat_ofNat_of_isValidChar {n : Nat} (h : n.isValidChar) : (Char.ofNat n).toNat = n := by
  rw [Char.ofNat, dif_pos h]
  rfl

/-- A character that lower-casing leaves alone. -/
def IsSmall (c : Char) : Prop := c ≠ '\u0130' ∧ smallForm? c.toNat = none

instance (c : Char) : Decidable (IsSmall c) := by
  unfold IsSmall
  infer_instance

/-- The three shapes of an image. -/
theorem lowerChar_cases (c : Char) :
    (c = '\u0130' ∧ lowerChar c = ['i', '\u0307']) ∨
      (∃ m, smallForm? c.toNat = some m ∧ lowerChar c = [Char.ofNat m]) ∨
      (IsSmall c ∧ lowerChar c = [c]) := by
  by_cases hdot : c = '\u0130'
  · exact .inl ⟨hdot, by simp [lowerChar, hdot]⟩
  · cases hm : smallForm? c.toNat with
    | none => exact .inr (.inr ⟨⟨hdot, hm⟩, by simp [lowerChar, hdot, hm]⟩)
    | some m => exact .inr (.inl ⟨m, rfl, by simp [lowerChar, hdot, hm]⟩)

theorem lowerChar_of_isSmall {c : Char} (h : IsSmall c) : lowerChar c = [c] := by
  rcases lowerChar_cases c with ⟨hdot, _⟩ | ⟨m, hm, _⟩ | ⟨_, e⟩
  · exact absurd hdot h.1
  · rw [h.2] at hm
    cases hm
  · exact e

theorem isSmall_of_mem_lowerChar {c d : Char} (h : d ∈ lowerChar c) : IsSmall d := by
  rcases lowerChar_cases c with ⟨_, e⟩ | ⟨m, hm, e⟩ | ⟨hc, e⟩ <;> rw [e] at h
  · have marks : ∀ x ∈ ['i', '\u0307'], IsSmall x := by
      rw [List.forall_mem_cons, List.forall_mem_singleton]
      decide +kernel
    exact marks d h
  · obtain ⟨_, hdot, hvalid⟩ := smallForm?_bounds hm
    have hd : d.toNat = m := by
      rw [List.mem_singleton.1 h]
      exact toNat_ofNat_of_isValidChar hvalid
    refine ⟨?_, by rw [hd]; exact smallForm?_image hm⟩
    rintro rfl
    exact hdot hd.symm
  · rw [List.mem_singleton.1 h]
    exact hc

theorem isSmall_sigma : IsSmall 'σ' ∧ IsSmall 'ς' ∧ ¬ IsSmall 'Σ' := by decide +kernel

/-- Every character of a lower-cased text comes from one of the text. A capital sigma may also give
the final sigma. -/
theorem mem_lowerAfter {b : Bool} {t : Text} {d : Char} (h : d ∈ lowerAfter b t) :
    ∃ c ∈ t, d ∈ lowerChar c ∨ c = 'Σ' ∧ (d = 'σ' ∨ d = 'ς') := by
  induction t generalizing b with
  | nil => cases h
  | cons c rest ih =>
    rw [lowerAfter, List.mem_append] at h
    rcases h with h | h
    · refine ⟨c, List.mem_cons_self, ?_⟩
      split at h
      · rename_i hc
        split at h <;> simp_all
      · exact .inl h
    · obtain ⟨e, he, hd⟩ := ih h
      exact ⟨e, List.mem_cons_of_mem c he, hd⟩

theorem isSmall_of_mem_lowerAfter {b : Bool} {t : Text} {d : Char} (h : d ∈ lowerAfter b t) :
    IsSmall d := by
  obtain ⟨c, _, hd | ⟨_, rfl | rfl⟩⟩ := mem_lowerAfter h
  · exact isSmall_of_mem_lowerChar hd
  · exact isSmall_sigma.1
  · exact isSmall_sigma.2.1

theorem lowerAfter_of_isSmall {b : Bool} {t : Text} (h : ∀ c ∈ t, IsSmall c) :
    lowerAfter b t = t := by
  induction t generalizing b with
  | nil => rfl
  | cons c rest ih =>
    have hc := h c List.mem_cons_self
    have hsigma : c ≠ 'Σ' := fun e => isSmall_sigma.2.2 (e ▸ hc)
    rw [lowerAfter, if_neg hsigma, lowerChar_of_isSmall hc,
      ih fun d hd => h d (List.mem_cons_of_mem c hd)]
    rfl

/-- Lower-casing is idempotent on every text. -/
@[simp] theorem lowerCase_lowerCase (t : Text) : lowerCase (lowerCase t) = lowerCase t :=
  lowerAfter_of_isSmall fun _ h => isSmall_of_mem_lowerAfter h

/-- An image below the small letters of ASCII is the character itself. -/
theorem eq_of_mem_lowerChar {c d : Char} (h : d ∈ lowerChar c) (hd : d.toNat < 0x61) : d = c := by
  rcases lowerChar_cases c with ⟨_, e⟩ | ⟨m, hm, e⟩ | ⟨_, e⟩ <;> rw [e] at h
  · have marks : ∀ x ∈ ['i', '\u0307'], 0x61 ≤ x.toNat := by
      rw [List.forall_mem_cons, List.forall_mem_singleton]
      decide
    exact absurd hd (Nat.not_lt.2 (marks d h))
  · obtain ⟨hlow, _, hvalid⟩ := smallForm?_bounds hm
    rw [List.mem_singleton.1 h, toNat_ofNat_of_isValidChar hvalid] at hd
    omega
  · exact List.mem_singleton.1 h

theorem mem_of_mem_lowerAfter {b : Bool} {t : Text} {d : Char} (h : d ∈ lowerAfter b t)
    (hd : d.toNat < 0x61) : d ∈ t := by
  obtain ⟨c, hc, hdc | ⟨_, rfl | rfl⟩⟩ := mem_lowerAfter h
  · exact eq_of_mem_lowerChar hdc hd ▸ hc
  · exact absurd hd (by decide)
  · exact absurd hd (by decide)

theorem slash_notMem_lowerCase {t : Text} (h : '/' ∉ t) : '/' ∉ lowerCase t :=
  fun hs => h (mem_of_mem_lowerAfter hs (by decide))

/-! ## Images in ASCII -/

theorem caseRuns_ascii : ∀ r ∈ caseRuns, (r.first < 0x80 ∨ r.image < 0x80) →
    r = ⟨0x41, 0x5A, 1, 0x61⟩ ∨ r = ⟨0x212A, 0x212A, 1, 0x6B⟩ := by
  decide +kernel

/-- A capital in ASCII, or one with its small form there, is an ASCII capital or the Kelvin sign. -/
theorem smallForm?_ascii {n m : Nat} (h : smallForm? n = some m) (hs : n < 0x80 ∨ m < 0x80) :
    (0x41 ≤ n ∧ n ≤ 0x5A ∧ m = n + 0x20) ∨ (n = 0x212A ∧ m = 0x6B) := by
  obtain ⟨r, hr, hm⟩ := exists_run_of_smallForm? h
  obtain ⟨⟨hfirst, hlast, _⟩, rfl⟩ := CaseRun.small?_eq_some_iff.1 hm
  rcases caseRuns_ascii r hr (by omega) with rfl | rfl
  · simp only at *
    omega
  · simp only at *
    omega

theorem not_isSmall_of_capital {c : Char} (hA : 'A' ≤ c) (hZ : c ≤ 'Z') : ¬ IsSmall c := by
  have table : ∀ k < 26, smallForm? (0x41 + k) ≠ none := by decide +kernel
  rw [Char.le_def, UInt32.le_iff_toNat_le] at hA hZ
  change 0x41 ≤ c.toNat at hA
  change c.toNat ≤ 0x5A at hZ
  intro hc
  apply table (c.toNat - 0x41) (by omega)
  rw [Nat.add_sub_cancel' hA]
  exact hc.2

theorem smallForm?_kelvin : smallForm? 0x212A = some 0x6B := by decide +kernel

end ServiceGateway
