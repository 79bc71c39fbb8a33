import ServiceGateway.JsonReader
import ServiceGateway.Proofs.Refusals
import ServiceGateway.Proofs.WrittenParts

/-!
# Reading what was written

A document of truth values, integers, texts, arrays and objects, with texts for the names of their
members, is read as itself from its written form. Each part is read with the rest of the text behind
it, which may be anything that does not go on with a number. The fuel of the reader is compared with
the length of the part, since every part takes more characters than calls.
-/
namespace ServiceGateway.Json

/-! ## Strings -/

theorem readUnits_escape {e : Char} {n : Nat} {units : List Nat} {rest after : Text} (hu : e ≠ 'u')
    (he : escapedUnit? e = some n) (h : readUnits rest = some (units, after)) :
    readUnits ('\\' :: e :: rest) = some (n :: units, after) := by
  rw [readUnits, he, h]
  · rfl
  · exact fun _ _ _ _ _ hc _ => hu hc

theorem readUnits_hexEscape {n : Nat} {units : List Nat} {rest after : Text} (hn : n < 0x20)
    (h : readUnits rest = some (units, after)) :
    readUnits ('\\' :: 'u' :: hexDigits 'a' 4 n ++ rest) = some (n :: units, after) := by
  have read : readHex? (hexDigits 'a' 4 n) = some n :=
    readHex?_hexDigits (Nat.lt_of_lt_of_le hn (by decide))
  have digits : hexDigits 'a' 4 n = [hexDigit 'a' (n / 16 / 16 / 16 % 16),
    hexDigit 'a' (n / 16 / 16 % 16), hexDigit 'a' (n / 16 % 16), hexDigit 'a' (n % 16)] := rfl
  rw [digits] at read ⊢
  simp only [List.cons_append, List.nil_append]
  rw [readUnits, read, h]
  rfl

theorem readUnits_plain {c : Char} {units : List Nat} {rest after : Text} (hquote : c ≠ '"')
    (hescape : c ≠ '\\') (hc : ¬ c.toNat < 0x20) (h : readUnits rest = some (units, after)) :
    readUnits (c :: rest) = some (c.toNat :: units, after) := by
  rw [readUnits, if_neg hc, h]
  · rfl
  · exact hquote
  · exact fun _ _ _ _ _ e _ => hescape e
  · exact fun _ _ e _ => hescape e

theorem readUnits_stringChar {units : List Nat} {rest after : Text} (c : Char)
    (h : readUnits rest = some (units, after)) :
    readUnits (stringChar c ++ rest) = some (c.toNat :: units, after) := by
  unfold stringChar
  split_ifs with hquote hescape hn hr ht hf hb hc
  · rw [hquote]
    exact readUnits_escape (by decide) rfl h
  · rw [hescape]
    exact readUnits_escape (by decide) rfl h
  · exact hn ▸ readUnits_escape (by decide) rfl h
  · exact hr ▸ readUnits_escape (by decide) rfl h
  · exact ht ▸ readUnits_escape (by decide) rfl h
  · exact hf ▸ readUnits_escape (by decide) rfl h
  · exact hb ▸ readUnits_escape (by decide) rfl h
  · exact readUnits_hexEscape hc h
  · exact readUnits_plain hquote hescape hc h

theorem readUnits_flatMap_stringChar (t rest : Text) :
    readUnits (t.flatMap stringChar ++ '"' :: rest) = some (t.map Char.toNat, rest) := by
  induction t with
  | nil => rfl
  | cons c t ih =>
    rw [List.flatMap_cons, List.append_assoc, readUnits_stringChar c ih, List.map_cons]

theorem stringText_append (t rest : Text) :
    stringText t ++ rest = '"' :: (t.flatMap stringChar ++ '"' :: rest) := by
  simp [stringText]

/-- No character is a surrogate. -/
theorem not_surrogate (c : Char) :
    isHighSurrogate c.toNat = false ∧ isLowSurrogate c.toNat = false := by
  have hvalid : c.toNat < 0xd800 ∨ 0xdfff < c.toNat := by
    rcases c.valid with h | h
    · exact .inl h
    · exact .inr h.1
  simp only [isHighSurrogate, isLowSurrogate, Bool.and_eq_false_iff, decide_eq_false_iff_not]
  omega

theorem ofUnits?_map_toNat : (t : Text) → ofUnits? (t.map Char.toNat) = some t
  | [] => rfl
  | [c] => by simp [ofUnits?, not_surrogate c]
  | c :: d :: rest => by
    have ih := ofUnits?_map_toNat (d :: rest)
    rw [List.map_cons] at ih
    simp [ofUnits?, not_surrogate c, ih]

theorem readString_flatMap_stringChar (t rest : Text) :
    readString (t.flatMap stringChar ++ '"' :: rest) = some (t, rest) := by
  simp [readString, readUnits_flatMap_stringChar, ofUnits?_map_toNat]

/-! ## Integers -/

/-- What may follow a number. -/
def EndsNumeral (rest : Text) : Prop := ∀ c ∈ rest.head?, isNumeralChar c = false

theorem isNumeralChar_of_isNumeral {c : Char} (h : isNumeral c = true) :
    isNumeralChar c = true := by
  rw [isNumeral, Bool.or_eq_true, beq_iff_eq] at h
  rcases h with h | rfl
  · rw [isNumeralChar, h, Bool.true_or]
  · decide

theorem isIntegerText_integerText (n : Int) : isIntegerText (integerText n) = true := by
  have digits (n : Nat) : (naturalText n).all (·.isDigit) = true :=
    List.all_eq_true.2 fun c hc => isDigit_of_mem_naturalText hc
  cases n with
  | ofNat n =>
    rw [integerText, isIntegerText]
    · simp [digits, naturalText_ne_nil]
    · exact fun rest h => naturalText_ne_of_hyphen_mem List.mem_cons_self h
  | negSucc n => simp [integerText, isIntegerText, digits, naturalText_ne_nil]

theorem readUnsigned?_naturalText (negative : Bool) (n : Nat) :
    DecimalNumeral.readUnsigned? negative (naturalText n) = some (⟨negative, n, 0⟩, []) := by
  have digits : ∀ c ∈ naturalText n, c.isDigit = true := fun c hc => isDigit_of_mem_naturalText hc
  have front := takeWhile_append_of_kind (r := []) digits (by simp)
  have behind := dropWhile_append_of_kind (r := []) digits (by simp)
  rw [List.append_nil] at front behind
  have value : readDigits (naturalText n) = n := ofDigitChars_naturalText n
  simp [DecimalNumeral.readUnsigned?, DecimalNumeral.readExponent, front, behind,
    naturalText_ne_nil, value]

/-- An integer begins with a digit, with or without a hyphen in front. -/
theorem integerText_cases (n : Int) :
    ∃ c t, c.isDigit = true ∧ (integerText n = c :: t ∨ integerText n = '-' :: c :: t) := by
  have digits (n : Nat) : ∃ c t, c.isDigit = true ∧ naturalText n = c :: t := by
    obtain ⟨c, t, h⟩ := List.exists_cons_of_ne_nil (naturalText_ne_nil n)
    exact ⟨c, t, isDigit_of_mem_naturalText (h ▸ List.mem_cons_self), h⟩
  cases n with
  | ofNat n =>
    obtain ⟨c, t, hc, h⟩ := digits n
    exact ⟨c, t, hc, .inl h⟩
  | negSucc n =>
    obtain ⟨c, t, hc, h⟩ := digits (n + 1)
    exact ⟨c, t, hc, .inr (congrArg ('-' :: ·) h)⟩

theorem splitSign_naturalText (n : Nat) : splitSign (naturalText n) = (false, naturalText n) := by
  rw [splitSign]
  · exact fun rest h => naturalText_ne_of_hyphen_mem List.mem_cons_self h
  · intro rest h
    have plus : ('+' : Char).isDigit = true := isDigit_of_mem_naturalText (h ▸ List.mem_cons_self)
    cases plus

theorem read?_integerText (n : Int) :
    DecimalNumeral.read? (integerText n) = some (DecimalNumeral.ofInt n) := by
  cases n with
  | ofNat n =>
    simp [DecimalNumeral.read?, DecimalNumeral.readFirst?, integerText, splitSign_naturalText,
      readUnsigned?_naturalText, DecimalNumeral.ofInt]
  | negSucc n =>
    simp [DecimalNumeral.read?, DecimalNumeral.readFirst?, integerText, splitSign,
      readUnsigned?_naturalText, DecimalNumeral.ofInt]

/-- No word for a number begins like an integer. -/
theorem numberWords_integerText (n : Int) (rest : Text) :
    (numberWords.findSome? fun w =>
      (below? w.1 (integerText n ++ rest)).map (Scalar.double w.2, ·)) =
      none := by
  obtain ⟨c, t, hc, h⟩ := integerText_cases n
  have hN : 'N' ≠ c := by rintro rfl; cases hc
  have hI : 'I' ≠ c := by rintro rfl; cases hc
  have hhyphen : '-' ≠ c := by rintro rfl; cases hc
  have words : numberWords = [("NaN".toList, .nan), ("Infinity".toList, .infinite false),
    ("-Infinity".toList, .infinite true)] := rfl
  rcases h with h | h <;> simp [words, h, below?, hN, hI, hhyphen]

theorem readNumber_integerText (n : Int) {rest : Text} (h : EndsNumeral rest) :
    readNumber (integerText n ++ rest) = some (.integer n, rest) := by
  have numeral : ∀ c ∈ integerText n, isNumeralChar c = true := fun c hc =>
    isNumeralChar_of_isNumeral (isNumeral_of_mem_integerText hc)
  have value : (if (DecimalNumeral.ofInt n).negative then
      -((DecimalNumeral.ofInt n).coefficient : Int) else (DecimalNumeral.ofInt n).coefficient) =
        n := by
    simp only [DecimalNumeral.ofInt, decide_eq_true_eq]
    omega
  rw [readNumber, numberWords_integerText, Option.none_or, readNumeral,
    takeWhile_append_of_kind numeral h, dropWhile_append_of_kind numeral h, read?_integerText]
  simp [isIntegerText_integerText, value]

/-! ## Documents -/

theorem skipBlanks_cons {c : Char} (h : isBlank c = false) (t : Text) :
    skipBlanks (c :: t) = c :: t :=
  List.dropWhile_cons_of_neg (by rw [h]; exact Bool.false_ne_true)

theorem isBlank_of_isNumeral {c : Char} (hc : isNumeral c = true) : isBlank c = false := by
  by_contra h
  simp only [isBlank, Bool.not_eq_false, Bool.or_eq_true, decide_eq_true_eq] at h
  rcases h with ((rfl | rfl) | rfl) | rfl <;> cases hc

theorem readValue_of_isNumeral {c : Char} (hc : isNumeral c = true) (fuel : Nat) (t : Text) :
    readValue (fuel + 1) (c :: t) =
      (readNumber (c :: t)).map fun (n, rest) => (scalar n, rest) := by
  rw [readValue, skipBlanks_cons (isBlank_of_isNumeral hc)]
  split
  -- the last alternative is the number; the others begin with a character that no integer has
  case h_7 => rfl
  all_goals
    rename_i h
    rw [(List.cons.inj h).1] at hc
    cases hc

/-- The text is read as the document with anything behind it that does not go on with a number. It
is not taken for the end of an array. -/
structure ReadsBack (j : Json) (t : Text) : Prop where
  opens : ∃ c rest, t = c :: rest ∧ isBlank c = false ∧ c ≠ ']'
  reads : ∀ fuel rest, t.length ≤ fuel → EndsNumeral rest →
    readValue (fuel + 1) (t ++ rest) = some (j, rest)

theorem readsBack_null : ReadsBack (scalar .null) "null" where
  opens := ⟨_, _, rfl, by decide, by decide⟩
  reads _ _ _ _ := rfl

theorem readsBack_boolean (b : Bool) :
    ReadsBack (scalar (.boolean b)) (if b then "true" else "false") where
  opens := by cases b <;> exact ⟨_, _, rfl, by decide, by decide⟩
  reads _ _ _ _ := by cases b <;> rfl

theorem readsBack_integer (n : Int) : ReadsBack (scalar (.integer n)) (integerText n) := by
  obtain ⟨c, t, hc, h⟩ : ∃ c t, isNumeral c = true ∧ integerText n = c :: t := by
    obtain ⟨c, t, hc, h | h⟩ := integerText_cases n
    · exact ⟨c, t, isNumeral_of_isDigit hc, h⟩
    · exact ⟨'-', c :: t, by decide, h⟩
  refine ⟨⟨c, t, h, isBlank_of_isNumeral hc, ?_⟩, fun fuel rest _ hrest => ?_⟩
  · rintro rfl
    cases hc
  · have number := readNumber_integerText n hrest
    rw [h] at number ⊢
    rw [List.cons_append, readValue_of_isNumeral hc, ← List.cons_append, number]
    rfl

theorem readsBack_text (t : Text) : ReadsBack (scalar (.text t)) (stringText t) where
  opens := ⟨_, _, rfl, by decide, by decide⟩
  reads fuel rest _ _ := by
    rw [stringText_append, readValue, skipBlanks_cons (by decide)]
    simp [readString_flatMap_stringChar]

/-! ## Arrays -/

theorem endsNumeral_cons {c : Char} (h : isNumeralChar c = false) (rest : Text) :
    EndsNumeral (c :: rest) := by
  intro d hd
  rwa [← Option.some.inj hd]

theorem readItems_last {fuel : Nat} {j : Json} {t rest : Text}
    (h : readValue fuel t = some (j, ']' :: rest)) :
    readItems (fuel + 1) t = some ([j], rest) := by
  rw [readItems, h]
  rfl

theorem readItems_further {fuel : Nat} {j : Json} {items : List Json} {t u rest : Text}
    (h : readValue fuel t = some (j, ',' :: u)) (hu : readItems fuel u = some (items, rest)) :
    readItems (fuel + 1) t = some (j :: items, rest) := by
  rw [readItems, h]
  change (readItems fuel u >>= fun x => some (j :: x.1, x.2)) = _
  rw [hu]
  rfl

/-- The induction is on the items. Each call gives up one unit of fuel, and an item with the comma
behind it takes two characters or more. -/
theorem readItems_joinWith {items : List Json} {texts : List Text}
    (h : List.Forall₂ ReadsBack items texts) (hne : items ≠ []) (fuel : Nat) (rest : Text)
    (hfuel : (joinWith [','] texts).length < fuel) :
    readItems (fuel + 1) (joinWith [','] texts ++ ']' :: rest) = some (items, rest) := by
  induction h generalizing fuel with
  | nil => exact absurd rfl hne
  | @cons j t items texts hj htail ih =>
    obtain ⟨fuel, rfl⟩ := Nat.exists_eq_succ_of_ne_zero (Nat.ne_zero_of_lt hfuel)
    cases htail with
    | nil =>
      rw [joinWith_singleton] at hfuel ⊢
      exact readItems_last (hj.reads fuel _ (by omega) (endsNumeral_cons (by decide) _))
    | @cons k u items texts hk htail =>
      obtain ⟨c, t', ht, _⟩ := hj.opens
      have positive : 0 < t.length := by rw [ht]; exact Nat.succ_pos _
      rw [joinWith_cons_cons, List.length_append, List.length_cons] at hfuel
      rw [joinWith_cons_cons, List.append_assoc, List.cons_append]
      have first := hj.reads fuel (',' :: (joinWith [','] (u :: texts) ++ ']' :: rest)) (by omega)
        (endsNumeral_cons (by decide) _)
      exact readItems_further first (ih (List.cons_ne_nil k items) fuel (by omega))

theorem readValue_array {c : Char} (hblank : isBlank c = false) (hc : c ≠ ']') (fuel : Nat)
    (t : Text) :
    readValue (fuel + 1) ('[' :: c :: t) =
      (readItems fuel (c :: t)).map fun (items, rest) => (array items, rest) := by
  rw [readValue, skipBlanks_cons (by decide)]
  simp only [skipBlanks_cons hblank]
  split
  · rename_i h
    exact absurd (List.cons.inj h).1 hc
  · rfl

theorem readsBack_array {items : List Json} {texts : List Text}
    (h : List.Forall₂ ReadsBack items texts) :
    ReadsBack (array items) ('[' :: joinWith [','] texts ++ [']']) where
  opens := ⟨_, _, rfl, by decide, by decide⟩
  reads fuel rest hfuel _ := by
    cases h with
    | nil => rfl
    | @cons j t items texts hj htail =>
      obtain ⟨c, u, hu, hblank, hc⟩ : ∃ c u, joinWith [','] (t :: texts) = c :: u ∧
          isBlank c = false ∧ c ≠ ']' := by
        obtain ⟨c, t', rfl, hc⟩ := hj.opens
        cases texts with
        | nil => exact ⟨c, t', joinWith_singleton _ _, hc⟩
        | cons v texts => exact ⟨c, _, joinWith_cons_cons ',' _ v texts, hc⟩
      have inner := readItems_joinWith (.cons hj htail) (List.cons_ne_nil j items)
      simp only [List.length_append, List.length_cons, List.length_nil] at hfuel
      obtain ⟨fuel, rfl⟩ := Nat.exists_eq_succ_of_ne_zero (show fuel ≠ 0 by omega)
      have items := inner fuel rest (by omega)
      rw [hu] at items ⊢
      have text : '[' :: (c :: u) ++ [']'] ++ rest = '[' :: c :: (u ++ ']' :: rest) := by simp
      rw [text, readValue_array hblank hc, ← List.cons_append, items]
      rfl

/-! ## Objects -/

/-- The name of a member takes no fuel. -/
theorem readMembers_named (fuel : Nat) (name t : Text) :
    readMembers (fuel + 1) (stringText name ++ ':' :: t) =
      readValue fuel t >>= fun (value, rest) =>
        match skipBlanks rest with
        | '}' :: rest => some ([(.text name, value)], rest)
        | ',' :: rest => readMembers fuel rest >>= fun (members, rest) =>
          some ((.text name, value) :: members, rest)
        | _ => none := by
  rw [stringText_append, readMembers, skipBlanks_cons (by decide)]
  change (readString _ >>= _) = _
  rw [readString_flatMap_stringChar]
  rfl

theorem readMembers_last {fuel : Nat} {name t rest : Text} {j : Json}
    (h : readValue fuel t = some (j, '}' :: rest)) :
    readMembers (fuel + 1) (stringText name ++ ':' :: t) = some ([(.text name, j)], rest) := by
  rw [readMembers_named, h]
  rfl

theorem readMembers_further {fuel : Nat} {name t u rest : Text} {j : Json}
    {members : List (Scalar × Json)} (h : readValue fuel t = some (j, ',' :: u))
    (hu : readMembers fuel u = some (members, rest)) :
    readMembers (fuel + 1) (stringText name ++ ':' :: t) =
      some ((.text name, j) :: members, rest) := by
  rw [readMembers_named, h]
  change (readMembers fuel u >>= fun x => some ((.text name, j) :: x.1, x.2)) = _
  rw [hu]
  rfl

/-- A member whose name is a text, and whose value is read back. -/
def MemberReadsBack (m : Scalar × Json) (t : Text) : Prop :=
  ∃ name u, m.1 = .text name ∧ t = stringText name ++ ':' :: u ∧ ReadsBack m.2 u

theorem readMembers_joinWith {members : List (Scalar × Json)} {texts : List Text}
    (h : List.Forall₂ MemberReadsBack members texts) (hne : members ≠ []) (fuel : Nat) (rest : Text)
    (hfuel : (joinWith [','] texts).length < fuel) :
    readMembers (fuel + 1) (joinWith [','] texts ++ '}' :: rest) = some (members, rest) := by
  induction h generalizing fuel with
  | nil => exact absurd rfl hne
  | @cons m t members texts hm htail ih =>
    obtain ⟨fuel, rfl⟩ := Nat.exists_eq_succ_of_ne_zero (Nat.ne_zero_of_lt hfuel)
    obtain ⟨_, j⟩ := m
    obtain ⟨name, u, rfl, rfl, hj⟩ := hm
    cases htail with
    | nil =>
      simp only [joinWith_singleton, List.length_append, List.length_cons, List.append_assoc,
        List.cons_append] at hfuel ⊢
      exact readMembers_last (hj.reads fuel _ (by omega) (endsNumeral_cons (by decide) _))
    | @cons n v members texts hn htail =>
      simp only [joinWith_cons_cons, List.length_append, List.length_cons, List.append_assoc,
        List.cons_append] at hfuel ⊢
      have first := hj.reads fuel (',' :: (joinWith [','] (v :: texts) ++ '}' :: rest)) (by omega)
        (endsNumeral_cons (by decide) _)
      exact readMembers_further first (ih (List.cons_ne_nil n members) fuel (by omega))

theorem readsBack_object {members : List (Scalar × Json)} {texts : List Text}
    (h : List.Forall₂ MemberReadsBack members texts) :
    ReadsBack (object members) ('{' :: joinWith [','] texts ++ ['}']) where
  opens := ⟨_, _, rfl, by decide, by decide⟩
  reads fuel rest hfuel _ := by
    cases h with
    | nil => rfl
    | @cons m t members texts hm htail =>
      obtain ⟨u, hu⟩ : ∃ u, joinWith [','] (t :: texts) = '"' :: u := by
        obtain ⟨name, v, _, rfl, _⟩ := hm
        cases texts with
        | nil => exact ⟨_, joinWith_singleton _ _⟩
        | cons v texts => exact ⟨_, joinWith_cons_cons ',' _ v texts⟩
      have inner := readMembers_joinWith (.cons hm htail) (List.cons_ne_nil m members)
      simp only [List.length_append, List.length_cons, List.length_nil] at hfuel
      obtain ⟨fuel, rfl⟩ := Nat.exists_eq_succ_of_ne_zero (show fuel ≠ 0 by omega)
      have members := inner fuel rest (by omega)
      rw [hu] at members ⊢
      have text : '{' :: ('"' :: u) ++ ['}'] ++ rest = '{' :: '"' :: (u ++ '}' :: rest) := by simp
      rw [text, readValue, skipBlanks_cons (by decide)]
      change (readMembers (fuel + 1) ('"' :: u ++ '}' :: rest)).map _ = _
      rw [members]
      rfl

/-! ## What is written is read -/

/-- Documents without numbers other than integers, with texts for the names of members. -/
inductive Plain : Json → Prop
  | null : Plain (scalar .null)
  | boolean (b : Bool) : Plain (scalar (.boolean b))
  | integer (n : Int) : Plain (scalar (.integer n))
  | text (t : Text) : Plain (scalar (.text t))
  | array {items : List Json} (hitems : ∀ j ∈ items, Plain j) : Plain (array items)
  | object {members : List (Scalar × Json)} (hnames : ∀ m ∈ members, ∃ t, m.1 = .text t)
      (hvalues : ∀ m ∈ members, Plain m.2) : Plain (object members)

theorem ReadsBack.read?_eq {j : Json} {t : Text} (h : ReadsBack j t) : read? t = some j := by
  have whole := h.reads t.length [] (Nat.le_refl _) (by simp [EndsNumeral])
  rw [List.append_nil] at whole
  rw [read?, whole]
  rfl

theorem readsBack_write {j : Json} (hj : j.Plain) {t : Text} (h : write j = .ok t) :
    ReadsBack j t := by
  induction hj generalizing t with
  | null => exact Except.ok.inj h ▸ readsBack_null
  | boolean b => exact Except.ok.inj h ▸ readsBack_boolean b
  | integer n =>
    rw [write, scalarText] at h
    split at h
    · exact Except.ok.inj h ▸ readsBack_integer n
    · cases h
  | text u => exact Except.ok.inj h ▸ readsBack_text u
  | array _ ih =>
    rw [write, writeAll_eq_mapM, bind_eq_ok_iff] at h
    obtain ⟨texts, htexts, h⟩ := h
    have parts := (List.forall₂_and_left _ _).2 ⟨ih, mapM_eq_ok_iff.1 htexts⟩
    exact Except.ok.inj h ▸ readsBack_array (parts.imp fun _ _ part => part.1 part.2)
  | object hnames _ ih =>
    rw [write, writeMembers_eq_mapM, bind_eq_ok_iff] at h
    obtain ⟨texts, htexts, h⟩ := h
    have parts := (List.forall₂_and_left _ _).2
      ⟨fun m hm => And.intro (hnames m hm) (@ih m hm), mapM_eq_ok_iff.1 htexts⟩
    refine Except.ok.inj h ▸ readsBack_object (parts.imp ?_)
    rintro ⟨_, j⟩ u ⟨⟨⟨name, rfl⟩, back⟩, hu⟩
    obtain ⟨_, hn, hu⟩ := bind_eq_ok_iff.1 hu
    obtain ⟨v, hv, hu⟩ := bind_eq_ok_iff.1 hu
    exact ⟨name, v, rfl, by rw [← Except.ok.inj hu, ← Except.ok.inj hn], back hv⟩

/-- A plain document is read from its own text. -/
theorem read?_of_write {j : Json} (hj : j.Plain) {t : Text} (h : write j = .ok t) :
    read? t = some j := (readsBack_write hj h).read?_eq

/-- The object of texts that `textObject` writes. -/
def ofTexts (members : List (Text × Text)) : Json :=
  object (members.map fun m => (.text m.1, scalar (.text m.2)))

theorem write_ofTexts (members : List (Text × Text)) :
    write (ofTexts members) = .ok (textObject members) := by
  have texts : (members.map fun m => (Scalar.text m.1, scalar (.text m.2))).mapM writeMember =
      .ok (members.map fun m => stringText m.1 ++ ':' :: stringText m.2) := by
    rw [mapM_eq_ok_iff, List.forall₂_map_left_iff, List.forall₂_map_right_iff, List.forall₂_same]
    exact fun m _ => rfl
  rw [ofTexts, write, writeMembers_eq_mapM, texts]
  rfl

theorem read?_textObject (members : List (Text × Text)) :
    read? (textObject members) = some (ofTexts members) := by
  refine read?_of_write (.object ?_ ?_) (write_ofTexts members)
  · exact List.forall_mem_map.2 fun m _ => ⟨m.1, rfl⟩
  · exact List.forall_mem_map.2 fun m _ => .text m.2

end ServiceGateway.Json
