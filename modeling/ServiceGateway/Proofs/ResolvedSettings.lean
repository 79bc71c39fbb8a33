import ServiceGateway.Proofs.SettingChoice

/-!
# Resolved settings

The sources decide one value for each setting. Settings come out exactly if all of these are valid,
and the base path is then put between slashes; else the faults tell the settings whose values are
not valid, in their order. Nothing that the sources hold besides counts, so that settings which are
handed over as arguments come out as they are.
-/
namespace ServiceGateway

open Settings

/-! ## Valid values -/

/-- The text that a value spells. Octets spell the text that they are in UTF-8. -/
inductive Value.Spells : Value → Text → Prop
  | text (t : Text) : Spells (.text t) t
  | octets {b : Octets} {t : Text} : utf8 t = b → Spells (.atom (.octets b)) t
  | buffer {b : Octets} {t : Text} : utf8 t = b → Spells (.atom (.buffer b)) t

/-- The words for a truth value. -/
def truthWords : Bool → List Text
  | true => trueWords
  | false => falseWords

/-- The truth value that a value tells. Words do so in any case of their ASCII letters, numbers by
being one or zero. -/
inductive Value.Tells : Value → Bool → Prop
  | boolean (b : Bool) : Tells (.atom (.boolean b)) b
  | text {t : Text} {b : Bool} : t.map Char.toLower ∈ truthWords b → Tells (.text t) b
  | octets {t : Text} {b : Bool} {o : Octets} : utf8 t = o → t.map Char.toLower ∈ truthWords b →
      Tells (.atom (.octets o)) b
  | integer (b : Bool) : Tells (.atom (.integer b.toNat)) b
  | double {x : Binary64} {b : Bool} : x.toInt? = some (b.toNat : Int) → Tells (.atom (.double x)) b
  | decimal {d : Decimal} {b : Bool} :
      (Binary64.ofDecimal d).toInt? = some (b.toNat : Int) → Tells (.atom (.decimal d)) b

namespace SettingField

/-- The settings in their order. -/
def all : List SettingField := [appEnv, logLevel, basePath, exposeHidden]

/-- The values that a setting can have. -/
def Valid : SettingField → Value → Prop
  | appEnv, v | logLevel, v => ∃ t, v.Spells t
  | basePath, v => ∃ t, v.Spells t ∧ t.head? = some '/'
  | exposeHidden, v => ∃ b, v.Tells b

/-- The settings have the setting from the value. -/
def Takes (s : Settings) : SettingField → Value → Prop
  | appEnv, v => v.Spells s.appEnv
  | logLevel, v => v.Spells s.logLevel
  | basePath, v => ∃ t, v.Spells t ∧ t.head? = some '/' ∧ slashEnded t = s.basePath
  | exposeHidden, v => v.Tells s.exposeHidden

end SettingField

namespace Settings

theorem checkText_eq_ok_iff {v : Value} {t : Text} : checkText v = .ok t ↔ v.Spells t := by
  constructor
  · intro h
    unfold checkText at h
    split at h
    · cases h
      exact .text t
    · split at h
      · cases h
        exact .octets (ofUtf8?_eq_some_iff.1 ‹_›)
      · cases h
    · split at h
      · cases h
        exact .buffer (ofUtf8?_eq_some_iff.1 ‹_›)
      · cases h
    · cases h
  · intro h
    cases h with
    | text => rfl
    | octets hb => rw [checkText, ofUtf8?_eq_some_iff.2 hb]
    | buffer hb => rw [checkText, ofUtf8?_eq_some_iff.2 hb]

theorem checkPath_eq_ok_iff {v : Value} {path : Text} :
    checkPath v = .ok path ↔ ∃ t, v.Spells t ∧ t.head? = some '/' ∧ slashEnded t = path := by
  constructor
  · intro h
    unfold checkPath at h
    cases ht : checkText v with
    | error e =>
      rw [ht] at h
      cases h
    | ok t =>
      rw [ht] at h
      change (if t.head? = some '/' then _ else _) = _ at h
      split at h
      · exact ⟨t, checkText_eq_ok_iff.1 ht, ‹_›, Except.ok.inj h⟩
      · cases h
  · intro hex
    obtain ⟨t, ht, hhead, rfl⟩ := hex
    rw [checkPath, checkText_eq_ok_iff.2 ht]
    exact if_pos hhead

theorem readWord_eq_ok_iff {t : Text} {b : Bool} :
    readWord t = .ok b ↔ t.map Char.toLower ∈ truthWords b := by
  have disjoint : ∀ w ∈ falseWords, w ∉ trueWords := by decide
  simp only [readWord, List.contains_eq_mem, decide_eq_true_eq]
  cases b with
  | true =>
    split
    · exact iff_of_true rfl ‹_›
    · refine iff_of_false (fun h => ?_) ‹_›
      split at h <;> cases h
  | false =>
    split
    · exact iff_of_false (fun h => by cases h) fun h => disjoint _ h ‹_›
    · split
      · exact iff_of_true rfl ‹_›
      · exact iff_of_false (fun h => by cases h) ‹_›

theorem readInteger_eq_ok_iff {n : Int} {b : Bool} : readInteger n = .ok b ↔ n = b.toNat := by
  unfold readInteger
  constructor
  · intro h
    split at h
    · cases h
      assumption
    · split at h
      · cases h
        assumption
      · split at h <;> cases h
  · intro h
    cases b <;> subst h <;> rfl

theorem readNumber_eq_ok_iff {x : Binary64} {b : Bool} :
    readNumber x = .ok b ↔ x.toInt? = some (b.toNat : Int) := by
  unfold readNumber
  cases x.toInt? with
  | none => exact iff_of_false (fun h => by cases h) (fun h => by cases h)
  | some n =>
    rw [Option.some.injEq, ← readInteger_eq_ok_iff]
    change (if KeyPart.InRange (-n) then readInteger n else _) = _ ↔ _
    split
    · rfl
    · rename_i hrange
      refine iff_of_false (fun h => by cases h) fun h => hrange ?_
      rw [readInteger_eq_ok_iff.1 h]
      cases b <;> decide

theorem checkBoolean_eq_ok_iff {v : Value} {b : Bool} : checkBoolean v = .ok b ↔ v.Tells b := by
  constructor
  · intro h
    unfold checkBoolean at h
    split at h
    · cases h
      exact .boolean b
    · exact .text (readWord_eq_ok_iff.1 h)
    · split at h
      · exact .octets (ofUtf8?_eq_some_iff.1 ‹_›) (readWord_eq_ok_iff.1 h)
      · cases h
    · obtain rfl := readInteger_eq_ok_iff.1 h
      exact .integer b
    · exact .double (readNumber_eq_ok_iff.1 h)
    · exact .decimal (readNumber_eq_ok_iff.1 h)
    · cases h
  · intro h
    cases h with
    | boolean => rfl
    | text hword => exact readWord_eq_ok_iff.2 hword
    | octets ho hword =>
      rw [checkBoolean, ofUtf8?_eq_some_iff.2 ho]
      exact readWord_eq_ok_iff.2 hword
    | integer => exact readInteger_eq_ok_iff.2 rfl
    | double hx => exact readNumber_eq_ok_iff.2 hx
    | decimal hd => exact readNumber_eq_ok_iff.2 hd

/-! ## Settings of chosen values -/

/-- The faults that the value of a setting has, which are one or none. -/
def faultsOf (f : SettingField) (v : Value) : List (SettingField × SettingFault) :=
  match f with
  | .appEnv | .logLevel => faultOf f (checkText v)
  | .basePath => faultOf f (checkPath v)
  | .exposeHidden => faultOf f (checkBoolean v)

/-- The settings of chosen values, or all their faults. -/
def ofChoice (choice : SettingField → Value) :
    Except (List (SettingField × SettingFault)) Settings :=
  match checkText (choice .appEnv), checkText (choice .logLevel), checkPath (choice .basePath),
    checkBoolean (choice .exposeHidden) with
  | .ok appEnv, .ok logLevel, .ok basePath, .ok exposeHidden =>
    .ok ⟨appEnv, logLevel, basePath, exposeHidden⟩
  | _, _, _, _ => .error (SettingField.all.flatMap fun f => faultsOf f (choice f))

theorem chosen_eq_check {α : Type} {check : Value → Except SettingFault α} {default : α} {v : Value}
    (h : check v = .ok default) (given : Option Value) :
    chosen check default given = check (given.getD v) := by
  cases given with
  | none => exact h.symm
  | some _ => rfl

/-- The defaults pass the checks, so that what is checked is the value decided for the setting. -/
theorem resolve_eq_ofChoice (s : SettingSources) : resolve s = ofChoice s.choice := by
  have appEnv : checkText (defaults.value .appEnv) = .ok defaults.appEnv := rfl
  have logLevel : checkText (defaults.value .logLevel) = .ok defaults.logLevel := rfl
  have basePath : checkPath (defaults.value .basePath) = .ok defaults.basePath := rfl
  have exposeHidden : checkBoolean (defaults.value .exposeHidden) = .ok defaults.exposeHidden := rfl
  simp only [resolve, chosen_eq_check appEnv, chosen_eq_check logLevel, chosen_eq_check basePath,
    chosen_eq_check exposeHidden, ofChoice, SettingField.all, List.flatMap_cons, List.flatMap_nil,
    List.append_nil, List.append_assoc]
  rfl

theorem ofChoice_eq_ok_iff {choice : SettingField → Value} {s : Settings} :
    ofChoice choice = .ok s ↔ ∀ f : SettingField, f.Takes s (choice f) := by
  constructor
  · intro h
    unfold ofChoice at h
    split at h
    · rename_i appEnv logLevel basePath exposeHidden
      cases h
      intro f
      cases f with
      | appEnv => exact checkText_eq_ok_iff.1 appEnv
      | logLevel => exact checkText_eq_ok_iff.1 logLevel
      | basePath => exact checkPath_eq_ok_iff.1 basePath
      | exposeHidden => exact checkBoolean_eq_ok_iff.1 exposeHidden
    · cases h
  · intro h
    rw [ofChoice, checkText_eq_ok_iff.2 (h .appEnv), checkText_eq_ok_iff.2 (h .logLevel),
      checkPath_eq_ok_iff.2 (h .basePath), checkBoolean_eq_ok_iff.2 (h .exposeHidden)]

theorem exists_ofChoice_eq_ok_iff {choice : SettingField → Value} :
    (∃ s, ofChoice choice = .ok s) ↔ ∀ f : SettingField, f.Valid (choice f) := by
  simp only [ofChoice_eq_ok_iff]
  constructor
  · intro hex f
    obtain ⟨s, h⟩ := hex
    cases f with
    | appEnv => exact ⟨_, h .appEnv⟩
    | logLevel => exact ⟨_, h .logLevel⟩
    | basePath =>
      obtain ⟨t, ht, hhead, -⟩ := h .basePath
      exact ⟨t, ht, hhead⟩
    | exposeHidden => exact ⟨_, h .exposeHidden⟩
  · intro h
    obtain ⟨appEnv, happEnv⟩ := h .appEnv
    obtain ⟨logLevel, hlogLevel⟩ := h .logLevel
    obtain ⟨path, hpath, hhead⟩ := h .basePath
    obtain ⟨exposeHidden, hexposeHidden⟩ := h .exposeHidden
    refine ⟨⟨appEnv, logLevel, slashEnded path, exposeHidden⟩, fun f => ?_⟩
    cases f with
    | appEnv => exact happEnv
    | logLevel => exact hlogLevel
    | basePath => exact ⟨path, hpath, hhead, rfl⟩
    | exposeHidden => exact hexposeHidden

/-! ## Faults -/

theorem faultOf_eq_nil_iff {α : Type} {f : SettingField} {r : Except SettingFault α} :
    faultOf f r = [] ↔ ∃ a, r = .ok a := by
  cases r with
  | error e => exact iff_of_false (List.cons_ne_nil _ _) fun hex => by cases hex.choose_spec
  | ok a => exact iff_of_true rfl ⟨a, rfl⟩

theorem faultsOf_eq_nil_iff {f : SettingField} {v : Value} : faultsOf f v = [] ↔ f.Valid v := by
  cases f with
  | appEnv => exact faultOf_eq_nil_iff.trans (exists_congr fun t => checkText_eq_ok_iff)
  | logLevel => exact faultOf_eq_nil_iff.trans (exists_congr fun t => checkText_eq_ok_iff)
  | basePath =>
    refine faultOf_eq_nil_iff.trans ⟨fun hex => ?_, fun hex => ?_⟩
    · obtain ⟨path, hpath⟩ := hex
      obtain ⟨t, ht, hhead, -⟩ := checkPath_eq_ok_iff.1 hpath
      exact ⟨t, ht, hhead⟩
    · obtain ⟨t, ht, hhead⟩ := hex
      exact ⟨slashEnded t, checkPath_eq_ok_iff.2 ⟨t, ht, hhead, rfl⟩⟩
  | exposeHidden => exact faultOf_eq_nil_iff.trans (exists_congr fun b => checkBoolean_eq_ok_iff)

instance (f : SettingField) (v : Value) : Decidable (f.Valid v) :=
  decidable_of_iff (faultsOf f v = []) faultsOf_eq_nil_iff

theorem keys_faultOf {α : Type} (f : SettingField) (r : Except SettingFault α) :
    (faultOf f r).map Prod.fst = if faultOf f r = [] then [] else [f] := by
  cases r <;> rfl

theorem keys_faultsOf (f : SettingField) (v : Value) :
    (faultsOf f v).map Prod.fst = if f.Valid v then [] else [f] := by
  have keys : (faultsOf f v).map Prod.fst = if faultsOf f v = [] then [] else [f] := by
    cases f <;> exact keys_faultOf _ _
  simp only [keys, faultsOf_eq_nil_iff]

theorem keys_flatMap_faultsOf (choice : SettingField → Value) (fields : List SettingField) :
    (fields.flatMap fun f => faultsOf f (choice f)).map Prod.fst =
      fields.filter fun f => ¬ f.Valid (choice f) := by
  induction fields with
  | nil => rfl
  | cons f rest ih =>
    rw [List.flatMap_cons, List.map_append, ih, keys_faultsOf, List.filter_cons]
    by_cases hf : f.Valid (choice f) <;> simp [hf]

theorem keys_of_ofChoice_eq_error {choice : SettingField → Value}
    {faults : List (SettingField × SettingFault)} (h : ofChoice choice = .error faults) :
    faults.map Prod.fst = SettingField.all.filter fun f => ¬ f.Valid (choice f) := by
  unfold ofChoice at h
  split at h
  · cases h
  · cases h
    exact keys_flatMap_faultsOf choice SettingField.all

end Settings

/-! ## Arguments for all settings -/

/-- A value for each setting, as arguments. -/
def SettingField.arguments (choice : SettingField → Value) : List (Text × Value) :=
  all.map fun f => (f.name, choice f)

theorem SettingField.valuesOf_arguments (choice : SettingField → Value) (f : SettingField) :
    SettingSources.valuesOf (arguments choice) f.name = [choice f] := by
  simp only [arguments, all, List.map_cons, List.map_nil, SettingSources.valuesOf_named_cons]
  cases f <;> rfl

namespace Settings

theorem resolve_arguments (choice : SettingField → Value) (environment : List (Text × Text))
    (lines : List Text) :
    resolve ⟨SettingField.arguments choice, environment, lines⟩ = ofChoice choice := by
  rw [resolve_eq_ofChoice]
  refine congrArg ofChoice (funext fun f => ?_)
  have given : (SettingSources.mk (SettingField.arguments choice) environment lines).given? f =
      some (choice f) :=
    SettingSources.given?_of_argument (by rw [SettingField.valuesOf_arguments]; rfl)
  rw [SettingSources.choice, given, Option.getD_some]

/-- Settings that come out of values come out of themselves. -/
theorem ofChoice_value {choice : SettingField → Value} {s : Settings}
    (h : ofChoice choice = .ok s) : ofChoice s.value = .ok s := by
  rw [ofChoice_eq_ok_iff] at h ⊢
  obtain ⟨t, -, hhead, ht⟩ := h .basePath
  intro f
  cases f with
  | appEnv => exact .text s.appEnv
  | logLevel => exact .text s.logLevel
  | basePath =>
    refine ⟨s.basePath, .text s.basePath, ?_, ?_⟩
    · rw [← ht]
      exact head?_slashEnded hhead
    · rw [← ht, slashEnded_idem]
  | exposeHidden => exact .boolean s.exposeHidden

/-! ## Resolution -/

/-- The sources decide one value for each setting, and these values alone make the outcome: handed
over as arguments they have the same one, whatever the other sources hold. Settings come out exactly
if all the values are valid. They are those of the values, and the base path is the text of its
value, put between slashes; handed over as arguments they come out as they are. The faults are those
of the settings whose values are not valid, each once and in order. -/
theorem resolve_from_decisions (s : SettingSources) :
    ∃ choice : SettingField → Value,
      (∀ f v, s.Decides f v ↔ v = choice f) ∧
      (∀ environment lines,
        resolve ⟨SettingField.arguments choice, environment, lines⟩ = resolve s) ∧
      ((∃ settings, resolve s = .ok settings) ↔ ∀ f : SettingField, f.Valid (choice f)) ∧
      match resolve s with
      | .ok settings =>
        (∀ f : SettingField, f.Takes settings (choice f)) ∧
        settings.basePath.head? = some '/' ∧ settings.basePath.getLast? = some '/' ∧
        (∃ t, (choice .basePath).Spells t ∧
          (settings.basePath = t ∨ settings.basePath = t ++ ['/'])) ∧
        ∀ environment lines,
          resolve ⟨SettingField.arguments settings.value, environment, lines⟩ = .ok settings
      | .error faults =>
        faults.map Prod.fst = SettingField.all.filter fun f => ¬ f.Valid (choice f) := by
  refine ⟨s.choice, fun f v => SettingSources.decides_iff, ?_, ?_, ?_⟩
  · intro environment lines
    rw [resolve_arguments, resolve_eq_ofChoice s]
  · rw [resolve_eq_ofChoice, exists_ofChoice_eq_ok_iff]
  · rw [resolve_eq_ofChoice]
    cases hs : ofChoice s.choice with
    | error faults => exact keys_of_ofChoice_eq_error hs
    | ok settings =>
      have takes := ofChoice_eq_ok_iff.1 hs
      obtain ⟨t, ht, hhead, hpath⟩ := takes .basePath
      refine ⟨takes, ?_, ?_, ⟨t, ht, ?_⟩, ?_⟩
      · rw [← hpath]
        exact head?_slashEnded hhead
      · rw [← hpath]
        exact getLast?_slashEnded t
      · rw [← hpath]
        exact (slashEnded_eq t).imp (·.2) (·.2)
      · intro environment lines
        rw [resolve_arguments, ofChoice_value hs]

/-- An argument counts in any case of its name. Of the lines it is not the last one that counts but
the spelling of the name that comes up last. -/
theorem resolve_spelled_otherwise :
    let s : SettingSources := ⟨[("RAW_BASE_PATH", .text "/init")], [("raw_base_path", "/env")],
      ["app_env=a", "APP_ENV=b", "app_env=c"]⟩
    s.arguments.lookup (SettingField.name .basePath) = none ∧
      s.environment.lookup (SettingField.name .basePath) = some "/env".toList ∧
      (s.lines.filterMap SettingSources.assignment?).getLast? =
        some (SettingField.name .appEnv, "c".toList) ∧
      resolve s = .ok ⟨"b", "INFO", "/init/", false⟩ ∧
      resolve s ≠ .ok ⟨"c", "INFO", "/env/", false⟩ :=
  ⟨rfl, rfl, by decide +kernel, by decide +kernel, by decide +kernel⟩

end Settings

end ServiceGateway
