import Mathlib.Data.List.Induction
import Mathlib.Data.List.Nodup
import ServiceGateway.Settings

/-!
# The choice of a setting

Which value is given for a setting, said by the places in the sources. Of the arguments the first
one counts that has the name of the setting in any case. Of the environment the spelling counts that
comes up last, with the last of its values, and so it is with the lines of the settings file. A
source that has the name hides those behind it.
-/
namespace ServiceGateway

namespace SettingSources

/-! ## Names in any case -/

/-- No member has the name in any case. -/
def Unnamed {α : Type} (members : List (Text × α)) (name : Text) : Prop :=
  ∀ m ∈ members, lowerCase m.1 ≠ name

/-- The value of the first member that has the name in some case. -/
def FirstNamed {α : Type} (members : List (Text × α)) (name : Text) (a : α) : Prop :=
  ∃ front key back, members = front ++ (key, a) :: back ∧ Unnamed front name ∧ lowerCase key = name

/-- The value of the last member that has the very key. -/
def LastValue (members : List (Text × Text)) (key value : Text) : Prop :=
  ∃ front back, members = front ++ (key, value) :: back ∧ ∀ m ∈ back, m.1 ≠ key

/-- Behind the first member with the key no other spelling of its name comes up that has not been
there before. -/
def ComesUpLast (members : List (Text × Text)) (key : Text) : Prop :=
  ∃ front first back, members = front ++ (key, first) :: back ∧ key ∉ front.map Prod.fst ∧
    ∀ m ∈ back, lowerCase m.1 = lowerCase key → m.1 = key ∨ m.1 ∈ front.map Prod.fst

/-- The last value under the spelling of the name that comes up last. -/
def LastSpelled (members : List (Text × Text)) (name value : Text) : Prop :=
  ∃ key, lowerCase key = name ∧ ComesUpLast members key ∧ LastValue members key value

section
variable {α : Type} {members : List (Text × α)} {name : Text}

theorem valuesOf_eq_nil_iff : valuesOf members name = [] ↔ Unnamed members name := by
  rw [valuesOf, List.map_eq_nil_iff, List.filter_eq_nil_iff]
  simp [Unnamed]

theorem firstNamed_cons_iff {key : Text} {b a : α} :
    FirstNamed ((key, b) :: members) name a ↔
      (lowerCase key = name ∧ b = a) ∨ (lowerCase key ≠ name ∧ FirstNamed members name a) := by
  constructor
  · intro hex
    obtain ⟨front, found, back, hmembers, hfront, hfound⟩ := hex
    cases front with
    | nil =>
      cases hmembers
      exact .inl ⟨hfound, rfl⟩
    | cons m front =>
      obtain ⟨rfl, rfl⟩ := List.cons.inj hmembers
      obtain ⟨hkey, hfront⟩ := List.forall_mem_cons.1 hfront
      exact .inr ⟨hkey, front, found, back, rfl, hfront, hfound⟩
  · intro h
    rcases h with ⟨hkey, rfl⟩ | ⟨hkey, front, found, back, rfl, hfront, hfound⟩
    · exact ⟨[], key, members, rfl, fun m hm => absurd hm List.not_mem_nil, hkey⟩
    · exact ⟨(key, b) :: front, found, back, rfl, List.forall_mem_cons.2 ⟨hkey, hfront⟩, hfound⟩

theorem head?_valuesOf_eq_some_iff {a : α} :
    (valuesOf members name).head? = some a ↔ FirstNamed members name a := by
  induction members with
  | nil => simp [valuesOf, FirstNamed]
  | cons m rest ih =>
    obtain ⟨key, b⟩ := m
    rw [valuesOf_cons, firstNamed_cons_iff, ← ih]
    by_cases hkey : lowerCase key = name
    · rw [if_pos hkey, List.head?_cons, Option.some.injEq]
      exact ⟨fun h => .inl ⟨hkey, h⟩, fun h => (h.resolve_right fun h => h.1 hkey).2⟩
    · rw [if_neg hkey]
      exact ⟨fun h => .inr ⟨hkey, h⟩, fun h => (h.resolve_left fun h => hkey h.1).2⟩

end

/-! ## Tables of spellings -/

theorem concat_eq_append_cons_iff {γ : Type} {xs front back : List γ} {m x : γ} :
    xs ++ [m] = front ++ x :: back ↔
      (xs = front ∧ m = x ∧ back = []) ∨ ∃ rest, back = rest ++ [m] ∧ xs = front ++ x :: rest := by
  constructor
  · intro h
    rcases List.eq_nil_or_concat back with rfl | ⟨rest, y, rfl⟩
    · obtain ⟨hxs, hm⟩ := List.append_inj' h rfl
      exact .inl ⟨hxs, List.singleton_inj.1 hm, rfl⟩
    · rw [List.concat_eq_append, ← List.cons_append, ← List.append_assoc] at h
      obtain ⟨hxs, hm⟩ := List.append_inj' h rfl
      rw [List.singleton_inj.1 hm, List.concat_eq_append]
      exact .inr ⟨rest, rfl, hxs⟩
  · intro h
    rcases h with ⟨rfl, rfl, rfl⟩ | ⟨rest, rfl, rfl⟩
    · rfl
    · rw [List.append_assoc, List.cons_append]

theorem lookup_tableOf (members : List (Text × Text)) (key : Text) :
    (tableOf (· == ·) members).lookup key = members.reverse.lookup key := by
  induction members using List.reverseRecOn with
  | nil => rfl
  | append_singleton members m ih =>
    rw [tableOf_concat, lookup_putMember, ih, List.reverse_concat, List.lookup_cons]
    cases key == m.1 <;> rfl

theorem lookup_tableOf_eq_some_iff {members : List (Text × Text)} {key value : Text} :
    (tableOf (· == ·) members).lookup key = some value ↔ LastValue members key value := by
  rw [lookup_tableOf, List.lookup_eq_some_iff]
  constructor
  · intro hex
    obtain ⟨back, front, hmembers, hback⟩ := hex
    refine ⟨front.reverse, back.reverse, ?_, fun m hm => ?_⟩
    · rw [← List.reverse_reverse members, hmembers]
      simp
    · exact (bne_iff_ne.1 (hback m (List.mem_reverse.1 hm))).symm
  · intro hex
    obtain ⟨front, back, rfl, hback⟩ := hex
    refine ⟨back.reverse, front.reverse, by simp, fun m hm => ?_⟩
    exact bne_iff_ne.2 (hback m (List.mem_reverse.1 hm)).symm

theorem mem_keys_tableOf {members : List (Text × Text)} {key : Text} :
    key ∈ (tableOf (· == ·) members).map Prod.fst ↔ key ∈ members.map Prod.fst := by
  induction members using List.reverseRecOn with
  | nil => rfl
  | append_singleton members m ih =>
    rw [tableOf_concat, keys_putMember, List.map_append, List.mem_append, ← ih, List.map_singleton]
    split
    · rename_i hm
      refine (or_iff_left_of_imp fun h => ?_).symm
      rwa [List.mem_singleton.1 h]
    · exact List.mem_append

theorem nodup_keys_tableOf (members : List (Text × Text)) :
    ((tableOf (· == ·) members).map Prod.fst).Nodup := by
  induction members using List.reverseRecOn with
  | nil => exact List.nodup_nil
  | append_singleton members m ih =>
    rw [tableOf_concat, keys_putMember]
    split
    · exact ih
    · rename_i hm
      rw [← List.concat_eq_append]
      exact ih.concat hm

theorem comesUpLast_concat_of_mem {members : List (Text × Text)} {m : Text × Text} {key : Text}
    (hm : m.1 ∈ members.map Prod.fst) :
    ComesUpLast (members ++ [m]) key ↔ ComesUpLast members key := by
  constructor
  · intro hex
    obtain ⟨front, first, back, hmembers, hfront, hback⟩ := hex
    rcases concat_eq_append_cons_iff.1 hmembers with ⟨rfl, rfl, -⟩ | ⟨rest, rfl, rfl⟩
    · exact absurd hm hfront
    · exact ⟨front, first, rest, rfl, hfront, fun n hn => hback n (List.mem_append_left [m] hn)⟩
  · intro hex
    obtain ⟨front, first, back, rfl, hfront, hback⟩ := hex
    refine ⟨front, first, back ++ [m], by simp, hfront, fun n hn hcase => ?_⟩
    rcases List.mem_append.1 hn with hn | hn
    · exact hback n hn hcase
    · -- the last member repeats a key that has been there before
      obtain rfl := List.mem_singleton.1 hn
      rw [List.map_append, List.mem_append, List.map_cons, List.mem_cons] at hm
      rcases hm with hm | hm | hm
      · exact .inr hm
      · exact .inl hm
      · obtain ⟨o, ho, hkey⟩ := List.mem_map.1 hm
        rw [← hkey] at hcase ⊢
        exact hback o ho hcase

theorem comesUpLast_concat_of_notMem {members : List (Text × Text)} {m : Text × Text} {key : Text}
    (hm : m.1 ∉ members.map Prod.fst) :
    ComesUpLast (members ++ [m]) key ↔
      m.1 = key ∨ (lowerCase m.1 ≠ lowerCase key ∧ ComesUpLast members key) := by
  constructor
  · intro hex
    obtain ⟨front, first, back, hmembers, hfront, hback⟩ := hex
    rcases concat_eq_append_cons_iff.1 hmembers with ⟨rfl, rfl, -⟩ | ⟨rest, rfl, rfl⟩
    · exact .inl rfl
    · refine .inr ⟨fun hcase => hm ?_, front, first, rest, rfl, hfront,
        fun n hn => hback n (List.mem_append_left [m] hn)⟩
      rw [List.map_append, List.mem_append, List.map_cons, List.mem_cons]
      rcases hback m (by simp) hcase with h | h
      · exact .inr (.inl h)
      · exact .inl h
  · intro h
    rcases h with rfl | ⟨hcase, front, first, back, rfl, hfront, hback⟩
    · exact ⟨members, m.2, [], rfl, hm, fun n hn => absurd hn List.not_mem_nil⟩
    · refine ⟨front, first, back ++ [m], by simp, hfront, fun n hn hname => ?_⟩
      rcases List.mem_append.1 hn with hn | hn
      · exact hback n hn hname
      · exact absurd (List.mem_singleton.1 hn ▸ hname) hcase

/-- The keys of a table with a name in any case, in its order. -/
def spellings (members : List (Text × Text)) (name : Text) : List Text :=
  ((tableOf (· == ·) members).map Prod.fst).filter fun key => lowerCase key = name

theorem getLast?_spellings_eq_some_iff {members : List (Text × Text)} {name key : Text} :
    (spellings members name).getLast? = some key ↔
      lowerCase key = name ∧ ComesUpLast members key := by
  induction members using List.reverseRecOn with
  | nil => simp [spellings, tableOf, ComesUpLast]
  | append_singleton members m ih =>
    rw [spellings, tableOf_concat, keys_putMember]
    split
    · rename_i hm
      rw [← spellings, ih, comesUpLast_concat_of_mem (mem_keys_tableOf.1 hm)]
    · rename_i hm
      rw [mem_keys_tableOf] at hm
      rw [comesUpLast_concat_of_notMem hm, List.filter_append, ← spellings]
      by_cases hname : lowerCase m.1 = name
      · rw [List.filter_singleton, decide_eq_true hname, cond_true, List.getLast?_concat,
          Option.some.injEq]
        constructor
        · intro h
          exact ⟨h ▸ hname, .inl h⟩
        · intro h
          exact h.2.resolve_right fun hcase => hcase.1 (hname.trans h.1.symm)
      · rw [List.filter_singleton, decide_eq_false hname, cond_false, List.append_nil, ih]
        refine and_congr_right fun hkey => ⟨fun h => .inr ⟨?_, h⟩, fun h => ?_⟩
        · exact fun hcase => hname (hcase.trans hkey)
        · exact (h.resolve_left fun hm => hname (hm ▸ hkey)).2

/-- The value under the last spelling. -/
theorem lastOf?_eq (members : List (Text × Text)) (name : Text) :
    lastOf? members name =
      (spellings members name).getLast?.bind fun key => (tableOf (· == ·) members).lookup key := by
  rw [lastOf?, valuesOf, spellings, List.filter_map, List.getLast?_map, List.getLast?_map]
  change Option.map _ (List.filter (fun m : Text × Text => lowerCase m.1 = name) _).getLast? =
    (Option.map _ (List.filter (fun m : Text × Text => lowerCase m.1 = name) _).getLast?).bind _
  cases hlast : ((tableOf (· == ·) members).filter fun m => lowerCase m.1 = name).getLast? with
  | none => rfl
  | some m =>
    have hm := (List.mem_filter.1 (List.mem_of_getLast? hlast)).1
    exact (lookup_of_mem_of_nodup (nodup_keys_tableOf members) hm).symm

theorem lastOf?_eq_some_iff {members : List (Text × Text)} {name value : Text} :
    lastOf? members name = some value ↔ LastSpelled members name value := by
  rw [lastOf?_eq, Option.bind_eq_some_iff, LastSpelled]
  refine exists_congr fun key => ?_
  rw [getLast?_spellings_eq_some_iff, lookup_tableOf_eq_some_iff, and_assoc]

theorem unnamed_iff_keys {α : Type} {members : List (Text × α)} {name : Text} :
    Unnamed members name ↔ ∀ key ∈ members.map Prod.fst, lowerCase key ≠ name := by
  rw [Unnamed, List.forall_mem_map]

theorem lastOf?_eq_none_iff {members : List (Text × Text)} {name : Text} :
    lastOf? members name = none ↔ Unnamed members name := by
  rw [lastOf?, List.getLast?_eq_none_iff, valuesOf_eq_nil_iff, unnamed_iff_keys, unnamed_iff_keys]
  exact forall_congr' fun key => imp_congr_left mem_keys_tableOf

end SettingSources

/-! ## Sources -/

/-- The value that a setting has. -/
def Settings.value (s : Settings) : SettingField → Value
  | .appEnv => .text s.appEnv
  | .logLevel => .text s.logLevel
  | .basePath => .text s.basePath
  | .exposeHidden => .atom (.boolean s.exposeHidden)

namespace SettingSources

/-- What the sources decide for a setting. -/
inductive Decides (s : SettingSources) (f : SettingField) : Value → Prop
  | argument {v : Value} : FirstNamed s.arguments f.name v → Decides s f v
  | environment {t : Text} : Unnamed s.arguments f.name →
      LastSpelled s.environment f.name t → Decides s f (.text t)
  | line {t : Text} : Unnamed s.arguments f.name → Unnamed s.environment f.name →
      LastSpelled (s.lines.filterMap assignment?) f.name t → Decides s f (.text t)
  | default : Unnamed s.arguments f.name → Unnamed s.environment f.name →
      Unnamed (s.lines.filterMap assignment?) f.name → Decides s f (Settings.defaults.value f)

/-- The value given for a setting, or its default. -/
def choice (s : SettingSources) (f : SettingField) : Value :=
  (s.given? f).getD (Settings.defaults.value f)

theorem Decides.eq_choice {s : SettingSources} {f : SettingField} {v : Value}
    (h : s.Decides f v) : v = s.choice f := by
  rw [choice]
  cases h with
  | argument harg => rw [given?_of_argument (head?_valuesOf_eq_some_iff.2 harg), Option.getD_some]
  | environment harg henv =>
    rw [given?, valuesOf_eq_nil_iff.2 harg, lastOf?_eq_some_iff.2 henv]
    rfl
  | line harg henv hline =>
    rw [given?, valuesOf_eq_nil_iff.2 harg, lastOf?_eq_none_iff.2 henv,
      lastOf?_eq_some_iff.2 hline]
    rfl
  | default harg henv hline =>
    rw [given?, valuesOf_eq_nil_iff.2 harg, lastOf?_eq_none_iff.2 henv,
      lastOf?_eq_none_iff.2 hline]
    rfl

theorem decides_choice (s : SettingSources) (f : SettingField) : s.Decides f (s.choice f) := by
  unfold choice given?
  cases harg : (valuesOf s.arguments f.name).head? with
  | some v => exact .argument (head?_valuesOf_eq_some_iff.1 harg)
  | none =>
    have harg := valuesOf_eq_nil_iff.1 (List.head?_eq_none_iff.1 harg)
    cases henv : lastOf? s.environment f.name with
    | some t => exact .environment harg (lastOf?_eq_some_iff.1 henv)
    | none =>
      have henv := lastOf?_eq_none_iff.1 henv
      cases hline : lastOf? (s.lines.filterMap assignment?) f.name with
      | some t => exact .line harg henv (lastOf?_eq_some_iff.1 hline)
      | none => exact .default harg henv (lastOf?_eq_none_iff.1 hline)

/-- The sources decide one value for a setting. -/
theorem decides_iff {s : SettingSources} {f : SettingField} {v : Value} :
    s.Decides f v ↔ v = s.choice f := by
  constructor
  · exact Decides.eq_choice
  · intro h
    exact h ▸ s.decides_choice f

end SettingSources

end ServiceGateway
