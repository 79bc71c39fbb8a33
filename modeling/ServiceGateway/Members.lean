/-!
# Tables in order of arrival

A table is a list of keys with values. Putting a value under a key that is present, in the sense of
a given comparison, changes the value where it stands and keeps the key that came first; a new key
goes to the end.
-/
namespace ServiceGateway

variable {α β : Type}

def putMember (same : α → α → Bool) : List (α × β) → α → β → List (α × β)
  | [], k, v => [(k, v)]
  | (k', v') :: rest, k, v =>
    if same k' k then (k', v) :: rest else (k', v') :: putMember same rest k v

/-- The table of a list of members, read from the left. -/
def tableOf (same : α → α → Bool) (members : List (α × β)) : List (α × β) :=
  members.foldl (fun table m => putMember same table m.1 m.2) []

/-- Members with what their keys stand for. -/
def withForms {γ : Type} (form : α → γ) (members : List (α × β)) : List ((γ × α) × β) :=
  members.map fun m => ((form m.1, m.1), m.2)

/-- The table of members whose keys are the same if what they stand for is, which is worked out once
for each key. -/
def tableBy {γ : Type} (form : α → γ) (same : γ → γ → Bool) (members : List (α × β)) :
    List (α × β) :=
  (tableOf (fun a b => same a.1 b.1) (withForms form members)).map fun m => (m.1.2, m.2)

theorem putMember_withForms {γ : Type} (form : α → γ) (same : γ → γ → Bool) (table : List (α × β))
    (k : α) (v : β) :
    putMember (fun a b => same a.1 b.1) (withForms form table) (form k, k) v =
      withForms form (putMember (fun a b => same (form a) (form b)) table k v) := by
  induction table with
  | nil => rfl
  | cons m rest ih =>
    simp only [withForms, List.map_cons, putMember] at ih ⊢
    split
    · rfl
    · rw [ih, List.map_cons]

theorem tableOf_withForms {γ : Type} (form : α → γ) (same : γ → γ → Bool)
    (members : List (α × β)) :
    tableOf (fun a b => same a.1 b.1) (withForms form members) =
      withForms form (tableOf (fun a b => same (form a) (form b)) members) := by
  have fold : ∀ table : List (α × β),
      (withForms form members).foldl
          (fun table m => putMember (fun a b => same a.1 b.1) table m.1 m.2)
          (withForms form table) =
        withForms form (members.foldl
          (fun table m => putMember (fun a b => same (form a) (form b)) table m.1 m.2) table) := by
    induction members with
    | nil => exact fun _ => rfl
    | cons m rest ih =>
      intro table
      rw [List.foldl_cons, ← ih, ← putMember_withForms]
      rfl
  exact fold []

theorem tableOf_concat (same : α → α → Bool) (members : List (α × β)) (m : α × β) :
    tableOf same (members ++ [m]) = putMember same (tableOf same members) m.1 m.2 := by
  rw [tableOf, List.foldl_append]
  rfl

/-- Working out beforehand what the keys stand for changes nothing. -/
theorem tableBy_eq {γ : Type} (form : α → γ) (same : γ → γ → Bool) (members : List (α × β)) :
    tableBy form same members = tableOf (fun a b => same (form a) (form b)) members := by
  rw [tableBy, tableOf_withForms, withForms, List.map_map]
  exact List.map_id' _

theorem putMember_of_absent {same : α → α → Bool} {table : List (α × β)} {k : α}
    (h : ∀ m ∈ table, same m.1 k = false) (v : β) :
    putMember same table k v = table ++ [(k, v)] := by
  induction table with
  | nil => rfl
  | cons m rest ih =>
    obtain ⟨hm, hrest⟩ := List.forall_mem_cons.1 h
    rw [putMember, hm, if_neg Bool.false_ne_true, ih hrest, List.cons_append]

theorem foldl_putMember_eq_append {same : α → α → Bool} {table members : List (α × β)}
    (h : (table ++ members).Pairwise fun m n => same m.1 n.1 = false) :
    members.foldl (fun table m => putMember same table m.1 m.2) table = table ++ members := by
  induction members generalizing table with
  | nil => exact (List.append_nil table).symm
  | cons m rest ih =>
    have absent : ∀ n ∈ table, same n.1 m.1 = false := fun n hn =>
      (List.pairwise_append.1 h).2.2 n hn m List.mem_cons_self
    rw [List.append_cons table m rest] at h ⊢
    rw [List.foldl_cons, putMember_of_absent absent]
    exact ih h

/-- Members whose keys are told apart are a table already. -/
theorem tableOf_eq_self {same : α → α → Bool} {members : List (α × β)}
    (h : members.Pairwise fun m n => same m.1 n.1 = false) : tableOf same members = members := by
  have fold : members.foldl (fun table m => putMember same table m.1 m.2) [] = [] ++ members :=
    foldl_putMember_eq_append h
  exact fold

theorem tableBy_eq_self {γ : Type} {form : α → γ} {same : γ → γ → Bool} {members : List (α × β)}
    (h : members.Pairwise fun m n => same (form m.1) (form n.1) = false) :
    tableBy form same members = members := by
  rw [tableBy_eq, tableOf_eq_self h]

/-- What holds of all keys and all values holds of them in the table. -/
theorem forall_mem_putMember {same : α → α → Bool} {p : α → Prop} {q : β → Prop}
    {table : List (α × β)} {k : α} {v : β} (htable : ∀ m ∈ table, p m.1 ∧ q m.2) (hk : p k)
    (hv : q v) : ∀ m ∈ putMember same table k v, p m.1 ∧ q m.2 := by
  induction table with
  | nil =>
    intro m hm
    rw [putMember, List.mem_singleton] at hm
    exact hm ▸ ⟨hk, hv⟩
  | cons n rest ih =>
    obtain ⟨hn, hrest⟩ := List.forall_mem_cons.1 htable
    rw [putMember]
    split
    · exact List.forall_mem_cons.2 ⟨⟨hn.1, hv⟩, hrest⟩
    · exact List.forall_mem_cons.2 ⟨hn, ih hrest⟩

theorem forall_mem_tableOf {same : α → α → Bool} {p : α → Prop} {q : β → Prop}
    {members : List (α × β)} (h : ∀ m ∈ members, p m.1 ∧ q m.2) :
    ∀ m ∈ tableOf same members, p m.1 ∧ q m.2 := by
  unfold tableOf
  refine List.foldlRecOn (motive := fun table : List (α × β) => ∀ m ∈ table, p m.1 ∧ q m.2)
    members _ ?_ ?_
  · exact fun m hm => absurd hm List.not_mem_nil
  · exact fun table htable m hm => forall_mem_putMember htable (h m hm).1 (h m hm).2

/-- The key and the value of a member are smaller than the list of members. -/
theorem sizeOf_lt_of_mem [SizeOf α] [SizeOf β] {members : List (α × β)} {m : α × β}
    (h : m ∈ members) : sizeOf m.1 < sizeOf members ∧ sizeOf m.2 < sizeOf members := by
  have member := List.sizeOf_lt_of_mem h
  have parts : sizeOf m = 1 + sizeOf m.1 + sizeOf m.2 := rfl
  omega

section
variable [BEq α] [LawfulBEq α]

theorem lookup_putMember (table : List (α × β)) (k : α) (v : β) (key : α) :
    (putMember (· == ·) table k v).lookup key =
      if key == k then some v else table.lookup key := by
  induction table with
  | nil =>
    rw [putMember, List.lookup_cons, List.lookup_nil]
    cases key == k <;> rfl
  | cons m rest ih =>
    obtain ⟨k', v'⟩ := m
    rw [putMember]
    by_cases hk : k' = k
    · subst hk
      simp only [beq_self_eq_true, ↓reduceIte, List.lookup_cons]
      cases key == k' <;> rfl
    · have hne : (k' == k) = false := beq_false_of_ne hk
      simp only [hne, Bool.false_eq_true, ↓reduceIte, List.lookup_cons, ih]
      by_cases hkey : key = k'
      · subst hkey
        simp [hne]
      · simp [beq_false_of_ne hkey]

/-- A key that is present keeps its place, a new one goes to the end. -/
theorem keys_putMember [DecidableEq α] (table : List (α × β)) (k : α) (v : β) :
    (putMember (· == ·) table k v).map Prod.fst =
      if k ∈ table.map Prod.fst then table.map Prod.fst else table.map Prod.fst ++ [k] := by
  induction table with
  | nil => rfl
  | cons m rest ih =>
    obtain ⟨k', v'⟩ := m
    rw [putMember]
    by_cases hk : k' = k
    · simp [hk]
    · have hne : (k' == k) = false := beq_false_of_ne hk
      simp only [hne, Bool.false_eq_true, ↓reduceIte, List.map_cons, ih, List.mem_cons,
        Ne.symm hk, false_or]
      split <;> rfl

theorem lookup_of_mem_of_nodup {table : List (α × β)} (h : (table.map Prod.fst).Nodup)
    {m : α × β} (hm : m ∈ table) : table.lookup m.1 = some m.2 := by
  induction table with
  | nil => cases hm
  | cons n rest ih =>
    rw [List.map_cons, List.nodup_cons] at h
    rcases List.mem_cons.1 hm with rfl | hm
    · exact List.lookup_cons_self
    · have hne : (m.1 == n.1) = false :=
        beq_false_of_ne fun hkey => h.1 (hkey ▸ List.mem_map_of_mem hm)
      rw [List.lookup_cons, hne]
      exact ih h.2 hm

end

/-- The members without repetitions of a key; the first stays. -/
def firstMembers (same : α → α → Bool) : List (α × β) → List (α × β)
  | [] => []
  | m :: rest => m :: (firstMembers same rest).filter fun n => !same m.1 n.1

section
variable [BEq α] [LawfulBEq α]

theorem lookup_filter_ne {k a : α} (h : k ≠ a) (members : List (α × β)) :
    (members.filter fun n => !(a == n.1)).lookup k = members.lookup k := by
  induction members with
  | nil => rfl
  | cons m rest ih =>
    obtain ⟨key, value⟩ := m
    by_cases hm : a = key
    · have hk : (k == key) = false := by simp [← hm, h]
      simp [List.lookup_cons, hm, hk, ← ih]
    · simp [List.lookup_cons, hm, ih]

/-- Looking a key up among the first members finds what it finds among all. -/
theorem lookup_firstMembers (members : List (α × β)) (k : α) :
    (firstMembers (· == ·) members).lookup k = members.lookup k := by
  induction members with
  | nil => rfl
  | cons m rest ih =>
    obtain ⟨key, value⟩ := m
    by_cases hk : k = key
    · simp [firstMembers, hk]
    · have hne : (k == key) = false := by simp [hk]
      simp only [firstMembers, List.lookup_cons, hne]
      rw [lookup_filter_ne hk, ih]

theorem nodup_keys_firstMembers (members : List (α × β)) :
    ((firstMembers (· == ·) members).map Prod.fst).Nodup := by
  induction members with
  | nil => exact List.nodup_nil
  | cons m rest ih =>
    rw [firstMembers, List.map_cons, List.nodup_cons]
    refine ⟨?_, ih.sublist (List.filter_sublist.map Prod.fst)⟩
    intro hm
    obtain ⟨n, hn, he⟩ := List.mem_map.1 hm
    simp [he] at hn

end

/-- The items without repetitions; the first stays. -/
def distinctItems (same : α → α → Bool) : List α → List α
  | [] => []
  | a :: rest => a :: (distinctItems same rest).filter fun b => !same a b

theorem distinctItems_sublist (same : α → α → Bool) (items : List α) :
    (distinctItems same items).Sublist items := by
  induction items with
  | nil => exact .slnil
  | cons a rest ih => exact (List.filter_sublist.trans ih).cons_cons a

end ServiceGateway
