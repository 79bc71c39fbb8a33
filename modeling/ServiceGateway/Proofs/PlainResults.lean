import ServiceGateway.Proofs.DispatchOutcomes

/-!
# What a client gets of a plain value

Plain values are put together from null, truth values, integers and texts by lists and by mappings
whose names are texts. The client gets such a value back from the answer, with every item and every
member at every depth, under two conditions. No name may begin with the reserved mark, since members
under such names are left out without an error. And no integer may be longer than the longest that
is written, since otherwise there is no answer that carries a value at all.
-/
namespace ServiceGateway

theorem map_eq_self_iff {α : Type} {f : α → α} {l : List α} :
    l.map f = l ↔ ∀ a ∈ l, f a = a := by
  have identity := List.map_inj_left (l := l) (f := f) (g := id)
  rwa [List.map_id] at identity

namespace Value

/-! ## Occurrences -/

/-- The value `w` stands somewhere in another one: it is that value, or stands in one of its items
or in the value of one of its members. -/
inductive Within (w : Value) : Value → Prop
  | self : Within w w
  | item {kind : SequenceKind} {items : List Value} {v : Value} (hv : v ∈ items)
      (h : Within w v) : Within w (sequence kind items)
  | member {kind : MappingKind} {members : List (Value × Value)} {m : Value × Value}
      (hm : m ∈ members) (h : Within w m.2) : Within w (mapping kind members)

def Throughout (p : Value → Prop) (v : Value) : Prop := ∀ w, Within w v → p w

section
variable {p : Value → Prop}

theorem throughout_iff_of_leaf {v : Value} (leaf : ∀ w, Within w v → w = v) :
    Throughout p v ↔ p v := by
  constructor
  · exact fun h => h v .self
  · intro h w hw
    rw [leaf w hw]
    exact h

@[simp] theorem throughout_atom_iff {a : Atom} : Throughout p (atom a) ↔ p (atom a) := by
  apply throughout_iff_of_leaf
  intro w hw
  cases hw
  rfl

@[simp] theorem throughout_part_iff {q : KeyPart} : Throughout p (part q) ↔ p (part q) := by
  apply throughout_iff_of_leaf
  intro w hw
  cases hw
  rfl

@[simp] theorem throughout_key_iff {k : EntityKey} : Throughout p (key k) ↔ p (key k) := by
  apply throughout_iff_of_leaf
  intro w hw
  cases hw
  rfl

@[simp] theorem throughout_sequence_iff {kind : SequenceKind} {items : List Value} :
    Throughout p (sequence kind items) ↔
      p (sequence kind items) ∧ ∀ v ∈ items, Throughout p v := by
  constructor
  · exact fun h => ⟨h _ .self, fun v hv w hw => h w (.item hv hw)⟩
  · intro ⟨hself, hitems⟩ w hw
    cases hw with
    | self => exact hself
    | item hv hw => exact hitems _ hv w hw

@[simp] theorem throughout_mapping_iff {kind : MappingKind} {members : List (Value × Value)} :
    Throughout p (mapping kind members) ↔
      p (mapping kind members) ∧ ∀ m ∈ members, Throughout p m.2 := by
  constructor
  · exact fun h => ⟨h _ .self, fun m hm w hw => h w (.member hm hw)⟩
  · intro ⟨hself, hmembers⟩ w hw
    cases hw with
    | self => exact hself
    | member hm hw => exact hmembers _ hm w hw

end

/-! ## Reserved members -/

def HasNoReserved : Value → Prop
  | mapping _ members => ∀ m ∈ members, isReserved m.1 = false
  | atom _ | sequence _ _ | part _ | key _ => True

/-- No mapping in the value has a member with a reserved name. -/
def Unreserved (v : Value) : Prop := v.Throughout HasNoReserved

mutual
/-- The value without the members that have reserved names, at every depth. -/
def kept : Value → Value
  | atom a => atom a
  | sequence kind items => sequence kind (keptItems items)
  | mapping kind members => mapping kind (keptMembers members)
  | part p => part p
  | key k => key k
def keptItems : List Value → List Value
  | [] => []
  | v :: rest => v.kept :: keptItems rest
def keptMembers : List (Value × Value) → List (Value × Value)
  | [] => []
  | (k, v) :: rest =>
    if isReserved k then keptMembers rest else (k, v.kept) :: keptMembers rest
end

theorem keptItems_eq_map (items : List Value) : keptItems items = items.map kept := by
  induction items with
  | nil => rfl
  | cons v rest ih => rw [keptItems, ih, List.map_cons]

theorem keptMembers_eq_map (members : List (Value × Value)) :
    keptMembers members =
      (members.filter fun m => !isReserved m.1).map fun m => (m.1, m.2.kept) := by
  induction members with
  | nil => rfl
  | cons m rest ih =>
    obtain ⟨k, v⟩ := m
    rw [keptMembers, List.filter_cons, ih]
    cases isReserved k <;> rfl

theorem kept_sequence_eq_self_iff {kind : SequenceKind} {items : List Value} :
    (sequence kind items).kept = sequence kind items ↔ ∀ v ∈ items, v.kept = v := by
  rw [kept, keptItems_eq_map, sequence.injEq, eq_self_iff_true, true_and, map_eq_self_iff]

theorem kept_mapping_eq_self_iff {kind : MappingKind} {members : List (Value × Value)} :
    (mapping kind members).kept = mapping kind members ↔
      (∀ m ∈ members, isReserved m.1 = false) ∧ ∀ m ∈ members, m.2.kept = m.2 := by
  have keptAll : members.filter (fun m => !isReserved m.1) = members ↔
      ∀ m ∈ members, isReserved m.1 = false := by
    simp only [List.filter_eq_self, Bool.not_eq_true']
  have keptValues : members.map (fun m => (m.1, m.2.kept)) = members ↔
      ∀ m ∈ members, m.2.kept = m.2 := by
    simp only [map_eq_self_iff, Prod.ext_iff, true_and]
  rw [kept, keptMembers_eq_map, mapping.injEq, eq_self_iff_true, true_and]
  constructor
  · intro h
    -- a list that is as long as before has lost nothing
    have length := congrArg List.length h
    rw [List.length_map, List.length_filter_eq_length_iff] at length
    have all := List.filter_eq_self.2 length
    rw [all] at h
    exact ⟨keptAll.1 all, keptValues.1 h⟩
  · intro ⟨hnames, hvalues⟩
    rw [keptAll.2 hnames, keptValues.2 hvalues]

/-- Nothing is left out of a value exactly if none of its mappings has a reserved name. -/
theorem kept_eq_self_iff (v : Value) : v.kept = v ↔ v.Unreserved := by
  unfold Unreserved
  induction v using Value.induction with
  | atom a => simp [kept, HasNoReserved]
  | sequence kind items ih =>
    rw [kept_sequence_eq_self_iff, throughout_sequence_iff, HasNoReserved, true_and]
    exact forall₂_congr ih
  | mapping kind members ih =>
    rw [kept_mapping_eq_self_iff, throughout_mapping_iff, HasNoReserved]
    exact and_congr_right' (forall₂_congr fun m hm => (ih m hm).2)
  | part p => simp [kept, HasNoReserved]
  | key k => simp [kept, HasNoReserved]

/-! ## Plain values -/

/-- The members of a mapping by texts. -/
def named (members : List (Text × Value)) : List (Value × Value) :=
  members.map fun m => (text m.1, m.2)

inductive IsPlain : Value → Prop
  | null : IsPlain (atom .null)
  | boolean (b : Bool) : IsPlain (atom (.boolean b))
  | integer (n : Int) : IsPlain (atom (.integer n))
  | text (t : Text) : IsPlain (text t)
  | list {items : List Value} (hitems : ∀ v ∈ items, IsPlain v) : IsPlain (sequence .list items)
  | dict {members : List (Text × Value)} (hnames : (members.map Prod.fst).Nodup)
      (hvalues : ∀ m ∈ members, IsPlain m.2) : IsPlain (mapping .plain (named members))

theorem IsPlain.hasDocument {v : Value} (h : v.IsPlain) : v.HasDocument := by
  induction h with
  | null | boolean _ | integer _ | text _ =>
    exact .atom (.inl trivial)
  | list _ ih => exact .sequence ih
  | dict _ _ ih =>
    refine .mapping (List.forall_mem_map.2 fun m _ _ => ⟨.text m.1, rfl, trivial⟩) ?_
    exact List.forall_mem_map.2 fun m hm _ => ih m hm

/-! ## Documents as values -/

mutual
/-- The value that a client reads a document as. A mapping keeps the first of equal names, with the
last value. -/
def ofJson : Json → Value
  | .scalar s => atom s.toAtom
  | .array items => sequence .list (ofItems items)
  | .object members => mapping .plain (tableBy form NameForm.same (ofMembers members))
def ofItems : List Json → List Value
  | [] => []
  | j :: rest => ofJson j :: ofItems rest
def ofMembers : List (Scalar × Json) → List (Value × Value)
  | [] => []
  | (name, j) :: rest => (atom name.toAtom, ofJson j) :: ofMembers rest
end

theorem ofItems_eq_map (items : List Json) : ofItems items = items.map ofJson := by
  induction items with
  | nil => rfl
  | cons j rest ih => rw [ofItems, ih, List.map_cons]

theorem ofMembers_eq_map (members : List (Scalar × Json)) :
    ofMembers members = members.map fun m => (atom m.1.toAtom, ofJson m.2) := by
  induction members with
  | nil => rfl
  | cons m rest ih =>
    obtain ⟨name, j⟩ := m
    rw [ofMembers, ih, List.map_cons]

/-! ## Short integers -/

def IsShort : Value → Prop
  | atom (.integer n) => HasText n
  | _ => True

/-- All integers in the value are short enough to be written. -/
def Brief (v : Value) : Prop := v.Throughout IsShort

theorem brief_sequence_iff {kind : SequenceKind} {items : List Value} :
    (sequence kind items).Brief ↔ ∀ v ∈ items, v.Brief := by
  simp [Brief, IsShort]

theorem brief_mapping_iff {kind : MappingKind} {members : List (Value × Value)} :
    (mapping kind members).Brief ↔ ∀ m ∈ members, m.2.Brief := by
  simp [Brief, IsShort]

theorem brief_ofScalar_iff {s : Scalar} (h : (Json.scalar s).Plain) :
    (atom s.toAtom).Brief ↔ s.Writable := by
  cases h <;> simp [Brief, IsShort, Scalar.toAtom, Scalar.Writable]

/-! ## Rendering -/

/-- The document tells everything about the value but what is left out. -/
structure RenderedBy (v : Value) (j : Json) : Prop where
  plain : j.Plain
  decoded : ofJson j = v.kept
  writable : j.Writable ↔ (ofJson j).Brief

theorem renderedBy_scalar {s : Scalar} (h : (Json.scalar s).Plain) :
    (atom s.toAtom).RenderedBy (.scalar s) where
  plain := h
  decoded := rfl
  writable := Json.writable_scalar_iff.trans (brief_ofScalar_iff h).symm

theorem renderedBy_list {items : List Value} {js : List Json}
    (h : List.Forall₂ RenderedBy items js) : (sequence .list items).RenderedBy (.array js) := by
  have parts : ∀ j ∈ js, ∃ v ∈ items, RenderedBy v j := fun j hj => exists_of_forall₂_right h hj
  have decoded : ofJson (.array js) = sequence .list (js.map ofJson) := by
    rw [ofJson, ofItems_eq_map]
  have same : items.map kept = js.map ofJson :=
    map_eq_map_of_forall₂ (h.imp fun _ _ part => part.decoded.symm)
  refine ⟨.array fun j hj => ?_, ?_, ?_⟩
  · obtain ⟨v, _, hv⟩ := parts j hj
    exact hv.plain
  · rw [decoded, kept, keptItems_eq_map, same]
  · rw [decoded, brief_sequence_iff, List.forall_mem_map, Json.writable_array_iff]
    refine forall₂_congr fun j hj => ?_
    obtain ⟨v, _, hv⟩ := parts j hj
    exact hv.writable

/-- A member of the document for a member of the value. -/
structure MemberRenderedBy (m : Text × Value) (n : Scalar × Json) : Prop where
  name : n.1 = .text m.1
  value : m.2.RenderedBy n.2

/-- Texts that differ are told apart as names. -/
theorem pairwise_distinct_of_forall₂ {members : List (Text × Value)} {ns : List (Scalar × Json)}
    (hnames : (members.map Prod.fst).Nodup) (h : List.Forall₂ MemberRenderedBy members ns) :
    ns.Pairwise fun m n => NameForm.same m.1.form n.1.form = false := by
  induction h with
  | nil => exact .nil
  | @cons m n members ns hmn htail ih =>
    rw [List.map_cons, List.nodup_cons] at hnames
    refine .cons (fun k hk => ?_) (ih hnames.2)
    obtain ⟨l, hl, hlk⟩ := exists_of_forall₂_right htail hk
    have differ : m.1 ≠ l.1 := fun e => hnames.1 (e ▸ List.mem_map_of_mem hl)
    rw [hmn.name, hlk.name]
    simp [Scalar.form, Scalar.toAtom, Atom.form, NameForm.same, differ]

theorem filter_named (members : List (Text × Value)) :
    (named members).filter (fun m => !isReserved m.1) =
      named (members.filter fun m => !isReserved (text m.1)) :=
  List.filter_map

theorem renderedBy_dict {members : List (Text × Value)} {ns : List (Scalar × Json)}
    (hnames : (members.map Prod.fst).Nodup)
    (h : List.Forall₂ MemberRenderedBy (members.filter fun m => !isReserved (text m.1)) ns) :
    (mapping .plain (named members)).RenderedBy
      (.object (tableBy Scalar.form NameForm.same ns)) := by
  have distinct := pairwise_distinct_of_forall₂ (hnames.sublist (List.filter_sublist.map _)) h
  have table : tableBy Scalar.form NameForm.same ns = ns := tableBy_eq_self distinct
  have parts : ∀ n ∈ ns, ∃ m, MemberRenderedBy m n := fun n hn => by
    obtain ⟨m, _, hm⟩ := exists_of_forall₂_right h hn
    exact ⟨m, hm⟩
  let back (n : Scalar × Json) : Value × Value := (atom n.1.toAtom, ofJson n.2)
  have decoded : ofJson (.object ns) = mapping .plain (ns.map back) := by
    have names : tableBy form NameForm.same (ns.map back) = ns.map back :=
      tableBy_eq_self (List.pairwise_map.2 distinct)
    rw [ofJson, ofMembers_eq_map, names]
  have same : keptMembers (named members) = ns.map back := by
    rw [keptMembers_eq_map, filter_named, named, List.map_map]
    refine map_eq_map_of_forall₂ (h.imp fun m n part => ?_)
    change (text m.1, m.2.kept) = (atom n.1.toAtom, ofJson n.2)
    rw [part.name, part.value.decoded]
    rfl
  rw [table]
  refine ⟨.object (fun n hn => ?_) fun n hn => ?_, ?_, ?_⟩
  · obtain ⟨m, hm⟩ := parts n hn
    exact ⟨m.1, hm.name⟩
  · obtain ⟨m, hm⟩ := parts n hn
    exact hm.value.plain
  · rw [decoded, kept, same]
  · rw [decoded, brief_mapping_iff, List.forall_mem_map, Json.writable_object_iff]
    refine forall₂_congr fun n hn => ?_
    obtain ⟨m, hm⟩ := parts n hn
    rw [hm.name, hm.value.writable]
    exact and_iff_right trivial

theorem memberRenderedBy_of_ofMember {m : Text × Value} {n : Scalar × Json}
    (hn : Json.ofMember (text m.1, m.2) = .ok n)
    (hvalue : ∀ j, Json.ofValue m.2 = .ok j → m.2.RenderedBy j) : MemberRenderedBy m n := by
  obtain ⟨name, hname, hn⟩ := bind_eq_ok_iff.1 hn
  obtain ⟨j, hj, hn⟩ := bind_eq_ok_iff.1 hn
  obtain rfl : Json.text m.1 = name := Except.ok.inj hname
  obtain rfl := Except.ok.inj hn
  exact ⟨rfl, hvalue j hj⟩

theorem IsPlain.renderedBy {v : Value} (h : v.IsPlain) {j : Json} (hj : Json.ofValue v = .ok j) :
    v.RenderedBy j := by
  induction h generalizing j with
  | null => exact Except.ok.inj hj ▸ renderedBy_scalar .null
  | boolean b => exact Except.ok.inj hj ▸ renderedBy_scalar (.boolean b)
  | integer n => exact Except.ok.inj hj ▸ renderedBy_scalar (.integer n)
  | text t => exact Except.ok.inj hj ▸ renderedBy_scalar (.text t)
  | list _ ih =>
    rw [Json.ofValue, Json.ofValues_eq_mapM, bind_eq_ok_iff] at hj
    obtain ⟨js, hjs, hj⟩ := hj
    have parts := (List.forall₂_and_left _ _).2 ⟨ih, mapM_eq_ok_iff.1 hjs⟩
    exact Except.ok.inj hj ▸ renderedBy_list (parts.imp fun _ _ part => part.1 part.2)
  | @dict members hnames _ ih =>
    rw [Json.ofValue, Json.ofMembers_eq_mapM, filter_named, named, bind_eq_ok_iff] at hj
    obtain ⟨ns, hns, hj⟩ := hj
    rw [mapM_eq_ok_iff, List.forall₂_map_left_iff] at hns
    have keptIh : ∀ m ∈ members.filter fun m => !isReserved (Value.text m.1),
        ∀ j, Json.ofValue m.2 = .ok j → m.2.RenderedBy j :=
      fun m hm j hj => ih m (List.mem_of_mem_filter hm) hj
    have parts := (List.forall₂_and_left _ _).2 ⟨keptIh, hns⟩
    refine Except.ok.inj hj ▸ renderedBy_dict hnames (parts.imp fun m n part => ?_)
    exact memberRenderedBy_of_ofMember part.2 part.1

theorem IsPlain.exists_jsonText_iff {v : Value} (h : v.IsPlain) :
    (∃ t, v.jsonText = .ok t) ↔ v.kept.Brief := by
  obtain ⟨j, hj⟩ := (exists_ofValue_iff v).2 h.hasDocument
  have rendered := h.renderedBy hj
  have text : v.jsonText = j.write := by
    rw [jsonText, hj]
    rfl
  rw [text, Json.exists_write_iff, rendered.writable, rendered.decoded]

/-- The text of a plain value is read as what is kept of the value. -/
theorem IsPlain.read?_jsonText {v : Value} (h : v.IsPlain) {t : Text} (ht : v.jsonText = .ok t) :
    (Json.read? t).map ofJson = some v.kept := by
  obtain ⟨j, hj, hwrite⟩ := bind_eq_ok_iff.1 ht
  have rendered := h.renderedBy hj
  rw [Json.read?_of_write rendered.plain hwrite, Option.map_some, rendered.decoded]

theorem IsPlain.answerable_iff {v : Value} (h : v.IsPlain) : v.Answerable ↔ v.kept.Brief := by
  have noOctets : ¬ ∃ b, v = atom (.octets b) ∨ v = atom (.buffer b) := by
    intro ⟨b, hb⟩
    rcases hb with rfl | rfl <;> cases h
  rw [← h.exists_jsonText_iff, Answerable, Value.exists_jsonText_iff]
  exact or_iff_left noOctets

end Value

/-! ## Answers -/

/-- What a client takes a response for: null if it is empty, a text for itself, a document for the
value that is read from it. -/
def Response.decoded? (response : Response) : Option Value :=
  if response.status = 204 then some (.atom .null)
  else if response.status = 200 then
    match response.body with
    | .text t =>
      if response.contentType = some plainText then some (.text t)
      else if response.contentType = some jsonType then (Json.read? t).map Value.ofJson
      else none
    | .octets _ => none
  else none

/-- A reply that brings a plain value to the client, or tells that it cannot. -/
structure Reply.Delivers (reply : Reply) (v : Value) : Prop where
  null : v = .atom .null → reply = ⟨.bare 204, [], none⟩
  text : ∀ t, v = .text t → reply = ⟨.withText 200 Response.plainText t, [], none⟩
  document : v ≠ .atom .null → (∀ t, v ≠ .text t) → v.kept.Brief →
    ∃ t, reply = ⟨.withText 200 Response.jsonType t, [], none⟩ ∧
      (Json.read? t).map Value.ofJson = some v.kept
  escaped : ¬ v.kept.Brief → ∃ fault, reply = ⟨DataEndpoint.serverError, [], some fault⟩
  decoded : reply.response.decoded? = some v ↔ v.Unreserved ∧ v.Brief

namespace DataEndpoint

theorem ofValue_of_jsonText {v : Value} (plain : v.IsPlain) (hnull : v ≠ .atom .null)
    (htext : ∀ t, v ≠ .text t) {t : Text} (h : v.jsonText = .ok t) :
    ofValue v = ⟨.withText 200 Response.jsonType t, [], none⟩ := by
  unfold ofValue
  cases plain with
  | null => exact absurd rfl hnull
  | text u => exact absurd rfl (htext u)
  | boolean _ | integer _ | list _ | dict _ _ => simp only [h]

theorem ofValue_document {v : Value} (plain : v.IsPlain) (hnull : v ≠ .atom .null)
    (htext : ∀ t, v ≠ .text t) (brief : v.kept.Brief) :
    ∃ t, ofValue v = ⟨.withText 200 Response.jsonType t, [], none⟩ ∧
      (Json.read? t).map Value.ofJson = some v.kept := by
  obtain ⟨t, ht⟩ := plain.exists_jsonText_iff.2 brief
  exact ⟨t, ofValue_of_jsonText plain hnull htext ht, plain.read?_jsonText ht⟩

/-- The client gets what is kept of the value if there is an answer that carries it. -/
theorem decoded?_ofValue {v : Value} (plain : v.IsPlain) (brief : v.kept.Brief) :
    (ofValue v).response.decoded? = some v.kept := by
  by_cases hnull : v = .atom .null
  · rw [hnull]
    rfl
  by_cases htext : ∃ t, v = .text t
  · obtain ⟨t, rfl⟩ := htext
    rfl
  obtain ⟨t, ht, hread⟩ := ofValue_document plain hnull (not_exists.1 htext) brief
  rw [ht]
  exact hread

theorem delivers_ofValue {v : Value} (plain : v.IsPlain) : (ofValue v).Delivers v where
  null h := by rw [h]; rfl
  text t h := by rw [h]; rfl
  document := ofValue_document plain
  escaped long := escapes_of_not_answerable (mt plain.answerable_iff.1 long)
  decoded := by
    constructor
    · intro whole
      have brief : v.kept.Brief := by
        by_contra long
        obtain ⟨fault, hfault⟩ := escapes_of_not_answerable (mt plain.answerable_iff.1 long)
        rw [hfault] at whole
        cases whole
      have same : v.kept = v := by
        rw [decoded?_ofValue plain brief] at whole
        exact Option.some.inj whole
      exact ⟨(Value.kept_eq_self_iff v).1 same, same ▸ brief⟩
    · intro ⟨unreserved, brief⟩
      have same := (Value.kept_eq_self_iff v).2 unreserved
      rw [← same] at brief
      rw [decoded?_ofValue plain brief, same]

end DataEndpoint

/-- Over all sites, dispatchers, requests and plain values, at any depth: nothing is answered for
null, a text as it is, and everything else as a document that is read as what is kept of the value.
The client has the whole value exactly if no name in it is reserved and no integer too long. -/
theorem plain_value_delivered {σ : Type} (s : Site) (d : Dispatcher σ) (state : σ) (r : Request)
    {query : DataQuery} {v : Value} (received : (s.exchange d state r).1.received = some query)
    (returned : (d state query).1 = .value v) (plain : v.IsPlain) :
    (s.exchange d state r).1.reply.Delivers v := by
  rw [Site.reply_of_received received, returned]
  exact DataEndpoint.delivers_ofValue plain

/-- An order whose second line is a note under no name at all. -/
def nestedOrder : Value :=
  .mapping .plain (Value.named [("number", .atom (.integer (-7))), ("open", .atom (.boolean true)),
    ("lines", .sequence .list
      [.text "3 \"large\"", .mapping .plain (Value.named [([], .atom .null)])])])

theorem isPlain_nestedOrder : nestedOrder.IsPlain := by
  have note : (Value.mapping .plain (Value.named [([], .atom .null)])).IsPlain :=
    .dict (by decide) (List.forall_mem_singleton.2 .null)
  have lines : (Value.sequence .list
      [.text "3 \"large\"", .mapping .plain (Value.named [([], .atom .null)])]).IsPlain :=
    .list (List.forall_mem_cons.2 ⟨.text _, List.forall_mem_singleton.2 note⟩)
  exact .dict (by decide) (List.forall_mem_cons.2
    ⟨.integer _, List.forall_mem_cons.2 ⟨.boolean _, List.forall_mem_singleton.2 lines⟩⟩)

theorem brief_nestedOrder : nestedOrder.Brief := by
  have digits : 1 ≤ maxDigits := by decide
  have short : HasText (-7) := hasText_of_lt digits (by decide)
  simp [nestedOrder, Value.named, Value.Brief, Value.IsShort, Value.text, short]

theorem plain_value_delivered_nested :
    let reply := ((Site.ofEndpoint ⟨"/raw/", false⟩).exchange
      (fun n _ => (.value nestedOrder, n + 1)) 0 ordersRequest).1.reply
    nestedOrder.IsPlain ∧ reply.Delivers nestedOrder ∧
      reply.response.decoded? = some nestedOrder := by
  intro reply
  have received : ((Site.ofEndpoint ⟨"/raw/", false⟩).exchange
      (fun n _ => (.value nestedOrder, n + 1)) 0 ordersRequest).1.received =
        some ⟨⟨["sales"], "Orders"⟩, "/4%3F2", "$top=1", "POST", [("a", "1"), ("b", "2")]⟩ := rfl
  have unreserved : nestedOrder.Unreserved := (Value.kept_eq_self_iff nestedOrder).1 rfl
  have delivered : reply.Delivers nestedOrder :=
    plain_value_delivered _ _ 0 ordersRequest received rfl isPlain_nestedOrder
  exact ⟨isPlain_nestedOrder, delivered, delivered.decoded.2 ⟨unreserved, brief_nestedOrder⟩⟩

/-- A total and beside it a member with a reserved name. -/
def savedTotal : Value :=
  .mapping .plain (Value.named [("_saved", .atom (.boolean true)), ("total", .text "12.50")])

/-- The member is left out without an error, so the client takes the answer for another value. -/
theorem savedTotal_not_delivered :
    let reply := ((Site.ofEndpoint ⟨"/raw/", false⟩).exchange
      (fun n _ => (.value savedTotal, n + 1)) 0 ordersRequest).1.reply
    savedTotal.IsPlain ∧
      reply = ⟨.withText 200 Response.jsonType "\x7b\"total\":\"12.50\"\x7d", [], none⟩ ∧
      reply.response.decoded? = some (.mapping .plain (Value.named [("total", .text "12.50")])) ∧
      reply.response.decoded? ≠ some savedTotal := by
  intro reply
  have decoded : reply.response.decoded? =
      some (.mapping .plain (Value.named [("total", .text "12.50")])) := rfl
  refine ⟨.dict (by decide) ?_, rfl, decoded, ?_⟩
  · exact List.forall_mem_cons.2 ⟨.boolean _, List.forall_mem_singleton.2 (.text _)⟩
  · rw [decoded]
    simp [savedTotal, Value.named]

end ServiceGateway
