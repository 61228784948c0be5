import KeyedFlow.Proofs.DocumentTrees

/-!
# Reading the fields of a structure

An object holds the fields of a structure if each is written at most once, and what is written for it is right, while
all other members are values of any kind (`Json.Holds`).  Readers fill a draft, which has a slot for every field
(`Json.IsForm`).  In whatever order the members of an object stand, all its fields are read, each into its own slot
(`Json.IsForm.exists_readMembers`); and where reading succeeds, nothing has been read into the slot of a field that is
not there, and every member with the name of a field could be read (`Json.IsForm.get_eq_of_readMembers`,
`Json.IsForm.exists_read_of_readMembers`).
-/

namespace KeyedFlow.Json

/-! ### Fields -/

/-- A field: its name, and what can be written for it, which is nothing where it may be left out. -/
structure Field where
  name : String
  texts : Option (List Char) → Prop

namespace Field

/-- A field that has to be written. -/
def present (name : String) (texts : List Char → Prop) : Field where
  name := name
  texts value := ∃ s, value = some s ∧ texts s

/-- A field that may be left out where `absent` holds. -/
def optional (name : String) (absent : Prop) (texts : List Char → Prop) : Field where
  name := name
  texts
    | none => absent
    | some s => texts s

end Field

/-- Whether the members of an object hold some fields, in any order and among others. -/
structure Holds (fields : List Field) (members : List (String × List Char)) : Prop where
  once : ∀ field ∈ fields, (members.map Prod.fst).count field.name ≤ 1
  written : ∀ field ∈ fields, field.texts (members.lookup field.name)
  others : ∀ member ∈ members, member.1 ∉ fields.map Field.name → IsValue member.2

/-- The texts of an object that holds some fields. -/
def FieldsText (fields : List Field) (s : List Char) : Prop :=
  ∃ members, ObjectText members s ∧ Holds fields members

/-- The texts of a structure all of whose fields have to be there: an object that holds them, or the list of them. -/
inductive StructureText (fields : List (String × (List Char → Prop))) : List Char → Prop where
  | object {s : List Char} (h : FieldsText (fields.map fun field => .present field.1 field.2) s) :
      StructureText fields s
  | list {items : List (List Char)} {s : List Char} (h : ListText items s)
      (hitems : List.Forall₂ (fun field item => field.2 item) fields items) : StructureText fields s

/-- The texts of a list of structures. -/
def StructuresText {α : Type} (fields : α → List (String × (List Char → Prop))) (as : List α) (s : List Char) : Prop :=
  ∃ items, ListText items s ∧ List.Forall₂ (fun a item => StructureText (fields a) item) as items

/-- A list of structures is read if each of them is. -/
theorem reads_structures {α : Type} {reader : Reader α} {fields : α → List (String × (List Char → Prop))}
    (hreads : ∀ a s, StructureText (fields a) s → Reads reader s a) {as : List α} {s : List Char}
    (h : StructuresText fields as s) : Reads (readList reader) s as := by
  obtain ⟨items, hlist, hitems⟩ := h
  exact reads_list hlist (hitems.imp hreads)

/-! ### Slots -/

/-- A place in a draft for the value of a field. -/
structure Slot (δ : Type) where
  {α : Type}
  name : String
  reader : Reader α
  get : δ → Option α
  set : δ → Option α → δ

variable {δ : Type} {field : δ → String → Tree → Option (Except Fault δ)} {slots : List (Slot δ)} {draft next : δ}

/-- Whether a reader of members puts the value of each field into its slot, and knows no other fields. -/
structure IsForm (field : δ → String → Tree → Option (Except Fault δ)) (slots : List (Slot δ)) : Prop where
  nodup : (slots.map Slot.name).Nodup
  known : ∀ slot ∈ slots, ∀ draft t,
    field draft slot.name t = some ((readOnce slot.name (slot.get draft) slot.reader t).map (slot.set draft))
  unknown : ∀ name, name ∉ slots.map Slot.name → ∀ draft t, field draft name t = none
  get_set : ∀ slot ∈ slots, ∀ draft a, slot.get (slot.set draft a) = a
  get_set_of_ne : ∀ slot ∈ slots, ∀ other ∈ slots, other.name ≠ slot.name →
    ∀ draft a, other.get (slot.set draft a) = other.get draft

/-- A member of an object with its name and the tree of its value. -/
def memberTree (member : String × List Char) : Lexeme String × Tree :=
  (⟨.ok member.1, .ok ()⟩, textTree member.2)

/-- A field that is not yet filled takes the value that is read. -/
theorem IsForm.field_eq (h : IsForm field slots) {slot : Slot δ} (hslot : slot ∈ slots)
    (hempty : slot.get draft = none) {t : Tree} {a : slot.α} (ht : slot.reader t = .ok a) :
    field draft slot.name t = some (.ok (slot.set draft (some a))) := by
  rw [h.known slot hslot, hempty]
  unfold readOnce
  rw [ht]
  rfl

private theorem IsForm.eq_of_name_eq (h : IsForm field slots) {slot other : Slot δ} (hslot : slot ∈ slots)
    (hother : other ∈ slots) (hname : slot.name = other.name) : slot = other :=
  List.inj_on_of_nodup_map h.nodup hslot hother hname

private theorem lookup_eq_none_of_not_mem {name : String} {members : List (String × List Char)}
    (h : name ∉ members.map Prod.fst) : members.lookup name = none := by
  rw [List.lookup_eq_none_iff]
  intro member hmember
  rw [bne_iff_ne]
  rintro rfl
  exact h (List.mem_map_of_mem hmember)

/-- All fields of an object are read, whatever their order, if each is there at most once and can be read, and all other
members can be passed over. -/
theorem IsForm.exists_readMembers (h : IsForm field slots) {members : List (String × List Char)}
    (honce : ∀ slot ∈ slots, (members.map Prod.fst).count slot.name ≤ 1)
    (hread : ∀ slot ∈ slots, ∀ s, (slot.name, s) ∈ members → ∃ a, slot.reader (textTree s) = .ok a)
    (hskip : ∀ member ∈ members, member.1 ∉ slots.map Slot.name → (textTree member.2).skip = .ok ())
    (hempty : ∀ slot ∈ slots, slot.name ∈ members.map Prod.fst → slot.get draft = none) :
    ∃ next, readMembers field draft (members.map memberTree) = .ok next ∧
      ∀ slot ∈ slots, (members.lookup slot.name = none → slot.get next = slot.get draft) ∧
        ∀ s a, members.lookup slot.name = some s → slot.reader (textTree s) = .ok a → slot.get next = some a := by
  induction members generalizing draft with
  | nil =>
    refine ⟨draft, by rw [List.map_nil, readMembers], fun slot _ => ⟨fun _ => rfl, ?_⟩⟩
    rintro s a ⟨⟩
  | cons member rest ih =>
    obtain ⟨name, s⟩ := member
    have honceRest (slot : Slot δ) (hslot : slot ∈ slots) : (rest.map Prod.fst).count slot.name ≤ 1 :=
      Nat.le_trans (List.count_le_count_cons) (honce slot hslot)
    have hreadRest (slot : Slot δ) (hslot : slot ∈ slots) (s : List Char) (hs : (slot.name, s) ∈ rest) :=
      hread slot hslot s (List.mem_cons_of_mem _ hs)
    have hskipRest (member : String × List Char) (hmember : member ∈ rest) :=
      hskip member (List.mem_cons_of_mem _ hmember)
    by_cases hname : name ∈ slots.map Slot.name
    · obtain ⟨slot, hslot, rfl⟩ := List.mem_map.1 hname
      obtain ⟨a, ha⟩ := hread slot hslot s List.mem_cons_self
      have hfield := h.field_eq hslot (hempty slot hslot List.mem_cons_self) ha
      -- the field does not come again, so its slot keeps what has been read
      have hnot : slot.name ∉ rest.map Prod.fst := by
        have hcount := honce slot hslot
        rw [List.map_cons, List.count_cons_self] at hcount
        exact List.count_eq_zero.1 (by omega)
      have hemptyRest (other : Slot δ) (hother : other ∈ slots) (hmem : other.name ∈ rest.map Prod.fst) :
          other.get (slot.set draft (some a)) = none := by
        rw [h.get_set_of_ne slot hslot other hother fun heq => hnot (heq ▸ hmem)]
        exact hempty other hother (List.mem_cons_of_mem _ hmem)
      obtain ⟨next, hnext, hslots⟩ := ih honceRest hreadRest hskipRest hemptyRest
      refine ⟨next, ?_, fun other hother => ?_⟩
      · rw [List.map_cons, memberTree, readMembers_cons rfl hfield, hnext]
      · obtain ⟨habsent, hwritten⟩ := hslots other hother
        by_cases heq : other.name = slot.name
        · obtain rfl := h.eq_of_name_eq hother hslot heq
          rw [List.lookup_cons_self]
          refine ⟨(by rintro ⟨⟩), fun s b hs hb => ?_⟩
          cases hs
          rw [ha] at hb
          cases hb
          rw [habsent (lookup_eq_none_of_not_mem hnot), h.get_set other hother]
        · rw [List.lookup_cons, beq_false_of_ne heq]
          exact ⟨fun hnone => (habsent hnone).trans (h.get_set_of_ne slot hslot other hother heq draft _), hwritten⟩
    · have hfield := h.unknown name hname draft (textTree s)
      obtain ⟨next, hnext, hslots⟩ := ih honceRest hreadRest hskipRest fun slot hslot hmem =>
        hempty slot hslot (List.mem_cons_of_mem _ hmem)
      refine ⟨next, ?_, fun slot hslot => ?_⟩
      · rw [List.map_cons, memberTree, readMembers]
        dsimp only
        rw [hfield]
        dsimp only
        rw [hskip (name, s) List.mem_cons_self hname]
        exact hnext
      · have hne : slot.name ≠ name := fun heq => hname (heq ▸ List.mem_map_of_mem hslot)
        rw [List.lookup_cons, beq_false_of_ne hne]
        exact hslots slot hslot

/-- A member that has been read either has filled a slot or has been passed over. -/
private theorem readMembers_cons_eq_ok {key : Lexeme String} {t : Tree} {rest : List (Lexeme String × Tree)}
    (h : readMembers field draft ((key, t) :: rest) = .ok next) :
    ∃ name filled, key.content = .ok name ∧ readMembers field filled rest = .ok next ∧
      (field draft name t = some (.ok filled) ∨ field draft name t = none ∧ filled = draft) := by
  rw [readMembers] at h
  split at h
  · cases h
  · rename_i name hname
    split at h
    · rename_i filled hfield
      exact ⟨name, filled, hname, h, Or.inl hfield⟩
    · cases h
    · rename_i hfield
      split at h
      · exact ⟨name, draft, hname, h, Or.inr ⟨hfield, rfl⟩⟩
      · cases h

/-- A field that can be filled has a value that can be read. -/
private theorem IsForm.of_field_eq (h : IsForm field slots) {slot : Slot δ} (hslot : slot ∈ slots) {t : Tree}
    (hfield : field draft slot.name t = some (.ok next)) :
    ∃ a, slot.reader t = .ok a ∧ next = slot.set draft (some a) := by
  rw [h.known slot hslot] at hfield
  unfold readOnce at hfield
  split at hfield
  · cases hfield
  · cases ht : slot.reader t with
    | error =>
      rw [ht] at hfield
      cases hfield
    | ok a =>
      rw [ht] at hfield
      cases hfield
      exact ⟨a, rfl, rfl⟩

/-- Members without the name of a field leave its slot as it is. -/
theorem IsForm.get_eq_of_readMembers (h : IsForm field slots) {slot : Slot δ} (hslot : slot ∈ slots)
    {members : List (Lexeme String × Tree)} (hread : readMembers field draft members = .ok next)
    (habsent : ∀ member ∈ members, member.1.content ≠ .ok slot.name) : slot.get next = slot.get draft := by
  induction members generalizing draft with
  | nil =>
    cases hread
    rfl
  | cons member rest ih =>
    obtain ⟨habsent, habsentRest⟩ := List.forall_mem_cons.1 habsent
    obtain ⟨name, filled, hname, hrest, hfield⟩ := readMembers_cons_eq_ok hread
    rw [ih hrest habsentRest]
    rcases hfield with hfield | ⟨-, rfl⟩
    · by_cases hknown : name ∈ slots.map Slot.name
      · obtain ⟨other, hother, rfl⟩ := List.mem_map.1 hknown
        obtain ⟨a, -, rfl⟩ := h.of_field_eq hother hfield
        refine h.get_set_of_ne other hother slot hslot (fun heq => habsent ?_) draft _
        rw [hname, heq]
      · rw [h.unknown name hknown] at hfield
        cases hfield
    · rfl

/-- If all members have been read, so has each with the name of a field. -/
theorem IsForm.exists_read_of_readMembers (h : IsForm field slots) {slot : Slot δ} (hslot : slot ∈ slots)
    {members : List (Lexeme String × Tree)} (hread : readMembers field draft members = .ok next)
    {member : Lexeme String × Tree} (hmember : member ∈ members) (hname : member.1.content = .ok slot.name) :
    ∃ a, slot.reader member.2 = .ok a := by
  induction members generalizing draft with
  | nil => cases hmember
  | cons first rest ih =>
    obtain ⟨name, filled, hfirst, hrest, hfield⟩ := readMembers_cons_eq_ok hread
    rcases List.mem_cons.1 hmember with rfl | hmember
    · rw [hname] at hfirst
      cases hfirst
      rcases hfield with hfield | ⟨hfield, -⟩
      · obtain ⟨a, ha, -⟩ := h.of_field_eq hslot hfield
        exact ⟨a, ha⟩
      · rw [h.known slot hslot] at hfield
        cases hfield
    · exact ih hrest hmember

/-! ### Fields in slots -/

/-- Whether everything that can be written for a field is read into a slot. -/
structure Fits (field : Field) (slot : Slot δ) : Prop where
  name_eq : field.name = slot.name
  reads : ∀ s, field.texts (some s) → ∃ a, Reads slot.reader s a

/-- Whether a draft is what is read from members: a slot is filled where there is a member with its name. -/
def ReadFrom (slots : List (Slot δ)) (members : List (String × List Char)) (next : δ) : Prop :=
  ∀ slot ∈ slots, (members.lookup slot.name = none → slot.get next = none) ∧
    ∀ s a, members.lookup slot.name = some s → slot.reader (textTree s) = .ok a → slot.get next = some a

section

variable {fields : List Field} {members : List (String × List Char)} {slot : Slot δ} {name : String}
  {texts : List Char → Prop}

/-- A field that has to be there fits the slot of its name if its texts are read. -/
theorem fits_present (hname : name = slot.name) (h : ∀ s, texts s → ∃ a, Reads slot.reader s a) :
    Fits (.present name texts) slot := by
  refine ⟨hname, ?_⟩
  rintro s ⟨_, ⟨⟩, hs⟩
  exact h s hs

/-- A field that may be left out fits the slot of its name if its texts are read. -/
theorem fits_optional {absent : Prop} (hname : name = slot.name) (h : ∀ s, texts s → ∃ a, Reads slot.reader s a) :
    Fits (.optional name absent texts) slot :=
  ⟨hname, h⟩

private theorem names_eq (h : List.Forall₂ Fits fields slots) : fields.map Field.name = slots.map Slot.name := by
  induction h with
  | nil => rfl
  | cons hfits _ ih => rw [List.map_cons, List.map_cons, hfits.name_eq, ih]

private theorem exists_fits (h : List.Forall₂ Fits fields slots) (hslot : slot ∈ slots) :
    ∃ field ∈ fields, Fits field slot := by
  induction h with
  | nil => cases hslot
  | cons hfits _ ih =>
    rcases List.mem_cons.1 hslot with rfl | hslot
    · exact ⟨_, List.mem_cons_self, hfits⟩
    · obtain ⟨field, hfield, hfits⟩ := ih hslot
      exact ⟨field, List.mem_cons_of_mem _ hfield, hfits⟩

/-- A member whose name comes once is found under its name. -/
private theorem lookup_eq_some {s : List Char} (h : (name, s) ∈ members)
    (honce : (members.map Prod.fst).count name ≤ 1) : members.lookup name = some s := by
  obtain ⟨before, behind, rfl⟩ := List.append_of_mem h
  rw [List.map_append, List.map_cons, List.count_append, List.count_cons_self] at honce
  have hbefore : name ∉ before.map Prod.fst := List.count_eq_zero.1 (by omega)
  refine List.lookup_eq_some_iff.2 ⟨before, behind, rfl, fun member hmember => ?_⟩
  rw [bne_iff_ne]
  rintro rfl
  exact hbefore (List.mem_map_of_mem hmember)

/-- An object that holds fields has a tree, from whose members all the fields are read. -/
theorem IsForm.exists_readFrom (h : IsForm field slots) (hfits : List.Forall₂ Fits fields slots) {s : List Char}
    (hobject : ObjectText members s) (hholds : Holds fields members) (draft : δ)
    (hempty : ∀ slot ∈ slots, slot.get draft = none) :
    HasTree s (.object (members.map memberTree)) ∧
      ∃ next, readMembers field draft (members.map memberTree) = .ok next ∧ ReadFrom slots members next := by
  have hreads (slot : Slot δ) (hslot : slot ∈ slots) (s : List Char) (hs : (slot.name, s) ∈ members) :
      ∃ a, Reads slot.reader s a := by
    obtain ⟨field, hfield, hname, hreads⟩ := exists_fits hfits hslot
    have hwritten := hholds.written field hfield
    have honce := hholds.once field hfield
    rw [hname] at hwritten honce
    rw [lookup_eq_some hs honce] at hwritten
    exact hreads s hwritten
  have hothers (member : String × List Char) (hmember : member ∈ members) (hname : member.1 ∉ slots.map Slot.name) :
      IsValue member.2 :=
    hholds.others member hmember (by rwa [names_eq hfits])
  refine ⟨hasTree_object hobject fun member hmember => ?_, ?_⟩
  · by_cases hname : member.1 ∈ slots.map Slot.name
    · obtain ⟨slot, hslot, hname⟩ := List.mem_map.1 hname
      obtain ⟨a, ha⟩ := hreads slot hslot member.2 (by rwa [hname])
      exact ha.hasTree
    · exact (hothers member hmember hname).hasTree
  · have honce (slot : Slot δ) (hslot : slot ∈ slots) : (members.map Prod.fst).count slot.name ≤ 1 := by
      obtain ⟨field, hfield, hfits⟩ := exists_fits hfits hslot
      rw [← hfits.name_eq]
      exact hholds.once field hfield
    have hread (slot : Slot δ) (hslot : slot ∈ slots) (s : List Char) (hs : (slot.name, s) ∈ members) :
        ∃ a, slot.reader (textTree s) = .ok a := by
      obtain ⟨a, ha⟩ := hreads slot hslot s hs
      exact ⟨a, ha.read_eq⟩
    obtain ⟨next, hnext, hslots⟩ := h.exists_readMembers honce hread
      (fun member hmember hname => (hothers member hmember hname).skip_textTree) (fun slot hslot _ => hempty slot hslot)
    refine ⟨next, hnext, fun slot hslot => ⟨fun hnone => ?_, (hslots slot hslot).2⟩⟩
    rw [(hslots slot hslot).1 hnone, hempty slot hslot]

/-- The slot of a field that has to be there holds what is written for it. -/
theorem ReadFrom.get_of_present (h : ReadFrom slots members next) (hholds : Holds fields members)
    (hfield : Field.present name texts ∈ fields) (hslot : slot ∈ slots) (hname : name = slot.name) {a : slot.α}
    (hreads : ∀ s, texts s → Reads slot.reader s a) : slot.get next = some a := by
  obtain ⟨s, hs, htexts⟩ : ∃ s, members.lookup name = some s ∧ texts s := hholds.written _ hfield
  subst hname
  exact (h slot hslot).2 s a hs (hreads s htexts).read_eq

/-- The slot of a field that may be left out holds what is written for it, or its usual value is meant. -/
theorem ReadFrom.getD_of_optional (h : ReadFrom slots members next) (hholds : Holds fields members) {absent : Prop}
    (hfield : Field.optional name absent texts ∈ fields) (hslot : slot ∈ slots) (hname : name = slot.name)
    {a usual : slot.α} (hreads : ∀ s, texts s → Reads slot.reader s a) (habsent : absent → a = usual) :
    (slot.get next).getD usual = a := by
  have hwritten := hholds.written _ hfield
  subst hname
  unfold Field.optional at hwritten
  dsimp only at hwritten
  split at hwritten
  · rename_i hnone
    rw [(h slot hslot).1 hnone, habsent hwritten]
    rfl
  · rename_i s hs
    rw [(h slot hslot).2 s a hs (hreads s hwritten).read_eq]
    rfl

end

end KeyedFlow.Json
