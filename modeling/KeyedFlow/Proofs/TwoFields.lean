import KeyedFlow.Proofs.MissingFields

/-!
# Structures of two fields

A structure of two fields that both have to be there is read from an object that holds them, in either order and among
others, and from the list of the two (`Json.reads_pair`).  It needs both of them (`Json.needs_first`,
`Json.needs_second`).
-/

namespace KeyedFlow.Json

variable {δ α : Type}

/-- Reads a structure of two fields. -/
def readPair (expected expectedItems : String) (field : δ → String → Tree → Option (Except Fault δ)) (draft : δ)
    (first second : Slot δ) (make : first.α → second.α → α) : Reader α :=
  readStructure expected
    (fun members => do
      let draft ← readMembers field draft members
      return make (← required first.name (first.get draft)) (← required second.name (second.get draft)))
    (do return make (← item 0 expectedItems first.reader) (← item 1 expectedItems second.reader))

variable {expected expectedItems : String} {field : δ → String → Tree → Option (Except Fault δ)} {draft : δ}
  {first second : Slot δ} {make : first.α → second.α → α} {s : List Char}

/-- An item that can be read is taken from the list. -/
private theorem item_bind_cons {β γ : Type} {reader : Reader β} {index : Nat} {t : Tree} {rest : List Tree} {b : β}
    {k : β → Items γ} (h : reader t = .ok b) : (item index expected reader >>= k) (t :: rest) = k b rest := by
  show ((reader t).map (·, rest) >>= fun taken => k taken.1 taken.2) = _
  rw [h]
  rfl

/-- Both fields are read from each text of a structure. -/
theorem reads_pair (h : IsForm field [first, second]) (hfirst : first.get draft = none)
    (hsecond : second.get draft = none) {a : first.α} {b : second.α} {texts others : List Char → Prop}
    (hreads : ∀ s, texts s → Reads first.reader s a) (hothers : ∀ s, others s → Reads second.reader s b)
    (hs : StructureText [(first.name, texts), (second.name, others)] s) :
    Reads (readPair expected expectedItems field draft first second make) s (make a b) := by
  unfold readPair
  cases hs with
  | object hs =>
    obtain ⟨members, hobject, hholds⟩ := hs
    have hfits : List.Forall₂ Fits [.present first.name texts, .present second.name others] [first, second] :=
      .cons (fits_present rfl fun s hs => ⟨a, hreads s hs⟩)
        (.cons (fits_present rfl fun s hs => ⟨b, hothers s hs⟩) .nil)
    obtain ⟨htree, next, hread, hfrom⟩ := h.exists_readFrom hfits hobject hholds draft (by simp [hfirst, hsecond])
    have ha : first.get next = some a :=
      hfrom.get_of_present hholds List.mem_cons_self List.mem_cons_self rfl hreads
    have hb : second.get next = some b :=
      hfrom.get_of_present hholds (List.mem_cons_of_mem _ List.mem_cons_self)
        (List.mem_cons_of_mem _ List.mem_cons_self) rfl hothers
    refine htree.reads ?_
    unfold readStructure
    dsimp only
    rw [hread]
    show (do return make (← required first.name (first.get next)) (← required second.name (second.get next)) :
      Except Fault α) = _
    rw [ha, hb]
    rfl
  | list hlist hitems =>
    obtain ⟨s₁, _, hs₁, hrest, rfl⟩ := List.forall₂_cons_left_iff.1 hitems
    obtain ⟨s₂, _, hs₂, hnil, rfl⟩ := List.forall₂_cons_left_iff.1 hrest
    obtain rfl := List.forall₂_nil_left_iff.1 hnil
    have ha := hreads s₁ hs₁
    have hb := hothers s₂ hs₂
    have hpair : (do return make (← item 0 expectedItems first.reader) (← item 1 expectedItems second.reader) :
        Items α) ([s₁, s₂].map textTree) = .ok (make a b, []) :=
      (item_bind_cons ha.read_eq).trans (item_bind_cons hb.read_eq)
    refine (hasTree_list hlist (by simp [ha.hasTree, hb.hasTree])).reads ?_
    unfold readStructure
    dsimp only
    rw [hpair]
    rfl

private theorem exists_of_readPair_object {members : List (Lexeme String × Tree)} {c : α}
    (h : readPair expected expectedItems field draft first second make (.object members) = .ok c) :
    ∃ next a b, readMembers field draft members = .ok next ∧ first.get next = some a ∧ second.get next = some b := by
  obtain ⟨next, hnext, h⟩ := exists_of_bind_eq_ok h
  obtain ⟨a, ha, h⟩ := exists_of_bind_eq_ok h
  obtain ⟨b, hb, -⟩ := exists_of_bind_eq_ok h
  exact ⟨next, a, b, hnext, required_eq_ok ha, required_eq_ok hb⟩

private theorem exists_of_readPair_list {items : List Tree} {c : α}
    (h : readPair expected expectedItems field draft first second make (.list items) = .ok c) :
    ∃ t u rest a b, items = t :: u :: rest ∧ first.reader t = .ok a ∧ second.reader u = .ok b := by
  obtain ⟨rest, h⟩ := exists_of_readStructure_list h
  obtain ⟨t, _, a, rfl, ha, h⟩ := exists_of_item_eq_ok h
  obtain ⟨u, rest, b, rfl, hb, -⟩ := exists_of_item_eq_ok h
  exact ⟨t, u, rest, a, b, rfl, ha, hb⟩

/-- A pair is not read without its first field. -/
theorem needs_first : Needs (readPair expected expectedItems field draft first second make) field draft first 0 where
  object _ _ h := by
    obtain ⟨next, a, -, hnext, ha, -⟩ := exists_of_readPair_object h
    exact ⟨next, a, hnext, ha⟩
  list _ _ h := by
    obtain ⟨t, u, rest, a, -, rfl, ha, -⟩ := exists_of_readPair_list h
    exact ⟨t, a, rfl, ha⟩

/-- A pair is not read without its second field. -/
theorem needs_second : Needs (readPair expected expectedItems field draft first second make) field draft second 1 where
  object _ _ h := by
    obtain ⟨next, -, b, hnext, -, hb⟩ := exists_of_readPair_object h
    exact ⟨next, b, hnext, hb⟩
  list _ _ h := by
    obtain ⟨t, u, rest, -, b, rfl, -, hb⟩ := exists_of_readPair_list h
    exact ⟨u, b, rfl, hb⟩

/-- A structure is not read without one of its fields. -/
theorem rejects_pair_of_lacks (h : IsForm field [first, second]) (hfirst : first.get draft = none)
    (hsecond : second.get draft = none) (hs : Lacks first.name 0 s ∨ Lacks second.name 1 s) :
    Rejects (readPair expected expectedItems field draft first second make) s := by
  rcases hs with hs | hs
  · exact needs_first.rejects_of_lacks h (by simp) hfirst hs
  · exact needs_second.rejects_of_lacks h (by simp) hsecond hs

end KeyedFlow.Json
