import Mathlib.Logic.ExistsUnique
import KeyedFlow.Failure

/-!
# Failures in contexts

A failure may stand in any number of contexts, one inside the other (`Failure.within`).  They add to what it says and
take nothing from it (`Failure.within_keeps_cause`): its root, its code and whether a file is absent are those of the
cause; its text is a heading for each context, from the outermost inwards, and then the text of the cause; and its
object tells of exactly these contexts, one level for each (`Failure.Tells`).  Every failure is one cause in one list of
contexts (`Failure.existsUnique_within`).
-/

namespace KeyedFlow.Failure

/-- What stands around a failure of an operation: the position and the wording of the operation. -/
@[ext]
structure Context where
  position : Nat
  operator : String
  function : String
  deriving DecidableEq, Repr

namespace Context

/-- A failure in a context. -/
def around (context : Context) (failure : Failure) : Failure :=
  .atOperation context.position context.operator context.function failure

/-- What the text of a failure says of a context. -/
def heading (context : Context) : String :=
  s!"Operation #{context.position} ({context.operator} {context.function}) failed: "

/-- The level of a context in an object. -/
def level (context : Context) (code message : String) (inner : Json) : List (String × Json) :=
  [("code", .text code), ("message", .text message), ("position", .count context.position),
    ("operator", .text context.operator), ("function", .text context.function), ("cause", inner)]

end Context

/-- A failure in contexts, the outermost of which comes first. -/
def within (failure : Failure) (contexts : List Context) : Failure :=
  contexts.foldr Context.around failure

/-- Whether a failure stands in no context. -/
def IsBare (failure : Failure) : Prop :=
  ∀ position operator function cause, failure ≠ .atOperation position operator function cause

/-- The text of a cause behind the headings of its contexts. -/
def wording (cause : Failure) (contexts : List Context) : String :=
  String.join (contexts.map Context.heading) ++ cause.message

/-- Whether an object tells of a cause and its contexts: it has a level for each context, from the outermost inwards,
whose members may stand in any order, and ends with the object of the cause. -/
inductive Tells (cause : Failure) : List Context → Json → Prop where
  | cause : Tells cause [] cause.toJson
  | level {context : Context} {contexts : List Context} {inner : Json} {members : List (String × Json)} :
      Tells cause contexts inner →
      members.Perm (context.level cause.code (cause.wording (context :: contexts)) inner) →
      Tells cause (context :: contexts) (.object members)

variable {cause : Failure} {context : Context} {contexts others : List Context}

@[simp]
theorem within_nil (failure : Failure) : failure.within [] = failure :=
  rfl

@[simp]
theorem within_cons (failure : Failure) (context : Context) (contexts : List Context) :
    failure.within (context :: contexts) = context.around (failure.within contexts) :=
  rfl

/-! ### One context -/

@[simp]
theorem root_around (failure : Failure) : (context.around failure).root = failure.root :=
  rfl

@[simp]
theorem code_around (failure : Failure) : (context.around failure).code = failure.code :=
  rfl

private theorem message_around (failure : Failure) :
    (context.around failure).message = context.heading ++ failure.message :=
  rfl

private theorem toJson_around (context : Context) (failure : Failure) :
    (context.around failure).toJson =
      .object (context.level failure.code (context.around failure).message failure.toJson) :=
  rfl

/-! ### Any number of contexts -/

/-- Contexts do not change the root of a failure. -/
@[simp]
theorem root_within (failure : Failure) (contexts : List Context) : (failure.within contexts).root = failure.root := by
  induction contexts with
  | nil => rfl
  | cons context contexts ih => rw [within_cons, root_around, ih]

/-- Contexts do not change the code of a failure. -/
@[simp]
theorem code_within (failure : Failure) (contexts : List Context) : (failure.within contexts).code = failure.code := by
  induction contexts with
  | nil => rfl
  | cons context contexts ih => rw [within_cons, code_around, ih]

/-- Contexts do not change whether a failure is a missing input. -/
@[simp]
theorem isMissingInput_within (failure : Failure) (contexts : List Context) :
    (failure.within contexts).isMissingInput = failure.isMissingInput := by
  unfold isMissingInput
  rw [root_within]

private theorem message_within (failure : Failure) (contexts : List Context) :
    (failure.within contexts).message = failure.wording contexts := by
  induction contexts with
  | nil => simp [wording]
  | cons context contexts ih =>
    rw [within_cons, message_around, ih]
    simp only [wording, List.map_cons, String.join_cons, String.append_assoc]

/-- Each context adds its level to the object. -/
private theorem tells_within (cause : Failure) (contexts : List Context) :
    Tells cause contexts (cause.within contexts).toJson := by
  induction contexts with
  | nil => exact .cause
  | cons context contexts ih =>
    have hlevel := toJson_around context (cause.within contexts)
    rw [code_within, ← within_cons, message_within] at hlevel
    rw [hlevel]
    exact .level ih (.refl _)

/-! ### Back to the cause -/

/-- Without a context a failure is its own root. -/
private theorem IsBare.root_eq (h : cause.IsBare) : cause.root = cause := by
  cases cause with
  | atOperation position operator function inner => exact absurd rfl (h position operator function inner)
  | _ => rfl

/-- The object of a failure without a context is no level: it has no cause inside. -/
private theorem IsBare.not_perm_level (h : cause.IsBare) {members : List (String × Json)}
    (hmembers : cause.toJson = .object members) (code message : String) (inner : Json) :
    ¬members.Perm (context.level code message inner) := by
  intro hperm
  have hmem : "cause" ∈ members.map Prod.fst := (hperm.map Prod.fst).mem_iff.2 (by simp [Context.level])
  obtain rfl : _ = members := by simpa only [toJson, Json.object.injEq] using hmembers
  cases cause with
  | atOperation position operator function inner => exact h _ _ _ _ rfl
  | _ => simp [details] at hmem

/-- A level tells of one context and has one object inside, in whatever order its members stand. -/
private theorem Context.eq_of_level_perm {other : Context} {code message code' message' : String} {inner inner' : Json}
    (h : (context.level code message inner).Perm (other.level code' message' inner')) :
    context = other ∧ inner = inner' := by
  have hmem : ∀ member ∈ context.level code message inner, member ∈ other.level code' message' inner' :=
    fun _ => h.mem_iff.1
  simp [level] at hmem
  obtain ⟨-, -, hposition, hoperator, hfunction, hinner⟩ := hmem
  exact ⟨Context.ext hposition hoperator hfunction, hinner⟩

/-- No other contexts can be read from an object than those of which its levels tell. -/
private theorem Tells.unique (h : cause.IsBare) {json : Json} (hcontexts : Tells cause contexts json)
    (hothers : Tells cause others json) : others = contexts := by
  -- level by level; the readings cannot end at different levels, since a level has a cause and the last object has none
  induction hcontexts generalizing others with
  | cause =>
    generalize hjson : cause.toJson = json at hothers
    cases hothers with
    | cause => rfl
    | level _ hperm => exact absurd hperm (h.not_perm_level hjson _ _ _)
  | level _ hperm ih =>
    generalize hjson : Json.object _ = json at hothers
    cases hothers with
    | cause => exact absurd hperm (h.not_perm_level hjson.symm _ _ _)
    | level hothers hperm' =>
      cases hjson
      obtain ⟨rfl, rfl⟩ := Context.eq_of_level_perm (hperm'.symm.trans hperm)
      rw [ih hothers]

/-- Every failure is its root in some contexts. -/
private theorem exists_within_root (failure : Failure) :
    failure.root.IsBare ∧ ∃ contexts, failure.root.within contexts = failure := by
  induction failure with
  | atOperation position operator function inner ih =>
    obtain ⟨hbare, contexts, hwithin⟩ := ih
    refine ⟨hbare, ⟨position, operator, function⟩ :: contexts, ?_⟩
    exact congrArg (atOperation position operator function) hwithin
  | _ => exact ⟨nofun, [], rfl⟩

/-- Every failure is one cause in one list of contexts. -/
theorem existsUnique_within (failure : Failure) :
    ∃! parts : Failure × List Context, parts.1.IsBare ∧ parts.1.within parts.2 = failure := by
  obtain ⟨hbare, contexts, hwithin⟩ := exists_within_root failure
  refine ⟨(failure.root, contexts), ⟨hbare, hwithin⟩, ?_⟩
  rintro ⟨other, others⟩ ⟨hother, rfl⟩
  rw [root_within, hother.root_eq] at hwithin ⊢
  have htells : Tells other contexts (other.within others).toJson := hwithin ▸ tells_within other contexts
  rw [(tells_within other others).unique hother htells]

/-- Contexts hide nothing of a failure: root, code and whether a file is absent are those of the cause, the text is that
of the cause behind the headings of the contexts, and the object tells of the contexts, of each of them once and of no
others, and ends with the object of the cause. -/
theorem within_keeps_cause (h : cause.IsBare) (contexts : List Context) :
    (cause.within contexts).root = cause ∧
    (cause.within contexts).code = cause.code ∧
    (cause.within contexts).isMissingInput = cause.isMissingInput ∧
    (cause.within contexts).message = String.join (contexts.map Context.heading) ++ cause.message ∧
    ∀ others, Tells cause others (cause.within contexts).toJson ↔ others = contexts := by
  refine ⟨?_, code_within cause contexts, isMissingInput_within cause contexts, message_within cause contexts, ?_⟩
  · rw [root_within, h.root_eq]
  · intro others
    constructor
    · exact (tells_within cause contexts).unique h
    · rintro rfl
      exact tells_within cause others

/-- An absent file behind two operations. -/
theorem within_keeps_cause_two :
    let cause := missingInput "key2.csv"
    let contexts : List Context := [⟨12, "MAP", "ADD(1)"⟩, ⟨2, "FILTER", "LT(ten)"⟩]
    cause.IsBare ∧ (cause.within contexts).root = cause ∧ (cause.within contexts).code = "MISSING_INPUT" ∧
      (cause.within contexts).isMissingInput = true ∧
      (cause.within contexts).message =
        "Operation #12 (MAP ADD(1)) failed: Operation #2 (FILTER LT(ten)) failed: Missing input: key2.csv" ∧
      Tells cause contexts (.object [("code", .text "MISSING_INPUT"),
        ("message", .text
          "Operation #12 (MAP ADD(1)) failed: Operation #2 (FILTER LT(ten)) failed: Missing input: key2.csv"),
        ("position", .integer 12), ("operator", .text "MAP"), ("function", .text "ADD(1)"),
        ("cause", .object [("code", .text "MISSING_INPUT"),
          ("message", .text "Operation #2 (FILTER LT(ten)) failed: Missing input: key2.csv"),
          ("position", .integer 2), ("operator", .text "FILTER"), ("function", .text "LT(ten)"),
          ("cause", .object [("code", .text "MISSING_INPUT"), ("message", .text "Missing input: key2.csv"),
            ("path", .text "key2.csv")])])]) := by
  intro cause contexts
  have hbare : cause.IsBare := nofun
  obtain ⟨hroot, hcode, hmissing, hmessage, htells⟩ := within_keeps_cause hbare contexts
  exact ⟨hbare, hroot, hcode, hmissing, hmessage.trans (by decide), (htells contexts).2 rfl⟩

end KeyedFlow.Failure
