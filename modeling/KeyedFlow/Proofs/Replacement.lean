import KeyedFlow.Proofs.Resolution

/-!
# Replaced operations

Operations can be replaced by others that resolve whenever they do, to stages with the same effect on every table
(`Operation.Replaces`).  Then they can be replaced wherever they stand in a pipeline
(`Blueprint.exists_build_of_replaces`).  Neighbours can be exchanged if their stages commute (`Operation.Commute`).
-/

namespace KeyedFlow

namespace Operation

/-- A single operation resolves to its stage. -/
theorem resolve_singleton {rounding : Rounding} {a : Operation} {stages : List Stage} :
    Resolve rounding [a] stages ↔ ∃ s, a.compile rounding = .ok s ∧ stages = [s] := by
  constructor
  · rintro (_ | ⟨hs, _ | _⟩)
    exact ⟨_, hs, rfl⟩
  · rintro ⟨s, hs, rfl⟩
    exact .cons hs .nil

/-- Two operations resolve to their two stages. -/
theorem resolve_pair {rounding : Rounding} {a b : Operation} {stages : List Stage} :
    Resolve rounding [a, b] stages ↔
      ∃ s u, a.compile rounding = .ok s ∧ b.compile rounding = .ok u ∧ stages = [s, u] := by
  constructor
  · rintro (_ | ⟨hs, _ | ⟨hu, _ | _⟩⟩)
    exact ⟨_, _, hs, hu, rfl⟩
  · rintro ⟨s, u, hs, hu, rfl⟩
    exact .cons hs (.cons hu .nil)

/-- Whether operations can be replaced by others: these resolve whenever the first ones do, and to stages with the same
effect. -/
def Replaces (rounding : Rounding) (operations others : List Operation) : Prop :=
  ∀ stages, Resolve rounding operations stages →
    ∃ more, Resolve rounding others more ∧ ∀ t, Stage.applyAll more t = Stage.applyAll stages t

/-- Whether it makes no difference which of two operations comes first. -/
def Commute (rounding : Rounding) (a b : Operation) : Prop :=
  ∀ s u, a.compile rounding = .ok s → b.compile rounding = .ok u → ∀ t, s.apply (u.apply t) = u.apply (s.apply t)

variable {rounding : Rounding} {a b : Operation}

theorem Commute.symm (h : Commute rounding a b) : Commute rounding b a :=
  fun u s hu hs t => (h s u hs hu t).symm

/-- Operations of which it makes no difference which comes first can be exchanged. -/
theorem Commute.replaces (h : Commute rounding a b) : Replaces rounding [a, b] [b, a] := by
  intro stages hstages
  obtain ⟨s, u, hs, hu, rfl⟩ := resolve_pair.1 hstages
  exact ⟨[u, s], resolve_pair.2 ⟨u, s, hu, hs, rfl⟩, h s u hs hu⟩

end Operation

/-- Operations of a pipeline can be replaced wherever they stand. -/
theorem Blueprint.exists_build_of_replaces {rounding : Rounding} {operations others : List Operation}
    (h : Operation.Replaces rounding operations others) {name : String} {before after : List Operation}
    {pipeline : Pipeline} (hbuild : build ⟨name, before ++ operations ++ after, rounding⟩ = .ok pipeline) :
    ∃ replaced, build ⟨name, before ++ others ++ after, rounding⟩ = .ok replaced ∧
      ∀ t, replaced.run t = pipeline.run t := by
  obtain ⟨front, rest, hstages, hfront, hrest⟩ := (resolve_of_build hbuild).exists_append
  obtain ⟨first, stages, rfl, hfirst, hmiddle⟩ := hfront.exists_append
  obtain ⟨more, hmore, heffect⟩ := h stages hmiddle
  obtain ⟨replaced, hreplaced, hothers⟩ :=
    exists_build_of_resolve (List.rel_append (List.rel_append hfirst hmore) hrest) name
  refine ⟨replaced, hreplaced, fun t => ?_⟩
  rw [Pipeline.run_eq_applyAll, Pipeline.run_eq_applyAll, hothers, hstages]
  simp only [Stage.applyAll_append, heffect]

end KeyedFlow
