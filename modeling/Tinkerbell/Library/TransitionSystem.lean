import Mathlib.Data.List.Basic

/-!
Owns: runs of a deterministic labelled transition system, conditions that hold
before every step of a run, and the induction rules that carry an invariant
along a run.

Nondeterminism lives in the labels: a scheduler choice, a fault, or a reply of
the environment is part of the label, so a run is fixed by its start state and
its label list.
-/

namespace TransitionSystem

universe u v

variable {σ : Type u} {ℓ : Type v}

def run (step : σ → ℓ → σ) (start : σ) (labels : List ℓ) : σ :=
  labels.foldl step start

section

variable (step : σ → ℓ → σ) (start : σ)

@[simp] theorem run_nil :
    run step start [] = start := rfl

@[simp] theorem run_cons (label : ℓ)
    (rest : List ℓ) :
    run step start (label :: rest) = run step (step start label) rest := rfl

theorem run_append (before after : List ℓ) :
    run step start (before ++ after) = run step (run step start before) after := by
  simp [run, List.foldl_append]

end

def Meets (step : σ → ℓ → σ) (condition : σ → ℓ → Prop) :
    σ → List ℓ → Prop
  | _, [] => True
  | state, label :: rest =>
    condition state label ∧ Meets step condition (step state label) rest

instance decidableMeets (step : σ → ℓ → σ) (condition : σ → ℓ → Prop)
    [∀ state label, Decidable (condition state label)] (start : σ) (labels : List ℓ) :
    Decidable (Meets step condition start labels) :=
  match labels with
  | [] => isTrue trivial
  | label :: rest =>
    have := decidableMeets step condition (step start label) rest
    inferInstanceAs (Decidable (condition start label ∧ _))

variable {step : σ → ℓ → σ} {condition : σ → ℓ → Prop} {start : σ} {labels : List ℓ}

variable {invariant : σ → Prop}

theorem run_invariant
    (keeps : ∀ state label, invariant state → condition state label → invariant (step state label))
    (initial : invariant start) (meets : Meets step condition start labels) :
    invariant (run step start labels) := by
  induction labels generalizing start with
  | nil => exact initial
  | cons label _ ih =>
    exact ih (keeps start label initial meets.1) meets.2

theorem meets_of_forall {condition : ℓ → Prop} (all : ∀ label ∈ labels, condition label) :
    Meets step (fun _ label => condition label) start labels := by
  induction labels generalizing start with
  | nil => trivial
  | cons label _ ih =>
    refine ⟨all label (by simp), ih ?_⟩
    intro later member
    exact all later (by simp [member])

theorem always_iff_meets {domain : σ → ℓ → Prop}
    (exact : ∀ state label, invariant state → domain state label →
      (invariant (step state label) ↔ condition state label))
    (initial : invariant start) (inDomain : Meets step domain start labels) :
    (∀ before, before <+: labels → invariant (run step start before)) ↔
      Meets step condition start labels := by
  induction labels generalizing start with
  | nil =>
    refine ⟨fun _ => trivial, fun _ before isPrefix => ?_⟩
    rw [List.prefix_nil.mp isPrefix]
    exact initial
  | cons label rest ih =>
    have first := exact start label initial inDomain.1
    constructor
    · intro always
      have kept := always [label] (List.prefix_append [label] rest)
      refine ⟨first.mp kept, (ih kept inDomain.2).mp ?_⟩
      intro before isPrefix
      exact always (label :: before) ((List.prefix_cons_inj label).mpr isPrefix)
    · intro meets before isPrefix
      cases before with
      | nil => exact initial
      | cons _ before =>
        obtain ⟨rfl, restPrefix⟩ := List.cons_prefix_cons.mp isPrefix
        have later := ih (first.mpr meets.1) inDomain.2
        exact later.mpr meets.2 before restPrefix

/-- A value that is final once it is reached is kept along a run exactly if every
step keeps it. -/
theorem final_iff_meets {ν : Type*} {view : σ → ν} {final : ν → Prop}
    (keeps : ∀ state label, invariant state → invariant (step state label))
    (exact : ∀ state label, invariant state →
      ((final (view state) → view (step state label) = view state) ↔ condition state label))
    (initial : invariant start) :
    (∀ before after, before ++ after <+: labels → final (view (run step start before)) →
        view (run step start (before ++ after)) = view (run step start before)) ↔
      Meets step condition start labels := by
  induction labels generalizing start with
  | nil =>
    refine ⟨fun _ => trivial, fun _ before after isPrefix _ => ?_⟩
    obtain ⟨rfl, rfl⟩ := List.append_eq_nil_iff.mp (List.prefix_nil.mp isPrefix)
    rfl
  | cons label rest ih =>
    have first := exact start label initial
    have later := ih (keeps start label initial)
    constructor
    · intro kept
      refine ⟨first.mp (kept [] [label] (List.prefix_append [label] rest)), later.mp ?_⟩
      intro before after isPrefix
      exact kept (label :: before) after ((List.prefix_cons_inj label).mpr isPrefix)
    · rintro ⟨now, meets⟩ before after isPrefix isFinal
      cases before with
      | cons _ before =>
        obtain ⟨rfl, restPrefix⟩ := List.cons_prefix_cons.mp isPrefix
        exact later.mpr meets before after restPrefix isFinal
      | nil =>
        cases after with
        | nil => rfl
        | cons other after =>
          obtain ⟨rfl, restPrefix⟩ := List.cons_prefix_cons.mp isPrefix
          have same := first.mpr now isFinal
          have still : final (view (step start other)) := by rwa [same]
          exact (later.mpr meets [] after restPrefix still).trans same

end TransitionSystem
