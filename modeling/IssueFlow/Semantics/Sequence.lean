import Mathlib.Data.List.Basic

/-!
# Sequences of inputs

A machine takes one input at a time; the state after a sequence is a left fold
of its step function. A guard constrains every input by the state it is taken
in.

## Main definitions

* `Guarded` — every input of a sequence meets the guard

## Main results

* `Guarded.invariant` — invariants of guarded sequences
* `guarded_append` — sequences split where their states do
* `guarded_iff_observed` — guards that decide whether an observation changes
-/

namespace IssueFlow.Semantics

variable {σ ι : Type*} {step : σ → ι → σ} {guard guard' : σ → ι → Prop} {state : σ}

/-- Every input meets the guard in the state it is taken in. -/
def Guarded (step : σ → ι → σ) (guard : σ → ι → Prop) : List ι → σ → Prop
  | [], _ => True
  | input :: inputs, state => guard state input ∧ Guarded step guard inputs (step state input)

instance decidableGuarded [∀ state input, Decidable (guard state input)] :
    (inputs : List ι) → (state : σ) → Decidable (Guarded step guard inputs state)
  | [], _ => .isTrue trivial
  | input :: inputs, state =>
      have := decidableGuarded inputs (step state input)
      inferInstanceAs (Decidable (_ ∧ _))

/-- A sequence is guarded when both of its parts are, each where it starts. -/
theorem guarded_append (first second : List ι) :
    Guarded step guard (first ++ second) state ↔
      Guarded step guard first state ∧ Guarded step guard second (first.foldl step state) := by
  induction first generalizing state with
  | nil => exact (and_iff_right trivial).symm
  | cons input first ih =>
      rw [List.cons_append, Guarded, Guarded, ih, and_assoc]
      rfl

theorem Guarded.mono (weaker : ∀ state input, guard state input → guard' state input)
    {inputs : List ι} (guarded : Guarded step guard inputs state) :
    Guarded step guard' inputs state := by
  induction inputs generalizing state with
  | nil => trivial
  | cons input inputs ih => exact ⟨weaker state input guarded.1, ih guarded.2⟩

/-- **Invariants of guarded sequences.** What every guarded input keeps holds at
the end. -/
theorem Guarded.invariant (invariant : σ → Prop)
    (keeps : ∀ state input, guard state input → invariant state → invariant (step state input))
    {inputs : List ι} (guarded : Guarded step guard inputs state) (holds : invariant state) :
    invariant (inputs.foldl step state) := by
  induction inputs generalizing state with
  | nil => exact holds
  | cons input inputs ih => exact ih guarded.2 (keeps state input guarded.1 holds)

/-- A step leaves what is observed exactly when its guard holds. Then the guard
holds all along exactly when every state that is reached shows what the first
one shows. -/
theorem guarded_iff_observed {β : Type*} (observe : σ → β) {inputs : List ι}
    (exact : ∀ state' input, input ∈ inputs → observe state' = observe state →
      (observe (step state' input) = observe state' ↔ guard state' input)) :
    Guarded step guard inputs state ↔
      ∀ reached, reached <+: inputs → observe (reached.foldl step state) = observe state := by
  induction inputs generalizing state with
  | nil =>
      refine iff_of_true trivial fun reached initial => ?_
      rw [List.prefix_nil.mp initial]
      rfl
  | cons input inputs ih =>
      -- Every state that is reached shows the same, so it may start the rest.
      have first := exact state input List.mem_cons_self rfl
      constructor
      · rintro ⟨holds, rest⟩ reached initial
        have same := first.mpr holds
        cases reached with
        | nil => rfl
        | cons other reached =>
            obtain ⟨rfl, later⟩ := List.cons_prefix_cons.mp initial
            refine ((ih ?_).mp rest reached later).trans same
            intro state' input member agrees
            exact exact state' input (List.mem_cons_of_mem _ member) (agrees.trans same)
      · intro shows
        have same : observe (step state input) = observe state :=
          shows [input] (List.prefix_iff_eq_take.mpr rfl)
        refine ⟨first.mp same, (ih ?_).mpr ?_⟩
        · intro state' input member agrees
          exact exact state' input (List.mem_cons_of_mem _ member) (agrees.trans same)
        · intro reached initial
          have longer : input :: reached <+: input :: inputs :=
            List.cons_prefix_cons.mpr ⟨rfl, initial⟩
          exact (shows (input :: reached) longer).trans same.symm

end IssueFlow.Semantics
