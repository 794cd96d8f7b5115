import IssueFlow.Semantics.Program

/-!
# Pre- and postconditions

A program that is executed alone ends with a value or throws, and a triple says
what holds in either case. The rules follow the program: an operation, a
sequence, a handler, and a loop over a list whose invariant knows the elements
that were handled.

## Main definitions

* `Program.wp` — the weakest precondition of a value and of an exception
* `Program.Conforms` — what a program sends, and how it ends
* `Program.ensure` — `try … finally …`
* `Program.forEach` — a loop over a list

## Main results

* `Program.wp_bind`, `Program.wp_tryCatch`, `Program.wp_ensure` — the rules
* `Program.wp_forEach` — the loop rule
* `Program.conforms_iff` — the events of a run and its end
-/

namespace IssueFlow.Semantics

universe u

namespace Program

variable {Op : Type u} {Ans : Op → Type} {ε α β γ σ : Type}

/-- Run a program to its end, then clean up, whether it has thrown or not. -/
def ensure (p : Program Op Ans ε α) (cleanup : Program Op Ans ε Unit) : Program Op Ans ε α := do
  let result ← tryCatch (Except.ok <$> p) fun exception => pure (.error exception)
  cleanup
  match result with
  | .ok value => pure value
  | .error exception => throw exception

/-- `for (const element of list) { await body(element); }` -/
def forEach (body : γ → Program Op Ans ε Unit) : List γ → Program Op Ans ε Unit
  | [] => pure ()
  | element :: list => do
      body element
      forEach body list

variable (exec : (op : Op) → σ → Ans op × σ)

/-- The states from which a program ends as the two conditions say. -/
def wp (p : Program Op Ans ε α) (post : α → σ → Prop) (fails : ε → σ → Prop) (state : σ) : Prop :=
  match p.run exec state with
  | (.ok value, after) => post value after
  | (.error exception, after) => fails exception after

section Rules

variable {exec} {p : Program Op Ans ε α} {post post' : α → σ → Prop} {fails fails' : ε → σ → Prop}
  {state : σ}

theorem wp_iff : p.wp exec post fails state ↔
    (∀ value after, p.run exec state = (.ok value, after) → post value after) ∧
      ∀ exception after, p.run exec state = (.error exception, after) → fails exception after := by
  unfold wp
  generalize p.run exec state = outcome
  obtain ⟨result, after⟩ := outcome
  cases result with
  | ok value =>
      constructor
      · intro holds
        constructor
        · rintro _ _ ⟨⟩
          exact holds
        · rintro _ _ ⟨⟩
      · intro holds
        exact holds.1 value after rfl
  | error exception =>
      constructor
      · intro holds
        constructor
        · rintro _ _ ⟨⟩
        · rintro _ _ ⟨⟩
          exact holds
      · intro holds
        exact holds.2 exception after rfl

theorem wp_mono (weaker : ∀ value after, post value after → post' value after)
    (weakerFails : ∀ exception after, fails exception after → fails' exception after)
    (holds : p.wp exec post fails state) : p.wp exec post' fails' state := by
  rw [wp_iff] at holds ⊢
  refine ⟨?_, ?_⟩
  · intro value after ran
    exact weaker value after (holds.1 value after ran)
  · intro exception after ran
    exact weakerFails exception after (holds.2 exception after ran)

theorem wp_pure (value : α) :
    (pure value : Program Op Ans ε α).wp exec post fails state ↔ post value state := Iff.rfl

theorem wp_throw (exception : ε) :
    (throw exception : Program Op Ans ε α).wp exec post fails state ↔ fails exception state :=
  Iff.rfl

/-- The second part of a sequence starts where the first one has ended. -/
theorem wp_bind (p : Program Op Ans ε β) (f : β → Program Op Ans ε α) :
    (p >>= f).wp exec post fails state ↔
      p.wp exec (fun value after => (f value).wp exec post fails after) fails state := by
  unfold wp
  rw [run_bind]
  generalize p.run exec state = outcome
  obtain ⟨result, after⟩ := outcome
  cases result <;> exact Iff.rfl

theorem wp_map (f : β → α) (p : Program Op Ans ε β) :
    (f <$> p).wp exec post fails state ↔
      p.wp exec (fun value after => post (f value) after) fails state := by
  rw [map_eq_bind, wp_bind]
  exact Iff.rfl

/-- A handler takes over where the program has thrown. -/
theorem wp_tryCatch (p : Program Op Ans ε α) (handler : ε → Program Op Ans ε α) :
    (p.tryCatch handler).wp exec post fails state ↔
      p.wp exec post (fun exception after => (handler exception).wp exec post fails after)
        state := by
  induction p generalizing state with
  | done result => cases result <;> exact Iff.rfl
  | call op next ih => exact ih _

/-- The clean-up runs after a value and after an exception. -/
theorem wp_ensure (p : Program Op Ans ε α) (cleanup : Program Op Ans ε Unit) :
    (p.ensure cleanup).wp exec post fails state ↔
      p.wp exec (fun value after => cleanup.wp exec (fun _ => post value) fails after)
        (fun exception after => cleanup.wp exec (fun _ => fails exception) fails after) state := by
  unfold ensure
  rw [wp_bind]
  show (Program.tryCatch _ _).wp exec _ fails state ↔ _
  rw [wp_tryCatch, wp_map]
  simp only [wp_pure, wp_bind, wp_throw]

/-- **The loop rule.** The invariant knows the elements that were handled; it
holds of the whole list at the end. -/
theorem wp_forEach {body : γ → Program Op Ans ε Unit} {list : List γ}
    (invariant : List γ → σ → Prop) {fails : ε → σ → Prop}
    (step : ∀ handled element rest state, list = handled ++ element :: rest →
      invariant handled state →
      (body element).wp exec (fun _ after => invariant (handled ++ [element]) after) fails state)
    (start : invariant [] state) :
    (forEach body list).wp exec (fun _ after => invariant list after) fails state := by
  -- For the induction the handled elements vary and the list is what remains.
  suffices remaining : ∀ rest handled state, list = handled ++ rest → invariant handled state →
      (forEach body rest).wp exec (fun _ after => invariant list after) fails state from
    remaining list [] state rfl start
  intro rest
  induction rest with
  | nil =>
      intro handled state same holds
      rw [List.append_nil] at same
      rw [same]
      exact holds
  | cons element rest ih =>
      intro handled state same holds
      rw [forEach, wp_bind]
      refine wp_mono ?_ (fun _ _ failed => failed) (step handled element rest state same holds)
      intro _ after kept
      refine ih (handled ++ [element]) after ?_ kept
      rw [same, List.append_assoc, List.singleton_append]

end Rules

/-! ### What a program sends -/

section Conforms

variable (exec : (op : Op) → σ → Ans op × σ) (allowed : Op → σ → Prop)

/-- Executed alone from a state, the program sends only operations that are
allowed where they are executed, and ends as `ends` says. -/
def Conforms (ends : Except ε α → σ → Prop) : Program Op Ans ε α → σ → Prop
  | .done result, state => ends result state
  | .call op next, state =>
      allowed op state ∧ Conforms ends (next (exec op state).1) (exec op state).2

variable {exec allowed}

theorem conforms_iff (p : Program Op Ans ε α) {ends : Except ε α → σ → Prop} {state : σ} :
    p.Conforms exec allowed ends state ↔
      (∀ event ∈ p.events exec state, allowed event.op event.state) ∧
        ends (p.run exec state).1 (p.run exec state).2 := by
  induction p generalizing state with
  | done result => simp [Conforms, events]
  | call op next ih => simp only [Conforms, events, List.forall_mem_cons, run_call, ih, and_assoc]

theorem conforms_map (f : β → α) (p : Program Op Ans ε β) {ends : Except ε α → σ → Prop}
    {state : σ} :
    (f <$> p).Conforms exec allowed ends state ↔
      p.Conforms exec allowed (fun result after => ends (result.map f) after) state := by
  induction p generalizing state with
  | done result => cases result <;> exact Iff.rfl
  | call op next ih => exact and_congr Iff.rfl (ih _)

end Conforms

end Program

end IssueFlow.Semantics
