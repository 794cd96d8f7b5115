import IssueFlow.Semantics.Program

/-!
# Programs that agree on two states

A program cannot tell two states apart when it ends with the same result on
both. For two runs of one program this is a fact about its operations: as long
as each of them is answered alike, the runs send the same operations, and they
end with the same result.

## Main definitions

* `Program.Agrees` — the two runs of a program end with the same result

## Main results

* `Program.Agrees.call`, `Program.Agrees.bind`, `Program.Agrees.map` — agreement part by part
* `Program.Only.agrees` — agreement from a relation on states that the operations do not see
-/

namespace IssueFlow.Semantics.Program

universe u

variable {Op : Type u} {Ans : Op → Type} {ε α β σ : Type} {exec : (op : Op) → σ → Ans op × σ}
  {first second : σ}

/-- Executed alone on two states, the program ends with the same result. -/
def Agrees (exec : (op : Op) → σ → Ans op × σ) (p : Program Op Ans ε α) (first second : σ) : Prop :=
  (p.run exec second).1 = (p.run exec first).1

/-- An operation that is answered alike, and a continuation that agrees. -/
theorem Agrees.call {op : Op} {next : Ans op → Program Op Ans ε α}
    (answer : (exec op second).1 = (exec op first).1)
    (rest : (next (exec op first).1).Agrees exec (exec op first).2 (exec op second).2) :
    (call op next).Agrees exec first second := by
  show ((next (exec op second).1).run exec (exec op second).2).1 = _
  rw [answer]
  exact rest

/-- The first part agrees, and so does what follows each of its values. -/
theorem Agrees.bind {p : Program Op Ans ε α} {f : α → Program Op Ans ε β}
    (head : p.Agrees exec first second)
    (rest : ∀ value, (p.run exec first).1 = .ok value →
      (f value).Agrees exec (p.run exec first).2 (p.run exec second).2) :
    (p >>= f).Agrees exec first second := by
  unfold Agrees at head
  rw [Agrees, run_bind, run_bind]
  generalize p.run exec second = after' at head rest ⊢
  generalize p.run exec first = after at head rest ⊢
  obtain ⟨result, reached⟩ := after
  obtain ⟨result', reached'⟩ := after'
  obtain rfl : result' = result := head
  cases result' with
  | ok value => exact rest value rfl
  | error exception => rfl

theorem Agrees.map (f : α → β) {p : Program Op Ans ε α} (agrees : p.Agrees exec first second) :
    (f <$> p).Agrees exec first second := by
  rw [Agrees, run_map, run_map]
  exact congrArg (Except.map f) agrees

/-- **Unwinding.** States stay related, and related states answer alike: then a
program that is limited to such operations agrees on related states. -/
theorem Only.agrees {allowed : Op → Prop} (related : σ → σ → Prop)
    (unwinds : ∀ op first second, allowed op → related first second →
      (exec op second).1 = (exec op first).1 ∧ related (exec op first).2 (exec op second).2)
    {p : Program Op Ans ε α} (only : p.Only allowed) (start : related first second) :
    p.Agrees exec first second := by
  induction p generalizing first second with
  | done result => rfl
  | call op next ih =>
      obtain ⟨answer, after⟩ := unwinds op first second only.1 start
      apply Agrees.call answer
      exact ih _ (only.2 _) after

end IssueFlow.Semantics.Program
