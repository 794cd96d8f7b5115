import IssueFlow.Semantics.Program

/-!
# Operations that fail

A plan of faults decides for every operation of a run, by its number, whether
it is executed or only answered with a failure. The rules say what such a run
has to do with the run without faults: a program that handles no failure either
runs into the fault and throws, or never notices it.

## Main definitions

* `faulty` — execution under a plan, with the operations counted
* `Program.Returns` — a program that never throws
* `Program.Strict` — a program that throws as soon as an operation fails
* `Program.OneFault` — an execution with one fault, compared to the one without

## Main results

* `Program.Only.run_rel`, `Program.Only.run_simulates` — two executions of a limited program
* `Program.Strict.run_met`, `Program.OneFault.run_spared` — a fault inside a run, and one outside it
-/

namespace IssueFlow.Semantics

universe u

variable {Op : Type u} {Ans : Op → Type} {ε α β σ τ : Type}

/-- The answers of the operations that fail, by their number. -/
abbrev Faults (Op : Type u) (Ans : Op → Type) := ℕ → (op : Op) → Option (Ans op)

/-- Execute an operation unless it is planned to fail. The state carries the
number of operations so far. -/
def faulty (exec : (op : Op) → σ → Ans op × σ) (faults : Faults Op Ans) (op : Op)
    (state : σ × ℕ) : Ans op × σ × ℕ :=
  match faults state.2 op with
  | some answer => (answer, state.1, state.2 + 1)
  | none => ((exec op state.1).1, (exec op state.1).2, state.2 + 1)

theorem faulty_none {exec : (op : Op) → σ → Ans op × σ} {faults : Faults Op Ans} {op : Op}
    {state : σ × ℕ} (spared : faults state.2 op = none) :
    faulty exec faults op state = ((exec op state.1).1, (exec op state.1).2, state.2 + 1) := by
  rw [faulty, spared]

/-- Every operation counts once, whether it fails or not. -/
theorem faulty_number (exec : (op : Op) → σ → Ans op × σ) (faults : Faults Op Ans) (op : Op)
    (state : σ × ℕ) : (faulty exec faults op state).2.2 = state.2 + 1 := by
  rw [faulty]
  cases faults state.2 op <;> rfl

namespace Program

/-- The operations of a run, counted by an outline. -/
theorem Outline.run_number {exec : (op : Op) → σ → Ans op × σ} {faults : Faults Op Ans}
    {p : Program Op Ans ε α} {ends : List (Event Op (σ × ℕ)) → Except ε α → Prop}
    (outline : p.Outline (faulty exec faults) (fun _ _ => True) ends []) (state : σ × ℕ) :
    ∃ events : List (Event Op (σ × ℕ)),
      (p.run (faulty exec faults) state).2.2 = state.2 + events.length ∧
        ends events (p.run (faulty exec faults) state).1 := by
  refine outline.run (fun events reached => reached.2 = state.2 + events.length) ?_ rfl
  intro events op reached counted _
  rw [faulty_number, counted, List.length_cons, Nat.add_assoc]

variable {allowed : Op → Prop}

/-! ### Two executions -/

/-- A preorder that the operations of a limited program move along. -/
theorem Only.run_rel {exec : (op : Op) → σ → Ans op × σ} (rel : σ → σ → Prop)
    (refl : ∀ state, rel state state) (trans : ∀ {a b c}, rel a b → rel b c → rel a c)
    (step : ∀ op state, allowed op → rel state (exec op state).2)
    {p : Program Op Ans ε α} (only : p.Only allowed) (state : σ) :
    rel state (p.run exec state).2 := by
  induction p generalizing state with
  | done result => exact refl state
  | call op next ih => exact trans (step op state only.1) (ih _ (only.2 _) _)

/-- An execution that answers like another one on what can be seen of its state
gives the same result. -/
theorem Only.run_simulates {exec : (op : Op) → σ → Ans op × σ} {exec' : (op : Op) → τ → Ans op × τ}
    (view : τ → σ)
    (step : ∀ op state, allowed op → (exec' op state).1 = (exec op (view state)).1 ∧
      view (exec' op state).2 = (exec op (view state)).2)
    {p : Program Op Ans ε α} (only : p.Only allowed) (state : τ) :
    (p.run exec' state).1 = (p.run exec (view state)).1 ∧
      view (p.run exec' state).2 = (p.run exec (view state)).2 := by
  induction p generalizing state with
  | done result => exact ⟨rfl, rfl⟩
  | call op next ih =>
      obtain ⟨answer, seen⟩ := step op state only.1
      rw [run_call, run_call, answer, ← seen]
      exact ih _ (only.2 _) _

/-! ### Programs that never throw -/

/-- Whatever the answers, the program ends with a value. -/
def Returns : Program Op Ans ε α → Prop
  | .done result => result.isOk
  | .call _ next => ∀ answer, (next answer).Returns

theorem Returns.bind {p : Program Op Ans ε α} {f : α → Program Op Ans ε β} (first : p.Returns)
    (rest : ∀ value, (f value).Returns) : (p >>= f).Returns := by
  induction p with
  | done result =>
      cases result with
      | ok value => exact rest value
      | error exception => cases first
  | call op next ih => exact fun answer => ih answer (first answer)

theorem Returns.tryCatch (p : Program Op Ans ε α) {handler : ε → Program Op Ans ε α}
    (handles : ∀ exception, (handler exception).Returns) :
    (Program.tryCatch p handler).Returns := by
  induction p with
  | done result =>
      cases result with
      | ok value => rfl
      | error exception => exact handles exception
  | call op next ih => exact fun answer => ih answer

theorem Returns.run (exec : (op : Op) → σ → Ans op × σ) {p : Program Op Ans ε α}
    (returns : p.Returns) (state : σ) : ∃ value after, p.run exec state = (.ok value, after) := by
  induction p generalizing state with
  | done result =>
      cases result with
      | ok value => exact ⟨value, state, rfl⟩
      | error exception => cases returns
  | call op next ih => exact ih _ (returns _) _

/-! ### Programs that handle no failure -/

section Strict

variable (fails : (op : Op) → Ans op → Prop)

/-- After an operation that fails, the program throws. -/
def Strict : Program Op Ans ε α → Prop
  | .done _ => True
  | .call op next => ∀ answer, (next answer).Strict ∧
      (fails op answer → ∃ exception, next answer = .done (.error exception))

/-- How an execution with one fault compares to one without: the fault is met by
the operations that cover its number, and the others do not notice it. -/
structure OneFault (plain hit : (op : Op) → σ × ℕ → Ans op × σ × ℕ) (position : ℕ) : Prop where
  counts : ∀ op state, state.2 ≤ (plain op state).2.2
  met : ∀ op state, state.2 ≤ position → position < (plain op state).2.2 →
    fails op (hit op state).1
  spared : ∀ op state, position < state.2 ∨ (plain op state).2.2 ≤ position →
    hit op state = plain op state

variable {fails}

/-- A plan with one fault, compared to the plan without. -/
theorem OneFault.of_faults {exec : (op : Op) → σ → Ans op × σ} {faults : Faults Op Ans}
    {position : ℕ}
    (here : ∀ op, ∃ answer, faults position op = some answer ∧ fails op answer)
    (elsewhere : ∀ number op, number ≠ position → faults number op = none) :
    OneFault fails (faulty exec fun _ _ => none) (faulty exec faults) position where
  counts _ state := Nat.le_succ state.2
  met op state reached inside := by
    obtain ⟨answer, planned, failing⟩ := here op
    have same : state.2 = position := Nat.le_antisymm reached (Nat.le_of_lt_succ inside)
    rw [faulty, same, planned]
    exact failing
  spared op state outside := by
    have other : state.2 ≠ position := by
      rcases outside with before | after
      · exact Nat.ne_of_gt before
      · exact Nat.ne_of_lt (Nat.lt_of_succ_le after)
    rw [faulty_none (elsewhere _ op other)]
    rfl

theorem Strict.bind {p : Program Op Ans ε α} {f : α → Program Op Ans ε β} (first : p.Strict fails)
    (rest : ∀ value, (f value).Strict fails) : (p >>= f).Strict fails := by
  induction p with
  | done result =>
      cases result with
      | ok value => exact rest value
      | error exception => trivial
  | call op next ih =>
      intro answer
      obtain ⟨strict, throws⟩ := first answer
      refine ⟨ih answer strict, fun failed => ?_⟩
      obtain ⟨exception, thrown⟩ := throws failed
      exact ⟨exception, congrArg (· >>= f) thrown⟩

variable {plain hit : (op : Op) → σ × ℕ → Ans op × σ × ℕ} {position : ℕ}

theorem OneFault.run_counts (fault : OneFault fails plain hit position)
    (p : Program Op Ans ε α) (state : σ × ℕ) : state.2 ≤ (p.run plain state).2.2 :=
  run_rel plain (fun before after => before.2 ≤ after.2) (fun _ => Nat.le_refl _) Nat.le_trans
    fault.counts p state

/-- A strict program that ends with a value has met no failure of a plan. -/
theorem Strict.run_ok {exec : (op : Op) → σ → Ans op × σ} {faults : Faults Op Ans}
    (failing : ∀ number op answer, faults number op = some answer → fails op answer)
    {p : Program Op Ans ε α} (strict : p.Strict fails) {state after : σ × ℕ} {value : α}
    (returned : p.run (faulty exec faults) state = (.ok value, after)) :
    p.run exec state.1 = (.ok value, after.1) := by
  induction p generalizing state with
  | done result =>
      obtain ⟨rfl, rfl⟩ := Prod.mk.inj returned
      rfl
  | call op next ih =>
      rw [run_call] at returned ⊢
      cases planned : faults state.2 op with
      | none =>
          rw [faulty_none planned] at returned
          exact ih _ (strict _).1 returned
      | some answer =>
          obtain ⟨exception, thrown⟩ := (strict answer).2 (failing _ _ _ planned)
          rw [faulty, planned, thrown] at returned
          cases returned

/-- A fault that lies outside a run is not noticed. -/
theorem OneFault.run_spared (fault : OneFault fails plain hit position)
    (p : Program Op Ans ε α) (state : σ × ℕ)
    (outside : position < state.2 ∨ (p.run plain state).2.2 ≤ position) :
    p.run hit state = p.run plain state := by
  induction p generalizing state with
  | done result => rfl
  | call op next ih =>
      rw [run_call] at outside
      have later := fault.run_counts (next (plain op state).1) (plain op state).2
      have here : hit op state = plain op state := by
        apply fault.spared
        omega
      rw [run_call, run_call, here]
      apply ih
      have := fault.counts op state
      omega

/-- A strict program that meets the fault throws. -/
theorem Strict.run_met (fault : OneFault fails plain hit position)
    {p : Program Op Ans ε α} (strict : p.Strict fails) (state : σ × ℕ)
    (reached : state.2 ≤ position) (inside : position < (p.run plain state).2.2) :
    ∃ exception, (p.run hit state).1 = .error exception := by
  induction p generalizing state with
  | done result => exact absurd reached (Nat.not_le.mpr inside)
  | call op next ih =>
      rw [run_call] at inside ⊢
      obtain ⟨rest, throws⟩ := strict (hit op state).1
      by_cases here : position < (plain op state).2.2
      · obtain ⟨exception, thrown⟩ := throws (fault.met op state reached here)
        rw [thrown]
        exact ⟨exception, rfl⟩
      · have later := Nat.not_lt.mp here
        rw [fault.spared op state (.inr later)] at rest ⊢
        exact ih _ rest _ later inside

end Strict

end Program

end IssueFlow.Semantics
