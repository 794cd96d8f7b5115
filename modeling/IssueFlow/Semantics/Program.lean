import Mathlib.Logic.Function.Basic
import Mathlib.Data.List.Basic

/-!
# Programs over atomic operations

A program is a finite tree: it either ends with a result or sends one atomic
operation to a shared state and goes on with the answer. The operations, their
answers, the exceptions and the state are parameters, so the same tree can be
run alone, run with other programs in between, or only inspected.

`Outline` is the rule everything about a single program is proved with. It says
what a program sends and how it ends, given the operations it has sent so far
and the states they were sent in, while between two operations the state may
change in any way. Facts about interference are added by whoever knows the
other programs.

## Main definitions

* `Program` — programs, a monad with exceptions
* `Program.run`, `Program.events` — a program executed alone, and what it executes
* `Program.Outline` — what a program sends and returns, under any interference
* `Program.Only` — the operations a program is limited to

## Main results

* `Program.run_bind`, `Program.outline_bind` — sequencing
* `Program.run_rel` — a preorder kept by every operation is kept by a whole run
* `Program.Outline.run` — an outline turned into a fact about a run
-/

namespace IssueFlow.Semantics

universe u

/-- A program over the operations `Op` with answers `Ans`: it ends with a value
or an exception, or it calls an operation and continues with the answer. -/
inductive Program (Op : Type u) (Ans : Op → Type) (ε α : Type) : Type u
  | done (result : Except ε α)
  | call (op : Op) (next : Ans op → Program Op Ans ε α)

/-- An operation together with the state it was executed in. The answer is not
recorded: it is what executing the operation in that state gives. -/
structure Event (Op : Type u) (σ : Type) where
  op : Op
  state : σ

namespace Program

variable {Op : Type u} {Ans : Op → Type} {ε α β σ : Type}

/-- Sequencing: an exception skips the continuation. -/
protected def bind : Program Op Ans ε α → (α → Program Op Ans ε β) → Program Op Ans ε β
  | .done (.ok value), f => f value
  | .done (.error exception), _ => .done (.error exception)
  | .call op next, f => .call op fun answer => (next answer).bind f

/-- Run a handler on the exception a program ends with. -/
protected def tryCatch : Program Op Ans ε α → (ε → Program Op Ans ε α) → Program Op Ans ε α
  | .done (.ok value), _ => .done (.ok value)
  | .done (.error exception), handler => handler exception
  | .call op next, handler => .call op fun answer => (next answer).tryCatch handler

instance : Monad (Program Op Ans ε) where
  pure value := .done (.ok value)
  bind := Program.bind

instance : MonadExceptOf ε (Program Op Ans ε) where
  throw exception := .done (.error exception)
  tryCatch := Program.tryCatch

@[simp] theorem pure_eq (value : α) :
    (pure value : Program Op Ans ε α) = .done (.ok value) := rfl

@[simp] theorem throw_eq (exception : ε) :
    (throw exception : Program Op Ans ε α) = .done (.error exception) := rfl

@[simp] theorem tryCatch_eq (p : Program Op Ans ε α) (handler : ε → Program Op Ans ε α) :
    MonadExcept.tryCatch p handler = p.tryCatch handler := rfl

@[simp] theorem done_ok_bind (value : α) (f : α → Program Op Ans ε β) :
    (.done (.ok value) >>= f : Program Op Ans ε β) = f value := rfl

@[simp] theorem done_error_bind (exception : ε) (f : α → Program Op Ans ε β) :
    ((.done (.error exception) : Program Op Ans ε α) >>= f) = .done (.error exception) := rfl

@[simp] theorem call_bind (op : Op) (next : Ans op → Program Op Ans ε α)
    (f : α → Program Op Ans ε β) :
    (.call op next >>= f) = .call op fun answer => next answer >>= f := rfl

@[simp] theorem map_eq_bind (f : α → β) (p : Program Op Ans ε α) :
    f <$> p = p >>= fun value => .done (.ok (f value)) := rfl

theorem bind_assoc {γ : Type} (p : Program Op Ans ε α) (f : α → Program Op Ans ε β)
    (g : β → Program Op Ans ε γ) : (p >>= f) >>= g = p >>= fun value => f value >>= g := by
  induction p with
  | done result => cases result <;> rfl
  | call op next ih =>
      rw [call_bind, call_bind, call_bind]
      congr 1
      funext answer
      exact ih answer

/-- Returning what a program returns adds nothing. -/
theorem bind_done (p : Program Op Ans ε α) : (p >>= fun value => .done (.ok value)) = p := by
  induction p with
  | done result => cases result <;> rfl
  | call op next ih =>
      rw [call_bind]
      congr 1
      funext answer
      exact ih answer

/-! ### A program executed alone -/

section Run

variable (exec : (op : Op) → σ → Ans op × σ)

/-- Execute a program with nothing in between its operations. -/
def run : Program Op Ans ε α → σ → Except ε α × σ
  | .done result, state => (result, state)
  | .call op next, state => (next (exec op state).1).run (exec op state).2

@[simp] theorem run_done (result : Except ε α) (state : σ) :
    (done result : Program Op Ans ε α).run exec state = (result, state) := rfl

@[simp] theorem run_call (op : Op) (next : Ans op → Program Op Ans ε α) (state : σ) :
    (call op next).run exec state = (next (exec op state).1).run exec (exec op state).2 := rfl

/-- A sequence runs its first part and continues where that one ended. -/
theorem run_bind (p : Program Op Ans ε α) (f : α → Program Op Ans ε β) (state : σ) :
    (p >>= f).run exec state =
      match p.run exec state with
      | (.ok value, middle) => (f value).run exec middle
      | (.error exception, middle) => (.error exception, middle) := by
  induction p generalizing state with
  | done result => cases result <;> rfl
  | call op next ih => exact ih _ _

/-- A program whose value is mapped. -/
theorem run_map (f : α → β) (p : Program Op Ans ε α) (state : σ) :
    (f <$> p).run exec state = ((p.run exec state).1.map f, (p.run exec state).2) := by
  rw [map_eq_bind, run_bind]
  generalize p.run exec state = reached
  obtain ⟨result, after⟩ := reached
  cases result <;> rfl

/-- A sequence that ends with a value: its first part has ended with one. -/
theorem run_bind_eq_ok {p : Program Op Ans ε α} {f : α → Program Op Ans ε β} {state after : σ}
    {value : β} (ended : (p >>= f).run exec state = (.ok value, after)) :
    ∃ first middle, p.run exec state = (.ok first, middle) ∧
      (f first).run exec middle = (.ok value, after) := by
  rw [run_bind] at ended
  generalize p.run exec state = reached at ended ⊢
  obtain ⟨result, middle⟩ := reached
  cases result with
  | error exception => cases ended
  | ok first => exact ⟨first, middle, rfl, ended⟩

/-- A mapped value is the image of a value. -/
theorem run_map_eq_ok {f : α → β} {p : Program Op Ans ε α} {state after : σ} {value : β}
    (ended : (f <$> p).run exec state = (.ok value, after)) :
    ∃ first, p.run exec state = (.ok first, after) ∧ f first = value := by
  obtain ⟨first, middle, ran, mapped⟩ := run_bind_eq_ok exec ended
  cases mapped
  exact ⟨first, ran, rfl⟩

/-- The operations a program executes alone, in order. -/
def events : Program Op Ans ε α → σ → List (Event Op σ)
  | .done _, _ => []
  | .call op next, state =>
      ⟨op, state⟩ :: (next (exec op state).1).events (exec op state).2

/-- A preorder that every operation moves along is moved along by a run. -/
theorem run_rel (rel : σ → σ → Prop) (refl : ∀ state, rel state state)
    (trans : ∀ {a b c}, rel a b → rel b c → rel a c)
    (step : ∀ op state, rel state (exec op state).2)
    (p : Program Op Ans ε α) (state : σ) : rel state (p.run exec state).2 := by
  induction p generalizing state with
  | done result => exact refl state
  | call op next ih => exact trans (step op state) (ih _ _)

end Run

/-! ### Outlines -/

section Outline

variable (exec : (op : Op) → σ → Ans op × σ)
  (sends : List (Event Op σ) → Op → Prop) (ends : List (Event Op σ) → Except ε α → Prop)

/-- Whatever the states its operations find, the program only sends operations
that `sends` allows after the events so far, and it ends as `ends` says. The
events are listed with the most recent one first. -/
def Outline : Program Op Ans ε α → List (Event Op σ) → Prop
  | .done result, events => ends events result
  | .call op next, events =>
      sends events op ∧
        ∀ state : σ, (next (exec op state).1).Outline (⟨op, state⟩ :: events)

variable {exec sends ends}

@[simp] theorem outline_done (result : Except ε α) (events : List (Event Op σ)) :
    (done result : Program Op Ans ε α).Outline exec sends ends events ↔ ends events result :=
  Iff.rfl

theorem outline_call (op : Op) (next : Ans op → Program Op Ans ε α)
    (events : List (Event Op σ)) :
    (call op next).Outline exec sends ends events ↔
      sends events op ∧
        ∀ state : σ, (next (exec op state).1).Outline exec sends ends (⟨op, state⟩ :: events) :=
  Iff.rfl

/-- The outline of a sequence: what the first part may end with has to be a
point from which the second part has an outline. -/
theorem outline_bind (p : Program Op Ans ε α) (f : α → Program Op Ans ε β)
    {ends : List (Event Op σ) → Except ε β → Prop} (events : List (Event Op σ)) :
    (p >>= f).Outline exec sends ends events ↔
      p.Outline exec sends (fun events result =>
        match result with
        | .ok value => (f value).Outline exec sends ends events
        | .error exception => ends events (.error exception)) events := by
  induction p generalizing events with
  | done result => cases result <;> rfl
  | call op next ih => exact and_congr Iff.rfl (forall_congr' fun state => ih _ _)

/-- The outline of a program whose value is mapped. -/
theorem outline_map (f : α → β) (p : Program Op Ans ε α)
    {ends : List (Event Op σ) → Except ε β → Prop} (events : List (Event Op σ)) :
    (f <$> p).Outline exec sends ends events ↔
      p.Outline exec sends (fun events result => ends events (result.map f)) events := by
  rw [map_eq_bind, outline_bind]
  have same : (fun events result =>
      match result with
      | .ok value => (done (.ok (f value)) : Program Op Ans ε β).Outline exec sends ends events
      | .error exception => ends events (.error exception)) =
      fun (events : List (Event Op σ)) (result : Except ε α) => ends events (result.map f) := by
    funext events result
    cases result <;> rfl
  rw [same]

/-- An outline may be weakened at every operation and at the end. -/
theorem Outline.mono {sends' : List (Event Op σ) → Op → Prop}
    {ends' : List (Event Op σ) → Except ε α → Prop}
    (weaker : ∀ events op, sends events op → sends' events op)
    (weakerEnd : ∀ events result, ends events result → ends' events result)
    {p : Program Op Ans ε α} {events : List (Event Op σ)}
    (outline : p.Outline exec sends ends events) : p.Outline exec sends' ends' events := by
  induction p generalizing events with
  | done result => exact weakerEnd _ _ outline
  | call op next ih => exact ⟨weaker _ _ outline.1, fun state => ih _ (outline.2 state)⟩

/-! ### Operations a program is limited to -/

/-- Whatever the answers, every operation the program sends is allowed. -/
def Only (allowed : Op → Prop) : Program Op Ans ε α → Prop
  | .done _ => True
  | .call op next => allowed op ∧ ∀ answer, (next answer).Only allowed

variable {allowed : Op → Prop}

theorem Only.bind {p : Program Op Ans ε α} {f : α → Program Op Ans ε β} (first : p.Only allowed)
    (rest : ∀ value, (f value).Only allowed) : (p >>= f).Only allowed := by
  induction p with
  | done result =>
      cases result with
      | ok value => exact rest value
      | error exception => trivial
  | call op next ih => exact ⟨first.1, fun answer => ih answer (first.2 answer)⟩

theorem Only.map {p : Program Op Ans ε α} (f : α → β) (only : p.Only allowed) :
    (f <$> p).Only allowed :=
  only.bind fun _ => trivial

theorem Only.tryCatch {p : Program Op Ans ε α} {handler : ε → Program Op Ans ε α}
    (only : p.Only allowed) (handles : ∀ exception, (handler exception).Only allowed) :
    (Program.tryCatch p handler).Only allowed := by
  induction p with
  | done result =>
      cases result with
      | ok value => trivial
      | error exception => exact handles exception
  | call op next ih => exact ⟨only.1, fun answer => ih answer (only.2 answer)⟩

theorem Only.mono {allowed' : Op → Prop} (weaker : ∀ op, allowed op → allowed' op)
    {p : Program Op Ans ε α} (only : p.Only allowed) : p.Only allowed' := by
  induction p with
  | done result => trivial
  | call op next ih => exact ⟨weaker op only.1, fun answer => ih answer (only.2 answer)⟩

theorem Only.and {allowed' : Op → Prop} {p : Program Op Ans ε α} (only : p.Only allowed)
    (only' : p.Only allowed') : p.Only fun op => allowed op ∧ allowed' op := by
  induction p with
  | done result => trivial
  | call op next ih =>
      exact ⟨⟨only.1, only'.1⟩, fun answer => ih answer (only.2 answer) (only'.2 answer)⟩

theorem Only.all (p : Program Op Ans ε α) : p.Only fun _ => True := by
  induction p with
  | done result => trivial
  | call op next ih => exact ⟨trivial, fun answer => ih answer⟩

/-- A limited program has every outline that allows these operations. -/
theorem Only.outline {p : Program Op Ans ε α} (only : p.Only allowed)
    (sent : ∀ events op, allowed op → sends events op) (events : List (Event Op σ)) :
    p.Outline exec sends (fun _ _ => True) events := by
  induction p generalizing events with
  | done result => trivial
  | call op next ih => exact ⟨sent events op only.1, fun state => ih _ (only.2 _) _⟩

/-- The outline of a sequence whose first part is limited to operations that
keep a fact about the events so far: the fact holds where the second part
starts, and where the first part fails. -/
theorem Only.outline_bind (known : List (Event Op σ) → Prop) {p : Program Op Ans ε α}
    {f : α → Program Op Ans ε β} {ends : List (Event Op σ) → Except ε β → Prop}
    {events : List (Event Op σ)} (only : p.Only allowed)
    (sent : ∀ events op, known events → allowed op →
      sends events op ∧ ∀ state, known (⟨op, state⟩ :: events))
    (start : known events)
    (rest : ∀ events value, known events → (f value).Outline exec sends ends events)
    (fails : ∀ events exception, known events → ends events (.error exception)) :
    (p >>= f).Outline exec sends ends events := by
  induction p generalizing events with
  | done result =>
      cases result with
      | ok value => exact rest events value start
      | error exception => exact fails events exception start
  | call op next ih =>
      obtain ⟨allowedHere, keeps⟩ := sent events op start only.1
      exact ⟨allowedHere, fun state => ih _ (only.2 _) (keeps state)⟩

/-- What an outline says about a program executed alone: an invariant of the
events and the state that every allowed operation keeps holds at the end. -/
theorem Outline.run (invariant : List (Event Op σ) → σ → Prop)
    (step : ∀ events op state, invariant events state → sends events op →
      invariant (⟨op, state⟩ :: events) (exec op state).2)
    {p : Program Op Ans ε α} {events : List (Event Op σ)} {state : σ}
    (outline : p.Outline exec sends ends events) (start : invariant events state) :
    ∃ events', invariant events' (p.run exec state).2 ∧ ends events' (p.run exec state).1 := by
  induction p generalizing events state with
  | done result => exact ⟨events, start, outline⟩
  | call op next ih => exact ih _ (outline.2 state) (step events op state start outline.1)

end Outline

/-! ### Replacing operations -/

section Simulate

universe v

variable {Op' : Type v} {Ans' : Op' → Type} (f : (op : Op) → Program Op' Ans' ε (Ans op))

/-- Replace every operation by a program that finds its answer. -/
def simulate : Program Op Ans ε α → Program Op' Ans' ε α
  | .done result => .done result
  | .call op next => f op >>= fun answer => (next answer).simulate

theorem simulate_bind (p : Program Op Ans ε α) (g : α → Program Op Ans ε β) :
    (p >>= g).simulate f = p.simulate f >>= fun value => (g value).simulate f := by
  induction p with
  | done result => cases result <;> rfl
  | call op next ih =>
      rw [call_bind, simulate, simulate, bind_assoc]
      congr 1
      funext answer
      exact ih answer

variable {f} {allowed : Op → Prop} {allowed' : Op' → Prop}

/-- Replacing allowed operations by allowed ones. -/
theorem Only.simulate {p : Program Op Ans ε α} (only : p.Only allowed)
    (replaced : ∀ op, allowed op → (f op).Only allowed') : (p.simulate f).Only allowed' := by
  induction p with
  | done result => trivial
  | call op next ih => exact (replaced op only.1).bind fun answer => ih answer (only.2 answer)

end Simulate

end Program

end IssueFlow.Semantics
