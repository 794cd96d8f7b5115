import IssueFlow.Semantics.Program
import Mathlib.Data.List.Induction

/-!
# Interleaved programs

Any number of programs share one state. A schedule says whose turn it is: the
chosen program executes its next operation atomically, or the environment
changes the state by itself. A finished program lets its turn pass, so every
list of turns is a schedule and every interleaving is one.

The configuration keeps a trace of the operations executed so far, each with
the program that sent it and the state it was executed in. Nothing reads the
trace while programs run; properties of runs are stated over it.

## Main definitions

* `Config`, `Config.turn`, `Config.play` — configurations and schedules
* `Config.history` — what one program has executed so far
* `Config.Meets` — every operation of a schedule meets a guard
* `Config.KeptSince` — what was executed since an operation of a program
* `Config.serialTurn` — a turn in which a program is executed to its end

## Main results

* `Config.play_invariant`, `Config.play_state_invariant` — invariants of runs
* `Config.Meets.sent` — where an entry of the trace was sent from
* `Config.Outlined.play` — outlines of single programs survive interleaving
* `Config.Meets.outlined_invariant` — invariants of runs of outlined programs
* `Config.Meets.countP_le` — operations that others have to earn
* `Config.trace_since`, `Config.trace_rel`, `Config.Meets.state_rel` — preorders along a run
* `Config.play_serial` — programs one after the other are one of the schedules
-/

namespace IssueFlow.Semantics

universe u

open Program

/-- A turn of a schedule. -/
inductive Turn (ι ν : Type)
  | call (thread : ι)
  | environment (change : ν)

/-- A shared state, what is left of each program, and the operations executed
so far with the most recent one first. -/
structure Config (Op : Type u) (Ans : Op → Type) (ε ρ σ ι : Type) where
  state : σ
  programs : ι → Program Op Ans ε ρ
  trace : List (ι × Event Op σ)

namespace Config

variable {Op : Type u} {Ans : Op → Type} {ε ρ σ ι ν : Type}

/-- Nothing has been executed yet. -/
def start (state : σ) (programs : ι → Program Op Ans ε ρ) : Config Op Ans ε ρ σ ι :=
  ⟨state, programs, []⟩

/-- A program that has finished with a value. -/
def Succeeded (c : Config Op Ans ε ρ σ ι) (thread : ι) : Prop :=
  ∃ value, c.programs thread = .done (.ok value)

/-- A program that has finished with an exception. -/
def Failed (c : Config Op Ans ε ρ σ ι) (thread : ι) : Prop :=
  ∃ exception, c.programs thread = .done (.error exception)

variable [DecidableEq ι]

/-- The operations one program has executed, the most recent one first. -/
def history (c : Config Op Ans ε ρ σ ι) (thread : ι) : List (Event Op σ) :=
  c.trace.filterMap fun entry => if entry.1 = thread then some entry.2 else none

variable (exec : (op : Op) → σ → Ans op × σ) (env : ν → σ → σ)

/-- The configuration after a program has executed the operation it was at. -/
def send (c : Config Op Ans ε ρ σ ι) (thread : ι) (op : Op)
    (next : Ans op → Program Op Ans ε ρ) : Config Op Ans ε ρ σ ι where
  state := (exec op c.state).2
  programs := Function.update c.programs thread (next (exec op c.state).1)
  trace := (thread, ⟨op, c.state⟩) :: c.trace

/-- One turn. -/
def turn (c : Config Op Ans ε ρ σ ι) : Turn ι ν → Config Op Ans ε ρ σ ι
  | .call thread =>
      match c.programs thread with
      | .done _ => c
      | .call op next => c.send exec thread op next
  | .environment change => { c with state := env change c.state }

/-- All turns of a schedule. -/
def play (turns : List (Turn ι ν)) (c : Config Op Ans ε ρ σ ι) : Config Op Ans ε ρ σ ι :=
  turns.foldl (turn exec env) c

/-- If the turn executes an operation, the operation meets the guard. -/
def Allows (guard : Config Op Ans ε ρ σ ι → ι → Op → Prop) (c : Config Op Ans ε ρ σ ι) :
    Turn ι ν → Prop
  | .call thread =>
      match c.programs thread with
      | .done _ => True
      | .call op _ => guard c thread op
  | .environment _ => True

/-- Every operation of a schedule meets the guard in the configuration it is
executed in. -/
def Meets (guard : Config Op Ans ε ρ σ ι → ι → Op → Prop) :
    List (Turn ι ν) → Config Op Ans ε ρ σ ι → Prop
  | [], _ => True
  | step :: turns, c => c.Allows guard step ∧ Meets guard turns (c.turn exec env step)

/-- Every operation executed after one of the program's marked operations is of
a certain kind. -/
def KeptSince (c : Config Op Ans ε ρ σ ι) (thread : ι) (mark : Op → Prop)
    (kept : Event Op σ → Prop) : Prop :=
  c.trace.Pairwise fun later earlier => earlier.1 = thread → mark earlier.2.op → kept later.2

instance (c : Config Op Ans ε ρ σ ι) (thread : ι) (mark : Op → Prop) (kept : Event Op σ → Prop)
    [DecidablePred mark] [DecidablePred kept] : Decidable (c.KeptSince thread mark kept) :=
  inferInstanceAs (Decidable (c.trace.Pairwise _))

section Decidable

variable {guard : Config Op Ans ε ρ σ ι → ι → Op → Prop}
  [∀ c thread op, Decidable (guard c thread op)]

omit [DecidableEq ι] in
instance (c : Config Op Ans ε ρ σ ι) (step : Turn ι ν) : Decidable (c.Allows guard step) :=
  match step with
  | .call thread =>
      match running : c.programs thread with
      | .done _ => .isTrue (by simp [Allows, running])
      | .call op _ => decidable_of_iff (guard c thread op) (by simp [Allows, running])
  | .environment _ => .isTrue trivial

instance decidableMeets : (turns : List (Turn ι ν)) → (c : Config Op Ans ε ρ σ ι) →
    Decidable (Meets exec env guard turns c)
  | [], _ => .isTrue trivial
  | step :: turns, c =>
      have := decidableMeets turns (c.turn exec env step)
      inferInstanceAs (Decidable (_ ∧ _))

end Decidable

section Send

variable {exec env} {c : Config Op Ans ε ρ σ ι} {thread other : ι} {op : Op}
  {next : Ans op → Program Op Ans ε ρ}

@[simp] theorem send_state : (c.send exec thread op next).state = (exec op c.state).2 := rfl

@[simp] theorem send_trace :
    (c.send exec thread op next).trace = (thread, ⟨op, c.state⟩) :: c.trace := rfl

@[simp] theorem send_programs_self :
    (c.send exec thread op next).programs thread = next (exec op c.state).1 := by
  simp [send]

@[simp] theorem send_programs_of_ne (different : other ≠ thread) :
    (c.send exec thread op next).programs other = c.programs other := by
  simp [send, different]

@[simp] theorem send_history_self :
    (c.send exec thread op next).history thread = ⟨op, c.state⟩ :: c.history thread := by
  simp [history]

theorem mem_history {event : Event Op σ} :
    event ∈ c.history thread ↔ (thread, event) ∈ c.trace := by
  simp only [history, List.mem_filterMap, Option.ite_none_right_eq_some, Option.some.injEq]
  constructor
  · rintro ⟨⟨sender, sent⟩, member, rfl, rfl⟩
    exact member
  · exact fun member => ⟨_, member, rfl, rfl⟩

/-- What a program has executed last, in the trace. -/
theorem history_eq_cons {event : Event Op σ} {events : List (Event Op σ)}
    (last : c.history thread = event :: events) :
    ∃ newer older, c.trace = newer ++ (thread, event) :: older ∧
      ∀ entry ∈ newer, entry.1 ≠ thread := by
  obtain ⟨newer, ⟨sender, sent⟩, older, split, others, own, -⟩ :=
    List.filterMap_eq_cons_iff.mp last
  simp only [Option.ite_none_right_eq_some, Option.some.injEq] at own
  obtain ⟨rfl, rfl⟩ := own
  refine ⟨newer, older, split, fun entry member same => ?_⟩
  simpa [same] using others entry member

@[simp] theorem send_history_of_ne (different : other ≠ thread) :
    (c.send exec thread op next).history other = c.history other := by
  simp [history, different.symm]

variable (exec env) in
/-- A turn is a pass, an operation or a change by the environment. -/
theorem turn_cases (c : Config Op Ans ε ρ σ ι) (step : Turn ι ν) :
    c.turn exec env step = c ∨
      (∃ thread op next, step = .call thread ∧ c.programs thread = .call op next ∧
        c.turn exec env step = c.send exec thread op next) ∨
      ∃ change, step = .environment change ∧
        c.turn exec env step = { c with state := env change c.state } := by
  cases step with
  | call thread =>
      cases running : c.programs thread with
      | done result => exact .inl (by simp only [turn, running])
      | call op next =>
          exact .inr (.inl ⟨thread, op, next, rfl, running, by simp only [turn, running]⟩)
  | environment change => exact .inr (.inr ⟨change, rfl, rfl⟩)

end Send

section Play

variable {exec env} {c : Config Op Ans ε ρ σ ι}

@[simp] theorem play_nil : c.play exec env ([] : List (Turn ι ν)) = c := rfl

@[simp] theorem play_cons (step : Turn ι ν) (turns : List (Turn ι ν)) :
    c.play exec env (step :: turns) = (c.turn exec env step).play exec env turns := rfl

theorem play_append (first second : List (Turn ι ν)) :
    c.play exec env (first ++ second) = (c.play exec env first).play exec env second :=
  List.foldl_append

/-- An invariant of every run. -/
theorem play_invariant (invariant : Config Op Ans ε ρ σ ι → Prop) (turns : List (Turn ι ν))
    (initial : invariant c)
    (step : ∀ c turn, invariant c → invariant (c.turn exec env turn)) :
    invariant (c.play exec env turns) := by
  induction turns generalizing c with
  | nil => exact initial
  | cons turn turns ih => exact ih (step c turn initial)

/-- An invariant of the state that operations and the environment keep. -/
theorem play_state_invariant (invariant : σ → Prop) (turns : List (Turn ι ν))
    (initial : invariant c.state)
    (step : ∀ op state, invariant state → invariant (exec op state).2)
    (change : ∀ e state, invariant state → invariant (env e state)) :
    invariant (c.play exec env turns).state := by
  refine play_invariant (fun c => invariant c.state) turns initial ?_
  intro c turn holds
  obtain pass | ⟨thread, op, next, -, -, sent⟩ | ⟨e, -, changed⟩ := turn_cases exec env c turn
  · rwa [pass]
  · rw [sent]
    exact step op c.state holds
  · rw [changed]
    exact change e c.state holds

variable (exec env c) in
/-- A longer run has a longer trace. -/
theorem trace_suffix (first second : List (Turn ι ν)) :
    (c.play exec env first).trace <:+ (c.play exec env (first ++ second)).trace := by
  rw [play_append]
  refine play_invariant (fun later => (c.play exec env first).trace <:+ later.trace) second
    (List.suffix_refl _) ?_
  intro later turn suffix
  obtain pass | ⟨thread, op, next, -, -, sent⟩ | ⟨change, -, changed⟩ :=
    turn_cases exec env later turn
  · rwa [pass]
  · rw [sent, send_trace]
    exact suffix.trans (List.suffix_cons _ _)
  · rwa [changed]

/-- What every operation of a schedule meets, the operations of a prefix meet. -/
theorem Meets.of_append {guard : Config Op Ans ε ρ σ ι → ι → Op → Prop}
    {first second : List (Turn ι ν)} (meets : c.Meets exec env guard (first ++ second)) :
    c.Meets exec env guard first ∧ (c.play exec env first).Meets exec env guard second := by
  induction first generalizing c with
  | nil => exact ⟨trivial, meets⟩
  | cons turn first ih => exact ⟨⟨meets.1, (ih meets.2).1⟩, (ih meets.2).2⟩

/-- A guard that asks for nothing is met. -/
theorem meets_true (turns : List (Turn ι ν)) : c.Meets exec env (fun _ _ _ => True) turns := by
  induction turns generalizing c with
  | nil => trivial
  | cons step turns ih =>
      refine ⟨?_, ih⟩
      cases step with
      | call thread =>
          simp only [Allows]
          split <;> trivial
      | environment change => trivial

theorem KeptSince.split {thread : ι} {mark : Op → Prop} {kept : Event Op σ → Prop}
    (since : c.KeptSince thread mark kept) {event : Event Op σ}
    (executed : event ∈ c.history thread) (marked : mark event.op) :
    ∃ newer older, c.trace = newer ++ (thread, event) :: older ∧ ∀ later ∈ newer, kept later.2 := by
  obtain ⟨newer, older, split⟩ := List.append_of_mem (mem_history.mp executed)
  refine ⟨newer, older, split, fun later member => ?_⟩
  rw [KeptSince, split, List.pairwise_append] at since
  exact since.2.2 later member _ List.mem_cons_self rfl marked

/-- **Where an entry of the trace was sent from**: a configuration that the run
went through, where the operation met its guard. -/
theorem Meets.sent {guard : Config Op Ans ε ρ σ ι → ι → Op → Prop} {state : σ}
    {programs : ι → Program Op Ans ε ρ} {turns : List (Turn ι ν)}
    (meets : (start state programs).Meets exec env guard turns) {thread : ι} {event : Event Op σ}
    (executed : (thread, event) ∈ ((start state programs).play exec env turns).trace) :
    ∃ (first : List (Turn ι ν)) (newer : List (ι × Event Op σ)) (next : _), first <+: turns ∧
      let c := (start state programs).play exec env first
      ((start state programs).play exec env turns).trace =
          newer ++ (thread, event) :: c.trace ∧
        c.state = event.state ∧ c.programs thread = .call event.op next ∧
        guard c thread event.op := by
  induction turns using List.reverseRec with
  | nil => simp [start] at executed
  | append_singleton turns step ih =>
      obtain ⟨earlier, last, -⟩ := meets.of_append
      have before := ih earlier
      rw [play_append, play_cons, play_nil] at executed ⊢
      generalize reached : (start state programs).play exec env turns = c at last before executed ⊢
      obtain pass | ⟨sender, op, next, rfl, running, sent⟩ | ⟨change, -, changed⟩ :=
        turn_cases exec env c step
      · rw [pass] at executed ⊢
        obtain ⟨first, newer, next, isPrefix, rest⟩ := before executed
        exact ⟨first, newer, next, isPrefix.trans (List.prefix_append _ _), rest⟩
      · rw [sent] at executed ⊢
        rcases List.mem_cons.mp executed with newest | older
        · -- The entry of the last turn was sent from where the others have led.
          obtain ⟨rfl, rfl⟩ := Prod.mk.inj newest
          have met : guard c thread op := by simpa [Allows, running] using last
          refine ⟨turns, [], next, List.prefix_append _ _, ?_⟩
          rw [reached]
          exact ⟨rfl, rfl, running, met⟩
        · obtain ⟨first, newer, next, isPrefix, split, rest⟩ := before older
          refine ⟨first, (sender, ⟨op, c.state⟩) :: newer, next,
            isPrefix.trans (List.prefix_append _ _), ?_, rest⟩
          rw [send_trace, split]
          rfl
      · rw [changed] at executed ⊢
        obtain ⟨first, newer, next, isPrefix, rest⟩ := before executed
        exact ⟨first, newer, next, isPrefix.trans (List.prefix_append _ _), rest⟩

/-! ### Outlines of interleaved programs -/

section Outlined

variable {sends : ι → List (Event Op σ) → Op → Prop}
  {ends : ι → List (Event Op σ) → Except ε ρ → Prop}

variable (exec sends ends) in
/-- What is left of each program has an outline from where it stands. -/
def Outlined (c : Config Op Ans ε ρ σ ι) : Prop :=
  ∀ thread, (c.programs thread).Outline exec (sends thread) (ends thread) (c.history thread)

theorem Outlined.turn (outlined : c.Outlined exec sends ends) (step : Turn ι ν) :
    (c.turn exec env step).Outlined exec sends ends := by
  obtain pass | ⟨sender, op, next, -, running, sent⟩ | ⟨change, -, changed⟩ :=
    turn_cases exec env c step
  · rwa [pass]
  · rw [sent]
    intro thread
    by_cases same : thread = sender
    · subst same
      have current := outlined thread
      rw [running, outline_call] at current
      simpa using current.2 c.state
    · simpa [same] using outlined thread
  · rwa [changed]

/-- **Outlines survive interleaving.** Whatever the other programs and the
environment do, each program sends and returns what its outline says. -/
theorem Outlined.play (outlined : c.Outlined exec sends ends) (turns : List (Turn ι ν)) :
    (c.play exec env turns).Outlined exec sends ends :=
  play_invariant (Outlined exec sends ends) turns outlined fun _ turn holds => holds.turn turn

/-- What a program is about to send. -/
theorem Outlined.of_running {thread : ι} {op : Op} {next : Ans op → Program Op Ans ε ρ}
    (outlined : c.Outlined exec sends ends) (running : c.programs thread = .call op next) :
    sends thread (c.history thread) op := by
  have current := outlined thread
  rw [running, outline_call] at current
  exact current.1

/-- What a program has returned. -/
theorem Outlined.of_done {thread : ι} {result : Except ε ρ} (outlined : c.Outlined exec sends ends)
    (finished : c.programs thread = .done result) : ends thread (c.history thread) result := by
  have current := outlined thread
  rwa [finished, outline_done] at current

/-- An invariant of a run of outlined programs whose operations meet a guard:
each operation is sent with its evidence. -/
theorem Meets.outlined_invariant {guard : Config Op Ans ε ρ σ ι → ι → Op → Prop}
    (invariant : Config Op Ans ε ρ σ ι → Prop) {turns : List (Turn ι ν)}
    (meets : c.Meets exec env guard turns) (outlined : c.Outlined exec sends ends)
    (initial : invariant c)
    (sent : ∀ c thread op next, invariant c → c.programs thread = .call op next →
      sends thread (c.history thread) op → guard c thread op →
      invariant (c.send exec thread op next))
    (changed : ∀ c change, invariant c → invariant { c with state := env change c.state }) :
    invariant (c.play exec env turns) := by
  induction turns generalizing c with
  | nil => exact initial
  | cons step turns ih =>
      refine ih meets.2 (outlined.turn step) ?_
      obtain pass | ⟨thread, op, next, rfl, running, result⟩ | ⟨change, -, result⟩ :=
        turn_cases exec env c step
      · rwa [pass]
      · have met : guard c thread op := by simpa [Allows, running] using meets.1
        rw [result]
        exact sent c thread op next initial running (outlined.of_running running) met
      · rw [result]
        exact changed c change initial

/-- An invariant of every run of outlined programs. -/
theorem Outlined.play_invariant (outlined : c.Outlined exec sends ends)
    (invariant : Config Op Ans ε ρ σ ι → Prop) (initial : invariant c)
    (sent : ∀ c thread op next, invariant c → c.programs thread = .call op next →
      sends thread (c.history thread) op → invariant (c.send exec thread op next))
    (changed : ∀ c change, invariant c → invariant { c with state := env change c.state })
    (turns : List (Turn ι ν)) : invariant (c.play exec env turns) := by
  apply (meets_true turns).outlined_invariant invariant outlined initial
  · intro c thread op next holds running sends _
    exact sent c thread op next holds running sends
  · exact changed

/-- What was known when a program sent an operation of its history. -/
theorem Meets.history_split {guard : Config Op Ans ε ρ σ ι → ι → Op → Prop}
    {turns : List (Turn ι ν)} (meets : c.Meets exec env guard turns)
    (outlined : c.Outlined exec sends ends) (nothing : c.trace = [])
    (met : List (Event Op σ) → Event Op σ → Prop)
    (guarded : ∀ c thread op, guard c thread op → met (c.history thread) ⟨op, c.state⟩) :
    ∀ thread newer event older,
      (c.play exec env turns).history thread = newer ++ event :: older →
      sends thread older event.op ∧ met older event := by
  apply meets.outlined_invariant (fun c => ∀ thread newer event older,
    c.history thread = newer ++ event :: older → sends thread older event.op ∧ met older event)
    outlined
  · intro thread newer event older split
    simp [history, nothing] at split
  · intro c sender op next holds running sent allowed thread newer event older split
    by_cases same : thread = sender
    · subst same
      rw [send_history_self] at split
      -- The event is the one just sent, or it was in the history before.
      rcases List.cons_eq_append_iff.mp split with ⟨rfl, last⟩ | ⟨newer, rfl, earlier⟩
      · obtain ⟨rfl, rfl⟩ := List.cons.inj last
        exact ⟨sent, guarded c thread op allowed⟩
      · exact holds thread newer event older earlier
    · rw [send_history_of_ne same] at split
      exact holds thread newer event older split
  · intro c change holds
    exact holds

/-- Who holds a credit: the programs whose last operation has earned one, and
perhaps others. -/
def Credited (earns : Event Op σ → Bool) (c : Config Op Ans ε ρ σ ι) (holders : List ι) : Prop :=
  ∀ thread event events, c.history thread = event :: events → earns event = true →
    thread ∈ holders

/-- An operation that earns a credit. -/
theorem Credited.earn {earns : Event Op σ → Bool} {holders : List ι}
    (credited : Credited earns c holders) (thread : ι) (op : Op)
    (next : Ans op → Program Op Ans ε ρ) :
    Credited earns (c.send exec thread op next) (thread :: holders) := by
  intro holder event events last earned
  by_cases same : holder = thread
  · exact same ▸ List.mem_cons_self
  · rw [send_history_of_ne same] at last
    exact List.mem_cons_of_mem _ (credited holder event events last earned)

/-- After any other operation its program needs no credit. -/
theorem Credited.spend {earns : Event Op σ → Bool} {holders : List ι}
    (credited : Credited earns c holders) {thread : ι} {op : Op}
    (silent : earns ⟨op, c.state⟩ = false) (next : Ans op → Program Op Ans ε ρ) :
    Credited earns (c.send exec thread op next) (holders.erase thread) := by
  intro holder event events last earned
  by_cases same : holder = thread
  · subst same
    obtain ⟨rfl, -⟩ := List.cons.inj (send_history_self.symm.trans last)
    rw [silent] at earned
    cases earned
  · rw [send_history_of_ne same] at last
    exact (List.mem_erase_of_ne same).mpr (credited holder event events last earned)

/-- **Operations that are paid for.** When a program sends an operation of some
kind only right after one of its own operations that earns it, there are no more
operations of that kind in a run than operations that earn one. -/
theorem Meets.countP_le {guard : Config Op Ans ε ρ σ ι → ι → Op → Prop} {turns : List (Turn ι ν)}
    (meets : c.Meets exec env guard turns) (outlined : c.Outlined exec sends ends)
    (nothing : c.trace = []) (met : Event Op σ → Prop) (earns spends : Event Op σ → Bool)
    (guarded : ∀ c thread op, guard c thread op → met ⟨op, c.state⟩)
    (other : ∀ event, spends event = true → earns event = false)
    (paid : ∀ thread events op state, sends thread events op → spends ⟨op, state⟩ = true →
      ∃ event earlier, events = event :: earlier ∧ (met event → earns event = true)) :
    (c.play exec env turns).trace.countP (fun entry => spends entry.2) ≤
      (c.play exec env turns).trace.countP fun entry => earns entry.2 := by
  suffices credit : ∃ holders : List ι, Credited earns (c.play exec env turns) holders ∧
      (c.play exec env turns).trace.countP (fun entry => spends entry.2) + holders.length ≤
        (c.play exec env turns).trace.countP (fun entry => earns entry.2) by
    obtain ⟨holders, -, bounded⟩ := credit
    omega
  refine (meets.outlined_invariant (fun c => (∀ entry ∈ c.trace, met entry.2) ∧
    ∃ holders : List ι, Credited earns c holders ∧
      c.trace.countP (fun entry => spends entry.2) + holders.length ≤
        c.trace.countP (fun entry => earns entry.2)) outlined ?_ ?_ ?_).2
  · refine ⟨by simp [nothing], [], ?_, by simp [nothing]⟩
    intro thread event events last
    simp [history, nothing] at last
  · intro c thread op next ⟨allMet, holders, credited, bounded⟩ running sent allowed
    refine ⟨List.forall_mem_cons.mpr ⟨guarded c thread op allowed, allMet⟩, ?_⟩
    simp only [send_trace, List.countP_cons]
    cases spent : spends ⟨op, c.state⟩ with
    | true =>
        -- The program has earned its credit with the operation before.
        obtain ⟨event, earlier, last, earned⟩ := paid thread _ op c.state sent spent
        have member : event ∈ c.history thread := last ▸ List.mem_cons_self
        have holds : thread ∈ holders :=
          credited thread event earlier last (earned (allMet _ (mem_history.mp member)))
        have shorter := List.length_erase_of_mem holds
        have some := List.length_pos_of_mem holds
        refine ⟨holders.erase thread, credited.spend (other _ spent) next, ?_⟩
        rw [other _ spent]
        simp only [if_true, Bool.false_eq_true, if_false]
        omega
    | false =>
        cases earned : earns ⟨op, c.state⟩ with
        | true =>
            refine ⟨thread :: holders, credited.earn thread op next, ?_⟩
            simp only [if_true, Bool.false_eq_true, if_false, List.length_cons]
            omega
        | false =>
            have shorter := List.length_erase_le (a := thread) (l := holders)
            refine ⟨holders.erase thread, credited.spend earned next, ?_⟩
            simp only [Bool.false_eq_true, if_false]
            omega
  · intro c change holds
    exact holds

end Outlined

/-! ### Preorders along a run -/

section Trace

variable {rel : σ → σ → Prop} {state : σ} {programs : ι → Program Op Ans ε ρ}

/-- A preorder that the environment and every operation since an entry of the
trace have moved along leads from the state after that entry to the current
one. -/
theorem trace_since (refl : ∀ state, rel state state)
    (trans : ∀ {a b c}, rel a b → rel b c → rel a c) (change : ∀ e state, rel state (env e state))
    (turns : List (Turn ι ν)) :
    let c := (start state programs).play exec env turns
    ∀ newer entry older, c.trace = newer ++ entry :: older →
      (∀ later ∈ newer, rel later.2.state (exec later.2.op later.2.state).2) →
      rel (exec entry.2.op entry.2.state).2 c.state := by
  refine play_invariant (fun c => ∀ newer entry older, c.trace = newer ++ entry :: older →
      (∀ later ∈ newer, rel later.2.state (exec later.2.op later.2.state).2) →
      rel (exec entry.2.op entry.2.state).2 c.state) turns ?_ ?_
  · intro newer entry older split
    simp [start] at split
  intro c turn holds
  obtain pass | ⟨thread, op, next, -, -, sent⟩ | ⟨e, -, changed⟩ :=
    turn_cases exec env c turn
  · rwa [pass]
  · rw [sent]
    intro newer entry older split moved
    rw [send_trace] at split
    -- The entry is the operation just sent, or the operation is newer.
    rcases List.cons_eq_append_iff.mp split with ⟨rfl, last⟩ | ⟨newer, rfl, earlier⟩
    · obtain ⟨rfl, -⟩ := List.cons.inj last
      exact refl _
    · have ⟨first, rest⟩ := List.forall_mem_cons.mp moved
      exact trans (holds newer entry older earlier rest) first
  · rw [changed]
    exact fun newer entry older split moved =>
      trans (holds newer entry older split moved) (change e _)

/-- A preorder that operations and the environment move along leads from the
state after every recorded operation to the current one. -/
theorem trace_rel (refl : ∀ state, rel state state)
    (trans : ∀ {a b c}, rel a b → rel b c → rel a c) (change : ∀ e state, rel state (env e state))
    (step : ∀ op state, rel state (exec op state).2) (turns : List (Turn ι ν)) :
    let c := (start state programs).play exec env turns
    ∀ entry ∈ c.trace, rel (exec entry.2.op entry.2.state).2 c.state := by
  intro c entry member
  obtain ⟨newer, older, split⟩ := List.append_of_mem member
  exact trace_since refl trans change turns newer entry older split fun _ _ => step _ _

/-- A preorder that the environment and every operation of a run move along, as
far as they meet their guard, leads from each state of the run to every later
one. -/
theorem Meets.state_rel {guard : Config Op Ans ε ρ σ ι → ι → Op → Prop}
    (refl : ∀ state, rel state state) (trans : ∀ {a b c}, rel a b → rel b c → rel a c)
    (change : ∀ e state, rel state (env e state))
    (step : ∀ (turns : List (Turn ι ν)) thread op next,
      let c := (start state programs).play exec env turns
      c.programs thread = .call op next → guard c thread op → rel c.state (exec op c.state).2)
    {first second : List (Turn ι ν)}
    (meets : (start state programs).Meets exec env guard (first ++ second)) :
    rel ((start state programs).play exec env first).state
      ((start state programs).play exec env (first ++ second)).state := by
  induction second using List.reverseRec with
  | nil =>
      rw [List.append_nil]
      exact refl _
  | append_singleton second last ih =>
      rw [← List.append_assoc] at meets ⊢
      obtain ⟨earlier, allowed, -⟩ := meets.of_append
      refine trans (ih earlier) ?_
      rw [play_append _ [last], play_cons, play_nil]
      -- The last turn passes, sends an operation, or is one of the environment.
      obtain pass | ⟨thread, op, next, rfl, running, sent⟩ | ⟨e, -, changed⟩ :=
        turn_cases exec env ((start state programs).play exec env (first ++ second)) last
      · rw [pass]
        exact refl _
      · rw [sent]
        refine step _ thread op next running ?_
        simpa [Allows, running] using allowed
      · rw [changed]
        exact change e _

end Trace

end Play

/-! ### Programs one after the other -/

section Serial

/-- What a turn does to the state when a program that gets its turn is executed
to its end. -/
def serialTurn (programs : ι → Program Op Ans ε ρ) (state : σ) : Turn ι ν → σ
  | .call thread => ((programs thread).run exec state).2
  | .environment change => env change state

/-- Enough turns in a row execute a program to its end, as if it were alone. -/
theorem play_to_end (c : Config Op Ans ε ρ σ ι) (thread : ι) :
    ∃ turns : List (Turn ι ν),
      (c.play exec env turns).state = ((c.programs thread).run exec c.state).2 ∧
      (c.play exec env turns).programs =
        Function.update c.programs thread (.done ((c.programs thread).run exec c.state).1) := by
  generalize running : c.programs thread = p
  induction p generalizing c with
  | done result =>
      refine ⟨[], rfl, ?_⟩
      rw [run_done, ← running, Function.update_eq_self]
      rfl
  | call op next ih =>
      have first : c.turn exec env (.call thread) = c.send exec thread op next := by
        simp only [turn, running]
      obtain ⟨turns, final, programs⟩ :=
        ih (exec op c.state).1 (c.send exec thread op next) send_programs_self
      refine ⟨.call thread :: turns, ?_, ?_⟩
      · rw [play_cons, first, final, run_call, send_state]
      · rw [play_cons, first, programs, run_call, send_state]
        exact Function.update_idem ..

variable {exec env}

/-- **Programs one after the other are a schedule**, if none gets its turn
twice. -/
theorem play_serial (c : Config Op Ans ε ρ σ ι) (order : List (Turn ι ν))
    (once : order.Pairwise fun turn later => ∀ thread, turn = .call thread → later ≠ .call thread) :
    ∃ turns : List (Turn ι ν),
      (c.play exec env turns).state = order.foldl (serialTurn exec env c.programs) c.state := by
  induction order generalizing c with
  | nil => exact ⟨[], rfl⟩
  | cons turn order ih =>
      obtain ⟨distinct, rest⟩ := List.pairwise_cons.mp once
      cases turn with
      | environment change =>
          obtain ⟨turns, final⟩ := ih (c.turn exec env (.environment change)) rest
          exact ⟨.environment change :: turns, final⟩
      | call thread =>
          obtain ⟨first, state, programs⟩ := play_to_end exec env c thread
          obtain ⟨turns, final⟩ := ih (c.play exec env first) rest
          refine ⟨first ++ turns, ?_⟩
          rw [play_append, final, state, programs, List.foldl_cons]
          -- The program that has ended gets no turn any more.
          apply List.foldl_ext
          intro state later member
          cases later with
          | environment change => rfl
          | call other =>
              have different : other ≠ thread := by
                rintro rfl
                exact distinct _ member other rfl rfl
              rw [serialTurn, serialTurn, Function.update_of_ne different]

end Serial

end Config

end IssueFlow.Semantics
