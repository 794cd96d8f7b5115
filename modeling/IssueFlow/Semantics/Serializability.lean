import IssueFlow.Semantics.Interleaving

/-!
# Serializability

Programs that each take effect in one of their operations. A run of them is
compared with the same programs executed one after the other, each at the moment
in which its effect took place in the run. The two lead to the same state, up to
what one chooses to ignore, and a program that took effect returns the same.

Whether an operation is the one that takes effect may depend on the state it is
executed in. The other operations of a program have to leave the state alone, as
far as one looks.

## Main definitions

* `Config.commitOrder` — the turns of a run in which something took effect
* `Config.Atomic` — in a run, every program takes effect at once

## Main results

* `Config.commitOrder_sublist`, `Config.commitOrder_split`, `Config.mem_commitOrder` — which turns
  these are
* `Config.commitOrder_once` — no program takes effect twice
* `Config.Atomic.serial_state`, `Config.Atomic.serial_result` — the programs one after the other
-/

namespace IssueFlow.Semantics.Config

universe u

open Program

variable {Op : Type u} {Ans : Op → Type} {ε ρ σ ι ν : Type}

/-- Does the turn have an effect? -/
def TakesEffect (commits : Event Op σ → Bool) (c : Config Op Ans ε ρ σ ι) : Turn ι ν → Bool
  | .call thread =>
      match c.programs thread with
      | .done _ => false
      | .call op _ => commits ⟨op, c.state⟩
  | .environment _ => true

section CommitOrder

variable [DecidableEq ι] (exec : (op : Op) → σ → Ans op × σ) (env : ν → σ → σ)
  (commits : Event Op σ → Bool)

/-- The turns in which a program takes effect, and those of the environment. -/
def commitOrder : List (Turn ι ν) → Config Op Ans ε ρ σ ι → List (Turn ι ν)
  | [], _ => []
  | step :: turns, c =>
      if c.TakesEffect commits step then step :: commitOrder turns (c.turn exec env step)
      else commitOrder turns (c.turn exec env step)

variable {exec env commits} {c : Config Op Ans ε ρ σ ι}

omit [DecidableEq ι] in
theorem takesEffect_call {thread : ι} {op : Op} {next : Ans op → Program Op Ans ε ρ}
    (running : c.programs thread = .call op next) :
    c.TakesEffect commits (.call thread : Turn ι ν) = commits ⟨op, c.state⟩ := by
  simp only [TakesEffect, running]

omit [DecidableEq ι] in
/-- A program that takes effect is at the operation that does. -/
theorem running_of_takesEffect {thread : ι}
    (takes : c.TakesEffect commits (.call thread : Turn ι ν) = true) :
    ∃ op next, c.programs thread = .call op next ∧ commits ⟨op, c.state⟩ = true := by
  cases running : c.programs thread with
  | done result => simp [TakesEffect, running] at takes
  | call op next => exact ⟨op, next, rfl, by rwa [takesEffect_call running] at takes⟩

/-- Effects take place in the order of the schedule. -/
theorem commitOrder_sublist (turns : List (Turn ι ν)) :
    (commitOrder exec env commits turns c).Sublist turns := by
  induction turns generalizing c with
  | nil => exact .slnil
  | cons step turns ih =>
      rw [commitOrder]
      split_ifs
      · exact ih.cons_cons step
      · exact ih.cons step

theorem commitOrder_append (first second : List (Turn ι ν)) :
    commitOrder exec env commits (first ++ second) c =
      commitOrder exec env commits first c ++
        commitOrder exec env commits second (c.play exec env first) := by
  induction first generalizing c with
  | nil => rfl
  | cons step first ih =>
      rw [List.cons_append, commitOrder, commitOrder, ih, play_cons]
      split_ifs <;> rfl

/-- Where an effect took place: after a prefix of the schedule, in which the
effects before it took place. -/
theorem commitOrder_split {turns before after : List (Turn ι ν)} {step : Turn ι ν}
    (split : commitOrder exec env commits turns c = before ++ step :: after) :
    ∃ first, first ++ [step] <+: turns ∧ before = commitOrder exec env commits first c ∧
      (c.play exec env first).TakesEffect commits step = true := by
  induction turns generalizing c before with
  | nil => simp [commitOrder] at split
  | cons turn turns ih =>
      have skipped {before : List (Turn ι ν)}
          (later : commitOrder exec env commits turns (c.turn exec env turn) =
            before ++ step :: after) :
          ∃ first, turn :: first ++ [step] <+: turn :: turns ∧
            before = commitOrder exec env commits first (c.turn exec env turn) ∧
              (c.play exec env (turn :: first)).TakesEffect commits step = true := by
        obtain ⟨first, isPrefix, same, takes⟩ := ih later
        exact ⟨first, List.cons_prefix_cons.mpr ⟨rfl, isPrefix⟩, same, takes⟩
      rw [commitOrder] at split
      split_ifs at split with takes
      · -- The effect is that of the first turn, or it comes later.
        rcases List.cons_eq_append_iff.mp split with ⟨rfl, last⟩ | ⟨others, rfl, later⟩
        · obtain ⟨rfl, -⟩ := List.cons.inj last
          exact ⟨[], List.cons_prefix_cons.mpr ⟨rfl, List.nil_prefix⟩, rfl, takes⟩
        · obtain ⟨first, isPrefix, rfl, effect⟩ := skipped later
          exact ⟨turn :: first, isPrefix, by rw [commitOrder, if_pos takes], effect⟩
      · obtain ⟨first, isPrefix, rfl, effect⟩ := skipped split
        exact ⟨turn :: first, isPrefix, by rw [commitOrder, if_neg takes], effect⟩

variable {state : σ} {programs : ι → Program Op Ans ε ρ}

/-- A program is among those that took effect if it has executed an operation
that does. -/
theorem mem_commitOrder (turns : List (Turn ι ν)) (thread : ι) :
    .call thread ∈ commitOrder exec env commits turns (start state programs) ↔
      ∃ event ∈ ((start state programs).play exec env turns).history thread,
        commits event = true := by
  induction turns using List.reverseRec with
  | nil => simp [commitOrder, history, start]
  | append_singleton turns step ih =>
      rw [commitOrder_append, List.mem_append, ih, play_append, play_cons, play_nil]
      generalize (start state programs).play exec env turns = c
      rw [commitOrder, commitOrder]
      obtain pass | ⟨sender, op, next, rfl, running, sent⟩ | ⟨change, rfl, changed⟩ :=
        turn_cases exec env c step
      · -- A turn that passes has no effect, or it is one of the environment.
        rw [pass]
        refine or_iff_left fun member => ?_
        split_ifs at member with takes
        · obtain rfl := List.mem_singleton.mp member
          obtain ⟨op, next, running, -⟩ := running_of_takesEffect takes
          have grown := congrArg (List.length ∘ Config.trace) pass
          simp [turn, running] at grown
        · cases member
      · rw [sent, takesEffect_call running]
        by_cases same : thread = sender
        · subst same
          rw [send_history_self]
          by_cases takes : commits ⟨op, c.state⟩ = true <;> simp [takes]
        · rw [send_history_of_ne same]
          refine or_iff_left fun member => ?_
          split_ifs at member
          · cases List.mem_singleton.mp member
            exact same rfl
          · cases member
      · rw [changed]
        refine or_iff_left fun member => ?_
        split_ifs at member <;> simp at member

/-- No program takes effect twice, if none has before it takes effect. -/
theorem commitOrder_once (turns : List (Turn ι ν))
    (fresh : ∀ thread newer event older,
      ((start state programs).play exec env turns).history thread = newer ++ event :: older →
      commits event = true → ∀ earlier ∈ older, commits earlier = false) :
    (commitOrder exec env commits turns (start state programs)).Pairwise
      fun turn later => ∀ thread, turn = .call thread → later ≠ .call thread := by
  induction turns using List.reverseRec with
  | nil => exact .nil
  | append_singleton turns step ih =>
      have earlier := ih fun thread newer event older split => by
        obtain ⟨recent, grown⟩ :=
          (trace_suffix exec env (start state programs) turns [step]).filterMap
            fun entry => if entry.1 = thread then some entry.2 else none
        refine fresh thread (recent ++ newer) event older ?_
        rw [List.append_assoc, ← split]
        exact grown.symm
      rw [commitOrder_append, commitOrder, commitOrder]
      refine List.pairwise_append.mpr ⟨earlier, by split_ifs <;> simp, ?_⟩
      rintro turn member later last thread rfl rfl
      split_ifs at last with takes
      · -- The program has taken effect before, and takes effect now.
        obtain rfl := List.mem_singleton.mp last
        obtain ⟨event, executed, effect⟩ := (mem_commitOrder turns thread).mp member
        obtain ⟨op, next, running, commits⟩ := running_of_takesEffect takes
        have silent := fresh thread [] _ _ (by
          rw [play_append, play_cons, play_nil]
          simp only [turn, running]
          exact send_history_self) commits event executed
        rw [effect] at silent
        cases silent
      · cases last

end CommitOrder

/-! ### One after the other -/

section Atomic

variable [DecidableEq ι] (exec : (op : Op) → σ → Ans op × σ) (env : ν → σ → σ)
  (commits : Event Op σ → Bool)

/-- In this run every program takes effect at once: the operation in which it
does leaves what the whole program would leave, were it executed in the same
state, and the others leave the state alone. States are compared up to `same`,
which programs cannot tell apart. -/
structure Atomic (same : σ → σ → Prop) (state : σ) (programs : ι → Program Op Ans ε ρ)
    (turns : List (Turn ι ν)) : Prop where
  equivalence : Equivalence same
  respects : ∀ thread first second, same first second →
    ((programs thread).run exec first).1 = ((programs thread).run exec second).1 ∧
      same ((programs thread).run exec first).2 ((programs thread).run exec second).2
  changed : ∀ change first second, same first second →
    same (env change first) (env change second)
  committed : ∀ first thread op next, first ++ [.call thread] <+: turns →
    let c := (start state programs).play exec env first
    c.programs thread = .call op next → commits ⟨op, c.state⟩ = true →
      same ((programs thread).run exec c.state).2 (exec op c.state).2
  silent : ∀ first thread op next, first ++ [.call thread] <+: turns →
    let c := (start state programs).play exec env first
    c.programs thread = .call op next → commits ⟨op, c.state⟩ = false →
      same c.state (exec op c.state).2

variable {exec env commits} {same : σ → σ → Prop} {state : σ}
  {programs : ι → Program Op Ans ε ρ} {turns : List (Turn ι ν)}

/-- What is atomic in a run is atomic in each part of it that starts where the
run does. -/
theorem Atomic.of_prefix (atomic : Atomic exec env commits same state programs turns)
    {first : List (Turn ι ν)} (isPrefix : first <+: turns) :
    Atomic exec env commits same state programs first where
  equivalence := atomic.equivalence
  respects := atomic.respects
  changed := atomic.changed
  committed earlier thread op next earlierPrefix :=
    atomic.committed earlier thread op next (earlierPrefix.trans isPrefix)
  silent earlier thread op next earlierPrefix :=
    atomic.silent earlier thread op next (earlierPrefix.trans isPrefix)

/-- **One after the other**, in the order in which they took effect, the programs
lead where the run has led. -/
theorem Atomic.serial_state (atomic : Atomic exec env commits same state programs turns) :
    same ((commitOrder exec env commits turns (start state programs)).foldl
        (serialTurn exec env programs) state)
      ((start state programs).play exec env turns).state := by
  induction turns using List.reverseRec with
  | nil => exact atomic.equivalence.refl state
  | append_singleton turns step ih =>
      have so_far := ih (atomic.of_prefix (List.prefix_append _ _))
      have committed := atomic.committed turns
      have silent := atomic.silent turns
      rw [commitOrder_append, List.foldl_append, play_append, play_cons, play_nil]
      generalize (commitOrder exec env commits turns (start state programs)).foldl
        (serialTurn exec env programs) state = serial at so_far ⊢
      generalize (start state programs).play exec env turns = c at so_far committed silent ⊢
      rw [commitOrder, commitOrder]
      cases step with
      | environment change => exact atomic.changed change _ _ so_far
      | call thread =>
          cases running : c.programs thread with
          | done result =>
              have passes : c.TakesEffect commits (.call thread : Turn ι ν) = false := by
                simp only [TakesEffect, running]
              rw [passes, if_neg Bool.false_ne_true]
              simpa only [turn, running, List.foldl_nil] using so_far
          | call op next =>
              have whole : turns ++ [.call thread] <+: turns ++ [.call thread] :=
                List.prefix_refl _
              simp only [turn, running, takesEffect_call running, send_state]
              split_ifs with takes
              · -- The program, executed now, leaves what its operation leaves.
                exact atomic.equivalence.trans (atomic.respects thread _ _ so_far).2
                  (committed thread op next whole running takes)
              · exact atomic.equivalence.trans so_far
                  (silent thread op next whole running (by simpa using takes))

/-- A program that took effect returns, one after the other, what it returns when
it is executed at the moment in which it took effect. -/
theorem Atomic.serial_result (atomic : Atomic exec env commits same state programs turns)
    {thread : ι} {before after : List (Turn ι ν)}
    (split : commitOrder exec env commits turns (start state programs) =
      before ++ .call thread :: after) :
    ∃ first op next, first ++ [.call thread] <+: turns ∧
      let c := (start state programs).play exec env first
      c.programs thread = .call op next ∧ commits ⟨op, c.state⟩ = true ∧
        ((programs thread).run exec (before.foldl (serialTurn exec env programs) state)).1 =
          ((programs thread).run exec c.state).1 := by
  obtain ⟨first, isPrefix, rfl, takes⟩ := commitOrder_split split
  obtain ⟨op, next, running, commits⟩ := running_of_takesEffect takes
  have earlier : first <+: turns := (List.prefix_append _ _).trans isPrefix
  exact ⟨first, op, next, isPrefix, running, commits,
    (atomic.respects thread _ _ (atomic.of_prefix earlier).serial_state).1⟩

end Atomic

end IssueFlow.Semantics.Config
