import IssueFlow.Semantics.Embedding

/-!
# Programs that proceed alike

Two programs on two machines, whose operations, answers and states may differ.
They proceed alike when they send corresponding operations, go on alike after
corresponding answers, and end with corresponding results. If corresponding
operations keep a relation between the states and are answered accordingly, two
such programs end accordingly, whether they are executed alone or interleaved
with others.

In an interleaving some programs need not correspond to anything: it is enough
that none of their operations disturbs the relation. Their results are not
compared.

## Main definitions

* `Outcomes` — both values, and related, or both the same exception
* `Program.Alike` — programs that proceed alike
* `Simulates` — corresponding operations keep the states related
* `Itself` — operations that correspond to themselves
* `Config.Alike` — configurations that proceed alike

## Main results

* `Program.Alike.bind`, `Program.Only.alike` — programs that proceed alike, part by part
* `Program.Alike.run` — executed alone
* `Config.Alike.play` — executed in any interleaving
-/

namespace IssueFlow.Semantics

universe u v

variable {Op : Type u} {Op' : Type v} {Ans : Op → Type} {Ans' : Op' → Type}
  {ε α α' β β' σ σ' : Type}

/-- Both results are values, and related, or both are the same exception. -/
inductive Outcomes (values : α → α' → Prop) : Except ε α → Except ε α' → Prop
  | ok {value : α} {value' : α'} (related : values value value') :
      Outcomes values (.ok value) (.ok value')
  | error (exception : ε) : Outcomes values (.error exception) (.error exception)

namespace Outcomes

variable {values : α → α' → Prop}

@[simp] theorem eq_iff {result result' : Except ε α} :
    Outcomes Eq result result' ↔ result = result' := by
  constructor
  · rintro (same | exception)
    · exact congrArg _ same
    · rfl
  · rintro rfl
    cases result with
    | ok value => exact .ok rfl
    | error exception => exact .error exception

theorem mono {values' : α → α' → Prop} (weaker : ∀ value value', values value value' →
    values' value value') {result : Except ε α} {result' : Except ε α'}
    (outcomes : Outcomes values result result') : Outcomes values' result result' := by
  cases outcomes with
  | ok related => exact .ok (weaker _ _ related)
  | error exception => exact .error exception

/-- Results that agree after a change of their values. -/
theorem of_map_eq {γ : Type} {f : α → γ} {f' : α' → γ} {result : Except ε α}
    {result' : Except ε α'} (same : result.map f = result'.map f') :
    Outcomes (fun value value' => f value = f' value') result result' := by
  cases result with
  | ok value =>
      cases result' with
      | ok value' => exact .ok (Except.ok.inj same)
      | error exception' => cases same
  | error exception =>
      cases result' with
      | ok value' => cases same
      | error exception' =>
          cases same
          exact .error exception

end Outcomes

/-- How operations of two machines correspond, and which of their answers do. -/
abbrev Pairing (Ans : Op → Type) (Ans' : Op' → Type) :=
  (op : Op) → (op' : Op') → (Ans op → Ans' op' → Prop) → Prop

/-- Corresponding operations, executed in related states, have corresponding
answers and lead to related states. -/
def Simulates (paired : Pairing Ans Ans') (exec : (op : Op) → σ → Ans op × σ)
    (exec' : (op : Op') → σ' → Ans' op × σ') (related : σ → σ' → Prop) : Prop :=
  ∀ op op' answers, paired op op' answers → ∀ state state', related state state' →
    answers (exec op state).1 (exec' op' state').1 ∧
      related (exec op state).2 (exec' op' state').2

/-- Operations of one machine that correspond to themselves, with equal answers. -/
inductive Itself (plain : Op → Prop) : Pairing Ans Ans
  | same (op : Op) (allowed : plain op) : Itself plain op op Eq

/-- One machine in two states. -/
theorem simulates_itself {plain : Op → Prop} {exec : (op : Op) → σ → Ans op × σ}
    {related : σ → σ → Prop}
    (unwinds : ∀ op, plain op → ∀ state state', related state state' →
      (exec op state).1 = (exec op state').1 ∧ related (exec op state).2 (exec op state').2) :
    Simulates (Itself plain) exec exec related := by
  intro op op' answers pair state state' start
  cases pair with
  | same op allowed => exact unwinds op allowed state state' start

namespace Program

/-- The programs send corresponding operations, whatever the answers, as long as
these correspond, and end with corresponding results. -/
inductive Alike (paired : Pairing Ans Ans') (values : α → α' → Prop) :
    Program Op Ans ε α → Program Op' Ans' ε α' → Prop
  | done {result : Except ε α} {result' : Except ε α'} (outcomes : Outcomes values result result') :
      Alike paired values (.done result) (.done result')
  | call {op : Op} {op' : Op'} {answers : Ans op → Ans' op' → Prop}
      {next : Ans op → Program Op Ans ε α} {next' : Ans' op' → Program Op' Ans' ε α'}
      (pair : paired op op' answers)
      (rest : ∀ answer answer', answers answer answer' →
        Alike paired values (next answer) (next' answer')) :
      Alike paired values (.call op next) (.call op' next')

variable {paired : Pairing Ans Ans'} {values : α → α' → Prop}
  {p : Program Op Ans ε α} {p' : Program Op' Ans' ε α'}

namespace Alike

theorem pure {value : α} {value' : α'} (related : values value value') :
    Alike paired values (.done (.ok value) : Program Op Ans ε α)
      (.done (.ok value') : Program Op' Ans' ε α') :=
  .done (.ok related)

theorem throw (exception : ε) :
    Alike paired values (.done (.error exception) : Program Op Ans ε α)
      (.done (.error exception) : Program Op' Ans' ε α') :=
  .done (.error exception)

theorem mono {values' : α → α' → Prop} (weaker : ∀ value value', values value value' →
    values' value value') (alike : p.Alike paired values p') : p.Alike paired values' p' := by
  induction alike with
  | done outcomes => exact .done (outcomes.mono weaker)
  | call pair _ ih => exact .call pair ih

/-- Sequences proceed alike if their parts do. -/
theorem bind {values' : β → β' → Prop} {f : α → Program Op Ans ε β}
    {f' : α' → Program Op' Ans' ε β'} (alike : p.Alike paired values p')
    (rest : ∀ value value', values value value' →
      (f value).Alike paired values' (f' value')) :
    (p >>= f).Alike paired values' (p' >>= f') := by
  induction alike with
  | done outcomes =>
      cases outcomes with
      | ok related => exact rest _ _ related
      | error exception => exact .throw exception
  | call pair _ ih => exact .call pair ih

theorem map {values' : β → β' → Prop} {f : α → β} {f' : α' → β'}
    (alike : p.Alike paired values p')
    (maps : ∀ value value', values value value' → values' (f value) (f' value')) :
    (f <$> p).Alike paired values' (f' <$> p') :=
  alike.bind fun value value' related => .pure (maps value value' related)

/-- Handlers that proceed alike after each exception. -/
theorem tryCatch {handler : ε → Program Op Ans ε α} {handler' : ε → Program Op' Ans' ε α'}
    (alike : p.Alike paired values p')
    (handles : ∀ exception, (handler exception).Alike paired values (handler' exception)) :
    (Program.tryCatch p handler).Alike paired values (Program.tryCatch p' handler') := by
  induction alike with
  | done outcomes =>
      cases outcomes with
      | ok related => exact .pure related
      | error exception => exact handles exception
  | call pair _ ih => exact .call pair ih

variable {exec : (op : Op) → σ → Ans op × σ} {exec' : (op : Op') → σ' → Ans' op × σ'}
  {related : σ → σ' → Prop} {state : σ} {state' : σ'}

/-- **Executed alone on related states**, programs that proceed alike have
corresponding results and leave related states. -/
theorem run (simulates : Simulates paired exec exec' related) (alike : p.Alike paired values p')
    (start : related state state') :
    Outcomes values (p.run exec state).1 (p'.run exec' state').1 ∧
      related (p.run exec state).2 (p'.run exec' state').2 := by
  induction alike generalizing state state' with
  | done outcomes => exact ⟨outcomes, start⟩
  | call pair _ ih =>
      obtain ⟨answers, after⟩ := simulates _ _ _ pair state state' start
      exact ih _ _ answers after

end Alike

/-- Embedded in the same way, programs that proceed alike do so still. -/
theorem Alike.embed {Large : Type v} {Ans'' : Large → Type} {ε' : Type} {values' : β → β' → Prop}
    {p : Program Op Ans ε α} {p' : Program Op Ans ε α'} {pairedLarge : Pairing Ans'' Ans''}
    {pairedSmall : Pairing Ans Ans} {exec : (op : Op) → σ → Ans op × σ}
    {exec' : (op : Large) → σ → Ans'' op × σ} {embedding : Embedding exec exec'}
    {f : Except ε α → Except ε' β} {f' : Except ε α' → Except ε' β'}
    (alike : p.Alike pairedSmall values p')
    (pairs : ∀ op op' answers, pairedSmall op op' answers →
      pairedLarge (embedding.op op) (embedding.op op') fun answer answer' =>
        answers (embedding.answer op answer) (embedding.answer op' answer'))
    (ends : ∀ result result', Outcomes values result result' →
      Outcomes values' (f result) (f' result')) :
    (p.embed embedding f).Alike pairedLarge values' (p'.embed embedding f') := by
  induction alike with
  | done outcomes => exact .done (ends _ _ outcomes)
  | call pair _ ih =>
      exact .call (pairs _ _ _ pair) fun answer answer' answered => ih _ _ answered

/-- A program limited to operations that correspond to themselves proceeds like
itself. -/
theorem Only.alike {plain : Op → Prop} {p : Program Op Ans ε α} (only : p.Only plain) :
    p.Alike (Itself plain) Eq p := by
  induction p with
  | done result => exact .done (Outcomes.eq_iff.mpr rfl)
  | call op next ih =>
      refine .call (.same op only.1) ?_
      rintro answer _ rfl
      exact ih answer (only.2 answer)

end Program

/-! ### Interleaved programs -/

namespace Config

variable {ρ ρ' ι ν : Type} [DecidableEq ι]
  {exec : (op : Op) → σ → Ans op × σ} {exec' : (op : Op') → σ' → Ans' op × σ'}
  {env : ν → σ → σ} {env' : ν → σ' → σ'} {related : σ → σ' → Prop}
  {paired : Pairing Ans Ans'} {values : ρ → ρ' → Prop}

/-- The states are related, the observed programs proceed alike, and the others
are limited to quiet operations. -/
structure Alike (paired : Pairing Ans Ans') (values : ρ → ρ' → Prop) (related : σ → σ' → Prop)
    (quiet : Op → Prop) (quiet' : Op' → Prop) (observed : ι → Prop)
    (c : Config Op Ans ε ρ σ ι) (c' : Config Op' Ans' ε ρ' σ' ι) : Prop where
  state : related c.state c'.state
  programs : ∀ thread, observed thread →
    (c.programs thread).Alike paired values (c'.programs thread)
  others : ∀ thread, ¬ observed thread →
    (c.programs thread).Only quiet ∧ (c'.programs thread).Only quiet'

variable (exec env) in
/-- What a turn of a program that is limited to quiet operations leaves. -/
private theorem turn_quiet {quiet : Op → Prop} {c : Config Op Ans ε ρ σ ι} {thread : ι}
    (only : (c.programs thread).Only quiet) (still : σ → Prop)
    (silent : ∀ op state, quiet op → still state → still (exec op state).2)
    (here : still c.state) :
    still (c.turn exec env (.call thread)).state ∧
      ((c.turn exec env (.call thread)).programs thread).Only quiet ∧
      ∀ other, other ≠ thread →
        (c.turn exec env (.call thread)).programs other = c.programs other := by
  cases running : c.programs thread with
  | done result =>
      rw [turn, running]
      exact ⟨here, only, fun _ _ => rfl⟩
  | call op next =>
      rw [turn, running]
      rw [running] at only
      refine ⟨silent op _ only.1 here, ?_, fun other different => ?_⟩
      · rw [send_programs_self]
        exact only.2 _
      · rw [send_programs_of_ne different]

variable {quiet : Op → Prop} {quiet' : Op' → Prop} {observed : ι → Prop}
  {c : Config Op Ans ε ρ σ ι} {c' : Config Op' Ans' ε ρ' σ' ι}

/-- A turn keeps configurations alike. -/
theorem Alike.turn (simulates : Simulates paired exec exec' related)
    (silent : ∀ op state state', quiet op → related state state' → related (exec op state).2 state')
    (silent' : ∀ op state state', quiet' op → related state state' →
      related state (exec' op state').2)
    (changed : ∀ change state state', related state state' →
      related (env change state) (env' change state'))
    (alike : c.Alike paired values related quiet quiet' observed c') (step : Turn ι ν) :
    (c.turn exec env step).Alike paired values related quiet quiet' observed
      (c'.turn exec' env' step) := by
  cases step with
  | environment change => exact ⟨changed change _ _ alike.state, alike.programs, alike.others⟩
  | call thread =>
      by_cases seen : observed thread
      · -- Both programs have ended, or both send an operation.
        have current := alike.programs thread seen
        cases running : c.programs thread with
        | done result =>
            cases running' : c'.programs thread with
            | done result' => simpa only [Config.turn, running, running'] using alike
            | call op' next' =>
                rw [running, running'] at current
                cases current
        | call op next =>
            cases running' : c'.programs thread with
            | done result' =>
                rw [running, running'] at current
                cases current
            | call op' next' =>
                rw [running, running'] at current
                cases current with
                | call pair rest =>
                    obtain ⟨answered, after⟩ := simulates _ _ _ pair _ _ alike.state
                    simp only [Config.turn, running, running']
                    refine ⟨after, fun other otherSeen => ?_, fun other unseen => ?_⟩
                    · by_cases same : other = thread
                      · subst same
                        rw [send_programs_self, send_programs_self]
                        exact rest _ _ answered
                      · rw [send_programs_of_ne same, send_programs_of_ne same]
                        exact alike.programs other otherSeen
                    · have different : other ≠ thread := by
                        rintro rfl
                        exact unseen seen
                      rw [send_programs_of_ne different, send_programs_of_ne different]
                      exact alike.others other unseen
      · -- The two sides need not be at the same point.
        obtain ⟨only, only'⟩ := alike.others thread seen
        obtain ⟨left, onlyLeft, restLeft⟩ := turn_quiet exec env only
          (fun state => related state c'.state) (fun op state => silent op state _) alike.state
        obtain ⟨right, onlyRight, restRight⟩ := turn_quiet exec' env' only'
          (related (c.turn exec env (.call thread)).state)
          (fun op state => silent' op _ state) left
        refine ⟨right, fun other otherSeen => ?_, fun other unseen => ?_⟩
        · have different : other ≠ thread := by
            rintro rfl
            exact seen otherSeen
          rw [restLeft other different, restRight other different]
          exact alike.programs other otherSeen
        · by_cases same : other = thread
          · subst same
            exact ⟨onlyLeft, onlyRight⟩
          · rw [restLeft other same, restRight other same]
            exact alike.others other unseen

/-- **Configurations stay alike over every schedule.** -/
theorem Alike.play (simulates : Simulates paired exec exec' related)
    (silent : ∀ op state state', quiet op → related state state' → related (exec op state).2 state')
    (silent' : ∀ op state state', quiet' op → related state state' →
      related state (exec' op state').2)
    (changed : ∀ change state state', related state state' →
      related (env change state) (env' change state'))
    (alike : c.Alike paired values related quiet quiet' observed c') (turns : List (Turn ι ν)) :
    (c.play exec env turns).Alike paired values related quiet quiet' observed
      (c'.play exec' env' turns) := by
  induction turns generalizing c c' with
  | nil => exact alike
  | cons step turns ih => exact ih (alike.turn simulates silent silent' changed step)

omit [DecidableEq ι] in
/-- An observed program ends on one side as it ends on the other. -/
theorem Alike.done_iff {values : ρ → ρ → Prop} {c : Config Op Ans ε ρ σ ι}
    {c' : Config Op' Ans' ε ρ σ' ι} (equal : ∀ value value', values value value' → value = value')
    (alike : c.Alike paired values related quiet quiet' observed c') {thread : ι}
    (seen : observed thread) (result : Except ε ρ) :
    c.programs thread = .done result ↔ c'.programs thread = .done result := by
  have current := alike.programs thread seen
  constructor
  · intro finished
    rw [finished] at current
    generalize c'.programs thread = p' at current
    cases current with
    | done outcomes => rw [Outcomes.eq_iff.mp (outcomes.mono equal)]
  · intro finished
    rw [finished] at current
    generalize c.programs thread = p at current
    cases current with
    | done outcomes => rw [Outcomes.eq_iff.mp (outcomes.mono equal)]

end Config

end IssueFlow.Semantics
