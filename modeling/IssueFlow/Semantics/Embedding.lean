import IssueFlow.Semantics.Interleaving

/-!
# Programs behind a check

A program over some operations is also a program over more operations. A larger
program may first ask for something and then do what the small program does, or
be refused. As long as nothing that is asked changes the state, every
interleaving of the larger programs is one of the small programs: a turn that
asks is left out, and a refused program never starts.

## Main definitions

* `Embedding` — operations as some of a larger set, with the same effects
* `Program.embed` — a program over the larger set
* `Behind` — a program that does what a small one does, after a check
* `Config.Refines` — a configuration of larger programs and one of small programs

## Main results

* `Program.embed_bind` — a sequence is embedded part by part
* `Behind.of_outline` — a check with an outline, and then the program
* `Config.Refines.turn`, `Config.play_refines` — what one turn and what a schedule does
-/

namespace IssueFlow.Semantics

universe u v

variable {Op : Type u} {Op' : Type v} {Ans : Op → Type} {Ans' : Op' → Type}
  {ε ε' α β ρ ρ' σ ι ν : Type}

/-- Operations as some operations of a larger set. -/
structure Embedding (exec : (op : Op) → σ → Ans op × σ)
    (exec' : (op : Op') → σ → Ans' op × σ) where
  op : Op → Op'
  answer : (small : Op) → Ans' (op small) → Ans small
  exec_eq (small : Op) (state : σ) :
    exec small state = (answer small (exec' (op small) state).1, (exec' (op small) state).2)

variable {exec : (op : Op) → σ → Ans op × σ} {exec' : (op : Op') → σ → Ans' op × σ}

/-- An operation that leaves the state alone. -/
def Quiet (exec : (op : Op) → σ → Ans op × σ) (op : Op) : Prop :=
  ∀ state, (exec op state).2 = state

namespace Program

/-- Whatever the states its operations find, the program leaves them alone. -/
def IsQuiet (exec : (op : Op) → σ → Ans op × σ) (p : Program Op Ans ε α) : Prop :=
  ∃ events, p.Outline exec (fun _ op => Quiet exec op) (fun _ _ => True) events

/-- The program over the larger set; `f` translates how it ends. -/
def embed (embedding : Embedding exec exec') (f : Except ε α → Except ε' β) :
    Program Op Ans ε α → Program Op' Ans' ε' β
  | .done result => .done (f result)
  | .call op next =>
      .call (embedding.op op) fun answer =>
        (next (embedding.answer op answer)).embed embedding f

variable {embedding : Embedding exec exec'} {f : Except ε α → Except ε' β}

/-- A sequence is embedded part by part, if an exception is only wrapped. -/
theorem embed_bind {wrap : ε → ε'} {f : Except ε ρ → Except ε' β}
    (wrapped : ∀ exception, f (.error exception) = .error (wrap exception))
    (p : Program Op Ans ε α) (next : α → Program Op Ans ε ρ) :
    (p >>= next).embed embedding f =
      p.embed embedding (Except.mapError wrap) >>= fun value => (next value).embed embedding f := by
  induction p with
  | done result =>
      cases result with
      | ok value => rfl
      | error exception => exact congrArg Program.done (wrapped exception)
  | call op rest ih =>
      rw [call_bind, embed, embed, call_bind]
      congr 1
      funext answer
      exact ih (embedding.answer op answer)

/-- The value of an embedded program is mapped. -/
theorem map_embed {wrap : ε → ε'} (g : α → β) (p : Program Op Ans ε α) :
    g <$> p.embed embedding (Except.mapError wrap) =
      p.embed embedding fun result => (result.mapError wrap).map g := by
  induction p with
  | done result => cases result <;> rfl
  | call op next ih =>
      rw [map_eq_bind, embed, embed, call_bind]
      congr 1
      funext answer
      exact ih (embedding.answer op answer)

/-- The operations of an embedded program. -/
theorem Only.embed {allowed : Op → Prop} {allowed' : Op' → Prop} {p : Program Op Ans ε α}
    (only : p.Only allowed) (kept : ∀ op, allowed op → allowed' (embedding.op op)) :
    (p.embed embedding f).Only allowed' := by
  induction p with
  | done result => trivial
  | call op next ih => exact ⟨kept op only.1, fun answer => ih _ (only.2 _)⟩

/-- An embedded program that is at an operation. -/
theorem embed_eq_call {p : Program Op Ans ε α} {op' : Op'}
    {next' : Ans' op' → Program Op' Ans' ε' β} (running : p.embed embedding f = .call op' next') :
    ∃ op next, p = .call op next ∧
      (Program.call op' next' : Program Op' Ans' ε' β) = .call (embedding.op op) fun answer =>
        (next (embedding.answer op answer)).embed embedding f := by
  cases p with
  | done result => cases running
  | call op next => exact ⟨op, next, rfl, running.symm⟩

/-- An embedded program that has ended. -/
theorem embed_eq_done {p : Program Op Ans ε α} {result' : Except ε' β}
    (ended : p.embed embedding f = .done result') :
    ∃ result, p = .done result ∧ f result = result' := by
  cases p with
  | done result => exact ⟨result, rfl, Program.done.inj ended⟩
  | call op next => cases ended

end Program

section Behind

variable (embedding : Embedding exec exec') (f : Except ε α → Except ε' β)
  (refused : Except ε' β → Prop) (p : Program Op Ans ε α)

/-- The program asks without changing anything, and it is refused or does what
`p` does. -/
inductive Behind : Program Op' Ans' ε' β → Prop
  | entered : Behind (p.embed embedding f)
  | refused {result : Except ε' β} (isRefused : refused result) : Behind (.done result)
  | asked {op : Op'} {next : Ans' op → Program Op' Ans' ε' β} (quiet : Quiet exec' op)
      (rest : ∀ state, Behind (next (exec' op state).1)) : Behind (.call op next)

variable {embedding f refused p}

/-- **A check and what follows it**: the check asks without changing anything,
and where it ends the program is entered or refused. -/
theorem Behind.of_outline {check : Program Op' Ans' ε' ρ} {body : ρ → Program Op' Ans' ε' β}
    {events : List (Event Op' σ)}
    (outline : check.Outline exec' (fun _ op => Quiet exec' op) (fun _ result =>
      match result with
      | .ok value => Behind embedding f refused p (body value)
      | .error exception => refused (.error exception)) events) :
    Behind embedding f refused p (check >>= body) := by
  induction check generalizing events with
  | done result =>
      cases result with
      | ok value => exact outline
      | error exception => exact .refused outline
  | call op next ih => exact .asked outline.1 fun state => ih _ (outline.2 state)

end Behind

namespace Config

variable {P : ι → Prop}

section Refines

variable (embedding : Embedding exec exec') (f : Except ε ρ → Except ε' ρ')
  (refused : Except ε' ρ' → Prop) (programs : {thread // P thread} → Program Op Ans ε ρ)

/-- A larger program that stands for a small one: the small one has not started
yet, or both stand at the same place. -/
inductive Follows (initial : Program Op Ans ε ρ) :
    Program Op' Ans' ε' ρ' → Program Op Ans ε ρ → Prop
  | waiting {larger : Program Op' Ans' ε' ρ'}
      (behind : Behind embedding f refused initial larger) : Follows initial larger initial
  | inside (small : Program Op Ans ε ρ) : Follows initial (small.embed embedding f) small

/-- The states agree, every program of interest stands for its small program,
and the other programs change nothing. -/
structure Refines (larger : Config Op' Ans' ε' ρ' σ ι)
    (small : Config Op Ans ε ρ σ {thread // P thread}) : Prop where
  state : small.state = larger.state
  follows : ∀ thread, Follows embedding f refused (programs thread)
    (larger.programs thread) (small.programs thread)
  others : ∀ thread, ¬ P thread → (larger.programs thread).IsQuiet exec'

variable {embedding f refused programs} {larger : Config Op' Ans' ε' ρ' σ ι}
  {small : Config Op Ans ε ρ σ {thread // P thread}}

/-- What a program that has ended says about the small one: it has ended so too,
or it was never started. -/
theorem Refines.ended (refines : Refines embedding f refused programs larger small)
    {thread : {thread // P thread}} {result' : Except ε' ρ'}
    (ended : larger.programs thread = .done result') :
    (∃ result, small.programs thread = .done result ∧ f result = result') ∨
      refused result' ∧ small.programs thread = programs thread := by
  have follows := refines.follows thread
  generalize larger.programs thread = p at follows ended
  generalize at_ : small.programs thread = q at follows
  cases follows with
  | inside => exact .inl (Program.embed_eq_done ended)
  | waiting behind =>
      cases behind with
      | entered => exact .inl (Program.embed_eq_done ended)
      | refused isRefused =>
          obtain rfl := Program.done.inj ended
          exact .inr ⟨isRefused, rfl⟩
      | asked => cases ended

variable [DecidableEq ι]

/-- A program that has asked something, or one of the others, which changes
nothing. -/
theorem Refines.send_quiet (refines : Refines embedding f refused programs larger small)
    {thread : ι} {op : Op'} {next : Ans' op → Program Op' Ans' ε' ρ'} (quiet : Quiet exec' op)
    (follows : ∀ isOne : P thread, Follows embedding f refused (programs ⟨thread, isOne⟩)
      (next (exec' op larger.state).1) (small.programs ⟨thread, isOne⟩))
    (others : ¬ P thread → (next (exec' op larger.state).1).IsQuiet exec') :
    Refines embedding f refused programs (larger.send exec' thread op next) small where
  state := refines.state.trans (quiet larger.state).symm
  follows other := by
    by_cases same : other.1 = thread
    · subst same
      rw [send_programs_self]
      exact follows other.2
    · rw [send_programs_of_ne same]
      exact refines.follows other
  others other isOther := by
    by_cases same : other = thread
    · subst same
      rw [send_programs_self]
      exact others isOther
    · rw [send_programs_of_ne same]
      exact refines.others other isOther

/-- Both programs execute the operation they are at. -/
theorem Refines.send_both (refines : Refines embedding f refused programs larger small)
    (thread : {thread // P thread}) {op : Op} {next : Ans op → Program Op Ans ε ρ} :
    Refines embedding f refused programs
      (larger.send exec' thread (embedding.op op) fun answer =>
        (next (embedding.answer op answer)).embed embedding f)
      (small.send exec thread op next) where
  state := by rw [send_state, send_state, refines.state, embedding.exec_eq]
  follows other := by
    by_cases same : other = thread
    · subst same
      rw [send_programs_self, send_programs_self, refines.state, embedding.exec_eq]
      exact .inside _
    · have different : other.1 ≠ thread.1 := fun equal => same (Subtype.ext equal)
      rw [send_programs_of_ne same, send_programs_of_ne different]
      exact refines.follows other
  others other isOther := by
    have different : other ≠ thread.1 := fun equal => isOther (equal ▸ thread.2)
    rw [send_programs_of_ne different]
    exact refines.others other isOther

/-- **One turn** of the larger programs is at most one turn of the small ones. -/
theorem Refines.turn (refines : Refines embedding f refused programs larger small)
    (env : ν → σ → σ) (step : Turn ι ν) :
    ∃ turns : List (Turn {thread // P thread} ν),
      Refines embedding f refused programs (larger.turn exec' env step)
        (small.play exec env turns) := by
  obtain pass | ⟨thread, op, next, -, running, sent⟩ | ⟨change, -, changed⟩ :=
    turn_cases exec' env larger step
  · rw [pass]
    exact ⟨[], refines⟩
  · rw [sent]
    by_cases isOne : P thread
    · have follows := refines.follows ⟨thread, isOne⟩
      -- Either both execute the operation, or the larger program asks something.
      have both (embedded : (small.programs ⟨thread, isOne⟩).embed embedding f = .call op next) :
          ∃ turns : List (Turn {thread // P thread} ν),
            Refines embedding f refused programs (larger.send exec' thread op next)
              (small.play exec env turns) := by
        obtain ⟨op, next, atOp, same⟩ := Program.embed_eq_call embedded
        cases same
        refine ⟨[.call ⟨thread, isOne⟩], ?_⟩
        rw [play_cons, play_nil, Config.turn, atOp]
        exact refines.send_both ⟨thread, isOne⟩
      rw [running] at follows
      generalize atSmall : small.programs ⟨thread, isOne⟩ = q at follows both
      generalize atLarger : (Program.call op next : Program Op' Ans' ε' ρ') = p at follows both
      cases follows with
      | inside => exact both rfl
      | waiting behind =>
          cases behind with
          | entered => exact both rfl
          | refused => cases atLarger
          | asked quiet rest =>
              cases atLarger
              refine ⟨[], refines.send_quiet quiet (fun _ => ?_) (absurd isOne)⟩
              rw [atSmall]
              exact .waiting (rest _)
    · obtain ⟨events, quiet, rest⟩ := running ▸ refines.others thread isOne
      exact ⟨[], refines.send_quiet quiet (absurd · isOne) fun _ => ⟨_, rest _⟩⟩
  · rw [changed]
    refine ⟨[.environment change], ?_, refines.follows, refines.others⟩
    exact congrArg (env change) refines.state

end Refines

variable [DecidableEq ι] {env : ν → σ → σ} {embedding : Embedding exec exec'}
  {f : Except ε ρ → Except ε' ρ'} {refused : Except ε' ρ' → Prop}
  {programs : {thread // P thread} → Program Op Ans ε ρ}

/-- **Every schedule of the larger programs is a schedule of the small ones.** -/
theorem Refines.play {larger : Config Op' Ans' ε' ρ' σ ι}
    {small : Config Op Ans ε ρ σ {thread // P thread}}
    (refines : Refines embedding f refused programs larger small) (turns : List (Turn ι ν)) :
    ∃ turns' : List (Turn {thread // P thread} ν),
      Refines embedding f refused programs (larger.play exec' env turns)
        (small.play exec env turns') := by
  induction turns generalizing larger small with
  | nil => exact ⟨[], refines⟩
  | cons step turns ih =>
      obtain ⟨first, refines⟩ := refines.turn env step
      obtain ⟨rest, refines⟩ := ih refines
      exact ⟨first ++ rest, by rwa [play_append]⟩

omit [DecidableEq ι] in
/-- Programs that have not started yet. -/
theorem refines_start {state : σ} {larger : ι → Program Op' Ans' ε' ρ'}
    (behind : ∀ thread, Behind embedding f refused (programs thread) (larger thread))
    (others : ∀ thread, ¬ P thread → (larger thread).IsQuiet exec') :
    Refines embedding f refused programs (start state larger) (start state programs) where
  state := rfl
  follows thread := .waiting (behind thread)
  others := others

end Config

end IssueFlow.Semantics
