import IssueFlow.Semantics.Faults
import IssueFlow.Semantics.Session

/-!
# Clients of a pool

A service has no connection of its own. It takes a client from a pool, sends
its operations through it, and gives it back; giving it back changes nothing
on the server, so a transaction has to be over by then. The session of the
client is the one of `Semantics.Session`, with its plan of faults.

## Main definitions

* `inTransaction` — `BEGIN`, a body and `COMMIT`, with a `ROLLBACK` whose own failure is caught
* `PoolOp`, `Pooled` — what is sent to a pool, and programs over it
* `withClient` — a client is taken, used and given back
* `inSession` — statements sent one by one through a client

## Main results

* `Session.wp_inTransaction` — a transaction takes effect as a whole or not at all
* `Session.wp_inSession` — a body that sends nothing after a failure, inside a transaction
* `withClient_events` — a client that was taken is given back once, at the end
-/

namespace IssueFlow.Semantics

universe u

/-! ### Events -/

namespace Program

variable {Op : Type u} {Ans : Op → Type} {ε α β σ : Type} {exec : (op : Op) → σ → Ans op × σ}

/-- Operations a program is limited to are the ones it executes. -/
theorem Only.of_mem_events {allowed : Op → Prop} {p : Program Op Ans ε α} (only : p.Only allowed)
    {state : σ} {event : Event Op σ} (member : event ∈ p.events exec state) : allowed event.op := by
  induction p generalizing state with
  | done result => cases member
  | call op next ih =>
      rcases List.mem_cons.mp member with rfl | later
      · exact only.1
      · exact ih _ (only.2 _) later

/-- What follows without sending anything is not seen. -/
theorem events_bind_done (p : Program Op Ans ε α) (f : α → Except ε β) (state : σ) :
    (p >>= fun value => .done (f value)).events exec state = p.events exec state := by
  induction p generalizing state with
  | done result => cases result <;> rfl
  | call op next ih => exact congrArg (List.cons _) (ih _ _)

/-- The clean-up comes last, and whatever has happened before. -/
theorem events_ensure (p : Program Op Ans ε α) (cleanup : Program Op Ans ε Unit) (state : σ) :
    (p.ensure cleanup).events exec state =
      p.events exec state ++ cleanup.events exec (p.run exec state).2 := by
  induction p generalizing state with
  | done result =>
      cases result with
      | ok value => exact events_bind_done cleanup (fun _ => .ok value) state
      | error exception => exact events_bind_done cleanup (fun _ => .error exception) state
  | call op next ih => exact congrArg (List.cons _) (ih _ _)

end Program

variable {S : Type} {Rows : S → Type} {δ ε α β : Type}

/-! ### Transactions -/

/-- A body between `BEGIN` and `COMMIT`. Whatever throws, it is rolled back, and
a `ROLLBACK` that fails is ignored. -/
def inTransaction (body : Client S Rows ε α) : Client S Rows ε α :=
  tryCatch (do
    send .begin
    let result ← body
    send .commit
    return result) fun error => do
      tryCatch (send .rollback) fun _ => pure ()
      throw error

namespace Session

variable {engine : Engine S Rows δ ε} {plan : ℕ → Option (Fault ε)} {session : Session δ}

/-- A `ROLLBACK`, with its failure caught, changes no committed data. -/
theorem wp_rollback_caught {error : ε} {post : α → Session δ → Prop} {fails : ε → Session δ → Prop}
    (failed : ∀ after, after.committed = session.committed → fails error after) :
    (do
      tryCatch (send .rollback) fun _ => pure ()
      throw error : Client S Rows ε α).wp (exec engine plan) post fails session := by
  rw [Program.wp_bind]
  show (Program.tryCatch _ _).wp _ _ _ session
  rw [Program.wp_tryCatch]
  refine wp_rollback ?_ ?_
  · intro after same _
    exact failed after same
  · intro _ after same
    exact failed after same

/-- **A transaction takes effect as a whole or not at all.** It has committed
when it returns; when it throws, it is unknown whether a `COMMIT` was executed. -/
theorem wp_inTransaction (change : δ → α → δ → Prop) {body : Client S Rows ε α}
    (outside : session.block = .outside)
    (works : ∀ begun : Session δ, begun.committed = session.committed →
      begun.block = .inside session.committed →
      body.wp (exec engine plan)
        (fun value after => after.committed = session.committed ∧
          ∃ data, after.block = .inside data ∧ change session.committed value data)
        (fun _ after => after.committed = session.committed) begun) :
    (inTransaction body).wp (exec engine plan)
      (fun value after => after.block = .outside ∧ change session.committed value after.committed)
      (fun _ after => after.committed = session.committed ∨
        ∃ value, change session.committed value after.committed) session := by
  unfold inTransaction
  show (Program.tryCatch _ _).wp _ _ _ session
  rw [Program.wp_tryCatch, Program.wp_bind]
  -- Whatever has thrown, what is committed by then stays committed.
  have unchanged {error : ε} {failed : Session δ} (same : failed.committed = session.committed) :
      (do
        tryCatch (send .rollback) fun _ => pure ()
        throw error : Client S Rows ε α).wp (exec engine plan)
        (fun value after => after.block = .outside ∧
          change session.committed value after.committed)
        (fun _ after => after.committed = session.committed ∨
          ∃ value, change session.committed value after.committed) failed :=
    wp_rollback_caught fun after kept => .inl (kept.trans same)
  refine wp_begin outside ?_ fun _ _ same => unchanged same
  intro begun data block
  rw [Program.wp_bind]
  refine Program.wp_mono ?_ (fun _ _ same => unchanged same) (works begun data block)
  rintro value middle ⟨same, changed, inside, holds⟩
  rw [Program.wp_bind]
  refine wp_commit inside ?_ ?_
  · rintro after rfl block
    exact ⟨block, holds⟩
  · rintro error after (kept | rfl)
    · exact unchanged (kept.trans same)
    · refine wp_rollback_caught fun after kept => .inr ⟨value, ?_⟩
      rw [kept]
      exact holds

end Session

/-! ### Statements sent through a client -/

/-- Programs of statements whose errors are answers. -/
abbrev Statements (S : Type) (Rows : S → Type) (ε α : Type) : Type :=
  Program S (fun statement => Except ε (Rows statement)) ε α

/-- Send the statements of a program one by one. -/
def inSession (body : Statements S Rows ε α) : Client S Rows ε α :=
  body.simulate fun statement => .call (.statement statement) fun answer => .done (.ok answer)

/-- An answer that is an error. -/
def Refused (statement : S) (answer : Except ε (Rows statement)) : Prop :=
  ∃ error, answer = .error error

namespace Session

variable {engine : Engine S Rows δ ε} {plan : ℕ → Option (Fault ε)}

/-- Execute statements that are only sent to a server, with no session. -/
def alone (engine : Engine S Rows δ ε) (statement : S) (data : δ) :
    Except ε (Rows statement) × δ :=
  match engine.exec statement data with
  | .ok (rows, after) => (.ok rows, after)
  | .error error => (.error error, data)

/-- An operation whose error is an answer, by the rule of one whose error is
thrown. -/
theorem wp_call {op : SessionOp S} {next : op.Ans Rows ε → Client S Rows ε α}
    {post : α → Session δ → Prop} {fails : ε → Session δ → Prop} {session : Session δ}
    (sent : (send op : Client S Rows ε _).wp (exec engine plan)
      (fun rows after => (next (.ok rows)).wp (exec engine plan) post fails after)
      (fun error after => (next (.error error)).wp (exec engine plan) post fails after) session) :
    (Program.call op next).wp (exec engine plan) post fails session := by
  unfold Program.wp at sent ⊢
  unfold send at sent
  rw [Program.run_call, Program.run_done] at sent
  rw [Program.run_call]
  generalize exec engine plan op session = reached at sent ⊢
  obtain ⟨answer, after⟩ := reached
  cases answer <;> exact sent

/-- **A body inside a transaction**: when it returns, all of its statements were
executed on the data of the block, and nothing is committed yet in any case. -/
theorem wp_inSession {body : Statements S Rows ε α} (strict : body.Strict Refused)
    {session : Session δ} {data : δ} (inside : session.block = .inside data) :
    (inSession body).wp (exec engine plan)
      (fun value after => after.committed = session.committed ∧
        ∃ changed, after.block = .inside changed ∧ body.run (alone engine) data =
          (.ok value, changed))
      (fun _ after => after.committed = session.committed) session := by
  induction body generalizing session data with
  | done result =>
      cases result with
      | ok value => exact ⟨rfl, data, inside, rfl⟩
      | error error => exact rfl
  | call statement next ih =>
      refine wp_call (wp_statement_inside inside ?_ ?_)
      · intro rows changed middle executed same block
        refine Program.wp_mono ?_ ?_ (ih (.ok rows) (strict _).1 block)
        · rintro value after ⟨kept, final, ended, ran⟩
          refine ⟨kept.trans same, final, ended, ?_⟩
          rw [Program.run_call, alone, executed]
          exact ran
        · intro _ after kept
          exact kept.trans same
      · -- An answer that is an error ends the body, wherever it comes from.
        intro error after same
        obtain ⟨exception, ended⟩ := (strict (.error error)).2 ⟨error, rfl⟩
        show (inSession (next (.error error))).wp _ _ _ after
        rw [ended]
        exact same

/-- Without faults an operation is performed. -/
theorem exec_faultless (op : SessionOp S) {session : Session δ} (connected : session.connected) :
    exec engine (fun _ => none) op session =
      perform engine op { session with sent := session.sent + 1 } := by
  simp only [exec, connected, Bool.not_true, Bool.false_and, Bool.false_eq_true, if_false]

/-- Without faults a body inside a transaction ends as it does on the server. -/
theorem run_inSession_faultless {body : Statements S Rows ε α} (strict : body.Strict Refused)
    {session : Session δ} (connected : session.connected) {data : δ}
    (inside : session.block = .inside data) :
    ∃ after, (inSession body).run (exec engine fun _ => none) session =
        ((body.run (alone engine) data).1, after) ∧ after.connected ∧
      ((body.run (alone engine) data).1.isOk →
        after.block = .inside (body.run (alone engine) data).2) := by
  induction body generalizing session data with
  | done result => exact ⟨session, rfl, connected, fun _ => inside⟩
  | call statement next ih =>
      have sent : (inSession (Program.call statement next)).run (exec engine fun _ => none)
            session =
          (inSession (next (exec engine (fun _ => none) (.statement statement) session).1)).run
            (exec engine fun _ => none)
            (exec engine (fun _ => none) (.statement statement) session).2 := rfl
      rw [sent, exec_faultless _ connected, Program.run_call, alone]
      simp only [perform, inside]
      -- A statement that the server refuses makes a strict body throw at once.
      cases answer : engine.exec statement data with
      | ok result =>
          obtain ⟨rows, changed⟩ := result
          exact ih (.ok rows) (strict _).1
            (show (⟨session.committed, .inside changed, session.connected, session.sent + 1⟩ :
              Session δ).connected from connected) rfl
      | error error =>
          obtain ⟨exception, thrown⟩ := (strict (.error error)).2 ⟨error, rfl⟩
          simp only [thrown]
          exact ⟨_, rfl, connected, fun ok => by cases ok⟩

end Session

/-! ### Pools -/

/-- What is sent to a pool: operations of a session, and giving the client back. -/
inductive PoolOp (S : Type)
  | session (op : SessionOp S)
  | release

def PoolOp.isRelease : PoolOp S → Bool
  | .release => true
  | _ => false

abbrev PoolOp.Ans {S : Type} (Rows : S → Type) (ε : Type) : PoolOp S → Type
  | session op => op.Ans Rows ε
  | release => Unit

/-- Programs over a pool. -/
abbrev Pooled (S : Type) (Rows : S → Type) (ε α : Type) : Type :=
  Program (PoolOp S) (PoolOp.Ans Rows ε) ε α

/-- Send the operations of a client. -/
def viaClient (p : Client S Rows ε α) : Pooled S Rows ε α :=
  p.simulate fun op => .call (.session op) fun answer => .done (.ok answer)

/-- Take a client, use it, and give it back. -/
def withClient (p : Client S Rows ε α) : Pooled S Rows ε α := do
  viaClient (send .connect)
  (viaClient p).ensure (.call .release fun _ => pure ())

/-- Execute what is sent to a pool. A client that is given back keeps its session. -/
def Pool.exec (engine : Engine S Rows δ ε) (plan : ℕ → Option (Fault ε)) :
    (op : PoolOp S) → Session δ → op.Ans Rows ε × Session δ
  | .session op, session => Session.exec engine plan op session
  | .release, session => ((), session)

variable {engine : Engine S Rows δ ε} {plan : ℕ → Option (Fault ε)}

/-- What a client does is a run of its session. -/
theorem run_viaClient (p : Client S Rows ε α) (session : Session δ) :
    (viaClient p).run (Pool.exec engine plan) session =
      p.run (Session.exec engine plan) session := by
  induction p generalizing session with
  | done result => rfl
  | call op next ih => exact ih _ _

theorem wp_viaClient (p : Client S Rows ε α) {post : α → Session δ → Prop}
    {fails : ε → Session δ → Prop} {session : Session δ} :
    (viaClient p).wp (Pool.exec engine plan) post fails session ↔
      p.wp (Session.exec engine plan) post fails session := by
  unfold Program.wp
  rw [run_viaClient]

theorem viaClient_only (p : Client S Rows ε α) :
    (viaClient p).Only fun op => op.isRelease = false :=
  (Program.Only.all p).simulate fun _ _ => ⟨rfl, fun _ => trivial⟩

/-- Taking a client, using it and giving it back. -/
theorem wp_withClient {p : Client S Rows ε α} {post : α → Session δ → Prop}
    {fails : ε → Session δ → Prop} {session : Session δ}
    (connected : ∀ after : Session δ, after.committed = session.committed →
      after.block = session.block → p.wp (Session.exec engine plan) post fails after)
    (failed : ∀ error after, after.committed = session.committed → fails error after) :
    (withClient p).wp (Pool.exec engine plan) post fails session := by
  unfold withClient
  rw [Program.wp_bind, wp_viaClient]
  refine Session.wp_connect ?_ failed
  intro after same block
  rw [Program.wp_ensure, wp_viaClient]
  exact connected after same block

/-- What a pool is sent: a client is given back after everything else, if it was
taken at all. -/
theorem withClient_events (p : Client S Rows ε α) (session : Session δ) :
    (withClient p).events (Pool.exec engine plan) session =
      ⟨.session .connect, session⟩ ::
        match Session.exec engine plan .connect session with
        | (.ok _, taken) => (viaClient p).events (Pool.exec engine plan) taken ++
            [⟨.release, (p.run (Session.exec engine plan) taken).2⟩]
        | (.error _, _) => [] := by
  have connects : viaClient (send .connect : Client S Rows ε Unit) =
      .call (.session .connect) .done := rfl
  rw [withClient, connects, Program.call_bind, Program.events]
  congr 1
  simp only [Pool.exec]
  generalize Session.exec engine plan .connect session = reached
  obtain ⟨answer, taken⟩ := reached
  cases answer with
  | error error => rfl
  | ok answer =>
      rw [Program.done_ok_bind, Program.events_ensure, run_viaClient]
      rfl

/-- **A client that was taken is given back exactly once.** -/
theorem withClient_released (p : Client S Rows ε α) (session : Session δ) :
    ((withClient p).events (Pool.exec engine plan) session).countP (·.op.isRelease) =
      if (plan session.sent).isNone then 1 else 0 := by
  have used (taken : Session δ) :
      ((viaClient p).events (Pool.exec engine plan) taken).countP (·.op.isRelease) = 0 := by
    rw [List.countP_eq_zero]
    intro event member
    rw [(viaClient_only p).of_mem_events member]
    exact Bool.false_ne_true
  rw [withClient_events, List.countP_cons_of_neg Bool.false_ne_true, Session.exec]
  simp only [SessionOp.isConnect, Bool.not_true, Bool.and_false, Bool.false_eq_true, if_false]
  cases plan session.sent with
  | none =>
      simp only [Session.perform, List.countP_append, used]
      rfl
  | some fault => cases fault <;> rfl

/-- **Without faults** a transaction over the pool ends as its body does on the
server. -/
theorem run_withClient_faultless {body : Statements S Rows ε α} (strict : body.Strict Refused)
    (data : δ) :
    ((withClient (inTransaction (inSession body))).run (Pool.exec engine fun _ => none)
      (Session.fresh data)).1 = (body.run (Session.alone engine) data).1 := by
  have ends : (withClient (inTransaction (inSession body))).wp (Pool.exec engine fun _ => none)
      (fun value _ => (body.run (Session.alone engine) data).1 = .ok value)
      (fun error _ => (body.run (Session.alone engine) data).1 = .error error)
      (Session.fresh data) := by
    -- The session after CONNECT and BEGIN.
    let begun : Session δ := ⟨data, .inside data, true, 2⟩
    obtain ⟨after, ran, connected, inside⟩ : ∃ after,
        (inSession body).run (Session.exec engine fun _ => none) begun =
          ((body.run (Session.alone engine) data).1, after) ∧ _ :=
      Session.run_inSession_faultless strict rfl rfl
    unfold withClient
    rw [Program.wp_bind]
    show ((viaClient _).ensure _).wp _ _ _ (⟨data, .outside, true, 1⟩ : Session δ)
    rw [Program.wp_ensure, wp_viaClient]
    unfold inTransaction
    show (Program.tryCatch _ _).wp _ _ _ _
    rw [Program.wp_tryCatch, Program.wp_bind]
    show (inSession body >>= _).wp _ _ _ begun
    rw [Program.wp_bind, Program.wp, ran]
    generalize (body.run (Session.alone engine) data) = reached at inside ⊢
    obtain ⟨result, changed⟩ := reached
    cases result with
    | ok value =>
        -- The body has returned inside the block, so that COMMIT publishes what it did.
        have committed : Session.exec engine (fun _ => none) .commit after =
            (.ok (), { after with
              committed := changed
              block := .outside
              sent := after.sent + 1 }) := by
          rw [Session.exec_faultless _ connected, Session.perform]
          simp only [inside rfl]
        show (send .commit >>= fun _ => pure value : Client S Rows ε α).wp _ _ _ after
        unfold Program.wp send
        rw [Program.call_bind, Program.run_call, committed]
        rfl
    | error error => exact Session.wp_rollback_caught fun _ _ => rfl
  unfold Program.wp at ends
  generalize (withClient (inTransaction (inSession body))).run (Pool.exec engine fun _ => none)
    (Session.fresh data) = reached at ends ⊢
  obtain ⟨result, session⟩ := reached
  cases result <;> exact ends.symm

end IssueFlow.Semantics
