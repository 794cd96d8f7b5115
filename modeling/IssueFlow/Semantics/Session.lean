import IssueFlow.Semantics.Triple

/-!
# Sessions with transactions

A client sends statements to a database over one connection. Outside a
transaction block a statement takes effect at once; inside one it changes the
data of the block, which a `COMMIT` makes visible. A statement that is refused
aborts its block. A plan says which statements are refused and where the
connection breaks, before or after the statement was executed; a client that
dies is a connection that breaks. The server rolls an open block back when the
connection ends.

## Main definitions

* `Session`, `SessionOp` — a session and what is sent
* `Session.perform`, `Session.exec` — execution, and execution under a plan
* `transact` — `BEGIN`, a body, and `COMMIT` or `ROLLBACK`

## Main results

* `Session.wp_transact` — a transaction takes effect as a whole or not at all
-/

namespace IssueFlow.Semantics

/-- The transaction block of a session. -/
inductive Block (δ : Type)
  | outside
  | inside (data : δ)
  | aborted

/-- The block after a statement was refused. -/
def Block.abort {δ : Type} : Block δ → Block δ
  | .outside => .outside
  | .inside _ => .aborted
  | .aborted => .aborted

/-- What a client sends; `S` are the statements on the data. -/
inductive SessionOp (S : Type)
  | connect
  | begin
  | statement (statement : S)
  | commit
  | rollback
  | disconnect

def SessionOp.isConnect {S : Type} : SessionOp S → Bool
  | .connect => true
  | _ => false

/-- What is returned. -/
abbrev SessionOp.Rows {S : Type} (Rows : S → Type) : SessionOp S → Type
  | statement s => Rows s
  | _ => Unit

abbrev SessionOp.Ans {S : Type} (Rows : S → Type) (ε : Type) (op : SessionOp S) : Type :=
  Except ε (op.Rows Rows)

/-- How a database executes a single statement, and its own error messages. -/
structure Engine (S : Type) (Rows : S → Type) (δ ε : Type) where
  exec : (s : S) → δ → Except ε (Rows s × δ)
  blockAborted : ε
  notConnected : ε

/-- A session: the committed data, the open block, and the number of operations
that were sent. -/
structure Session (δ : Type) where
  committed : δ
  block : Block δ
  connected : Bool
  sent : ℕ

/-- A session before the client connects. -/
def Session.fresh {δ : Type} (data : δ) : Session δ := ⟨data, .outside, false, 0⟩

/-- How an operation fails: it is refused, or the connection breaks before or
after it was executed. -/
inductive Fault (ε : Type)
  | refused (error : ε)
  | lost (executed : Bool) (error : ε)

variable {S : Type} {Rows : S → Type} {δ ε : Type}

/-- Programs of a client. -/
abbrev Client (S : Type) (Rows : S → Type) (ε α : Type) : Type :=
  Program (SessionOp S) (SessionOp.Ans Rows ε) ε α

/-- Send an operation; its error is thrown. -/
def send (op : SessionOp S) : Client S Rows ε (op.Rows Rows) := .call op .done

/-- A body between `BEGIN` and `COMMIT`. When it throws, or the `COMMIT` does,
it is rolled back. -/
def transact (body : Client S Rows ε Unit) : Client S Rows ε Unit := do
  send .begin
  tryCatch (do
    body
    send .commit) fun error => do
      send .rollback
      throw error

namespace Session

/-! ### Execution -/

/-- The connection ends, and with it the block. -/
def drop (session : Session δ) : Session δ := { session with block := .outside, connected := false }

variable (engine : Engine S Rows δ ε)

/-- Execute an operation. -/
def perform : (op : SessionOp S) → Session δ → op.Ans Rows ε × Session δ
  | .connect, session => (.ok (), { session with connected := true })
  | .begin, session =>
      match session.block with
      | .outside => (.ok (), { session with block := .inside session.committed })
      | .inside _ => (.ok (), session)
      | .aborted => (.error engine.blockAborted, session)
  | .statement s, session =>
      match session.block with
      | .outside =>
          match engine.exec s session.committed with
          | .ok (rows, data) => (.ok rows, { session with committed := data })
          | .error error => (.error error, session)
      | .inside data =>
          match engine.exec s data with
          | .ok (rows, data) => (.ok rows, { session with block := .inside data })
          | .error error => (.error error, { session with block := .aborted })
      | .aborted => (.error engine.blockAborted, session)
  | .commit, session =>
      match session.block with
      | .inside data => (.ok (), { session with committed := data, block := .outside })
      | _ => (.ok (), { session with block := .outside })
  | .rollback, session => (.ok (), { session with block := .outside })
  | .disconnect, session => (.ok (), session.drop)

/-- The server refuses an operation. -/
def refuse : SessionOp S → Session δ → Session δ
  | .statement _, session => { session with block := session.block.abort }
  | .commit, session => { session with block := .outside }
  | _, session => session

/-- Execute an operation under a plan of faults. Without a connection only
connecting is of any use. -/
def exec (plan : ℕ → Option (Fault ε)) (op : SessionOp S) (session : Session δ) :
    op.Ans Rows ε × Session δ :=
  let counted := { session with sent := session.sent + 1 }
  if !session.connected && !op.isConnect then (.error engine.notConnected, counted)
  else
    match plan session.sent with
    | none => perform engine op counted
    | some (.refused error) => (.error error, refuse op counted)
    | some (.lost executed error) =>
        (.error error, drop (if executed then (perform engine op counted).2 else counted))

variable {engine} {plan : ℕ → Option (Fault ε)} {session : Session δ}

@[simp] theorem drop_committed (session : Session δ) : session.drop.committed = session.committed :=
  rfl

theorem refuse_committed (op : SessionOp S) (session : Session δ) :
    (refuse op session).committed = session.committed := by
  cases op <;> rfl

/-- An operation is performed, or it fails; then the data is as before, or as if
it had been performed. -/
theorem exec_cases (plan : ℕ → Option (Fault ε)) (op : SessionOp S) (session : Session δ) :
    let counted := { session with sent := session.sent + 1 }
    exec engine plan op session = perform engine op counted ∨
      ∃ error after, exec engine plan op session = (.error error, after) ∧
        (after.committed = session.committed ∨
          after.committed = (perform engine op counted).2.committed) := by
  intro counted
  unfold exec
  split_ifs with unreachable
  · exact .inr ⟨_, _, rfl, .inl rfl⟩
  · cases plan session.sent with
    | none => exact .inl rfl
    | some fault =>
        cases fault with
        | refused error => exact .inr ⟨_, _, rfl, .inl (refuse_committed op counted)⟩
        | lost executed error =>
            cases executed with
            | false => exact .inr ⟨_, _, rfl, .inl rfl⟩
            | true => exact .inr ⟨_, _, rfl, .inr rfl⟩

/-! ### The rules -/

section Rules

variable {fails : ε → Session δ → Prop}

/-- The rule of an operation: what it performs, and the data after a failure. -/
theorem wp_send {op : SessionOp S} {post : op.Rows Rows → Session δ → Prop}
    (performed : match perform engine op { session with sent := session.sent + 1 } with
      | (.ok rows, after) => post rows after
      | (.error error, after) => fails error after)
    (failed : ∀ error after, after.committed = session.committed ∨ after.committed =
        (perform engine op { session with sent := session.sent + 1 }).2.committed →
      fails error after) :
    (send op : Client S Rows ε _).wp (exec engine plan) post fails session := by
  unfold send Program.wp
  rw [Program.run_call, Program.run_done]
  obtain same | ⟨error, after, same, data⟩ : _ ∨ _ := exec_cases plan op session
  · rw [same]
    generalize perform engine op { session with sent := session.sent + 1 } = outcome at performed
    obtain ⟨result, after⟩ := outcome
    cases result <;> exact performed
  · rw [same]
    exact failed error after data

/-- Operations that leave the committed data alone. -/
theorem wp_send_quiet {op : SessionOp S} {post : op.Rows Rows → Session δ → Prop}
    (quiet : (perform engine op { session with sent := session.sent + 1 }).2.committed =
      session.committed)
    (performed : match perform engine op { session with sent := session.sent + 1 } with
      | (.ok rows, after) => post rows after
      | (.error error, after) => fails error after)
    (failed : ∀ error after, after.committed = session.committed → fails error after) :
    (send op : Client S Rows ε _).wp (exec engine plan) post fails session := by
  refine wp_send performed ?_
  intro error after data
  rw [quiet, or_self] at data
  exact failed error after data

theorem wp_connect {post : Unit → Session δ → Prop}
    (connected : ∀ after, after.committed = session.committed → after.block = session.block →
      post () after)
    (failed : ∀ error after, after.committed = session.committed → fails error after) :
    (send .connect : Client S Rows ε _).wp (exec engine plan) post fails session :=
  wp_send_quiet rfl (connected _ rfl rfl) failed

theorem wp_rollback {post : Unit → Session δ → Prop}
    (done : ∀ after, after.committed = session.committed → after.block = .outside → post () after)
    (failed : ∀ error after, after.committed = session.committed → fails error after) :
    (send .rollback : Client S Rows ε _).wp (exec engine plan) post fails session :=
  wp_send_quiet rfl (done _ rfl rfl) failed

theorem wp_disconnect {post : Unit → Session δ → Prop}
    (done : ∀ after, after.committed = session.committed → post () after)
    (failed : ∀ error after, after.committed = session.committed → fails error after) :
    (send .disconnect : Client S Rows ε _).wp (exec engine plan) post fails session :=
  wp_send_quiet rfl (done _ rfl) failed

theorem wp_begin {post : Unit → Session δ → Prop} (outside : session.block = .outside)
    (begun : ∀ after, after.committed = session.committed →
      after.block = .inside session.committed → post () after)
    (failed : ∀ error after, after.committed = session.committed → fails error after) :
    (send .begin : Client S Rows ε _).wp (exec engine plan) post fails session := by
  have performed : perform engine .begin { session with sent := session.sent + 1 } =
      (.ok (), { session with
        sent := session.sent + 1
        block := .inside session.committed }) := by
    simp only [perform, outside]
  refine wp_send_quiet ?_ ?_ failed
  · rw [performed]
  · rw [performed]
    exact begun _ rfl rfl

/-- A statement outside a block takes effect at once. -/
theorem wp_statement_outside {s : S} {post : Rows s → Session δ → Prop}
    (outside : session.block = .outside)
    (executed : ∀ rows after, engine.exec s session.committed = .ok (rows, after.committed) →
      after.block = .outside → post rows after)
    (failed : ∀ error after, (after.committed = session.committed ∨
      ∃ rows, engine.exec s session.committed = .ok (rows, after.committed)) →
        fails error after) :
    (send (.statement s) : Client S Rows ε _).wp (exec engine plan) post fails session := by
  cases answer : engine.exec s session.committed with
  | error error =>
      have performed : perform engine (.statement s) { session with sent := session.sent + 1 } =
          (.error error, { session with sent := session.sent + 1 }) := by
        simp only [perform, outside, answer]
      refine wp_send_quiet ?_ ?_ fun error after data => failed error after (.inl data)
      · rw [performed]
      · rw [performed]
        exact failed _ _ (.inl rfl)
  | ok result =>
      obtain ⟨rows, data⟩ := result
      have performed : perform engine (.statement s) { session with sent := session.sent + 1 } =
          (.ok rows, { session with sent := session.sent + 1, committed := data }) := by
        simp only [perform, outside, answer]
      -- A fault may strike before or after the statement was executed.
      refine wp_send ?_ ?_
      · rw [performed]
        exact executed _ _ answer outside
      · rw [performed]
        intro error after found
        refine failed error after (found.imp_right fun same => ⟨rows, ?_⟩)
        rw [answer, same]

/-- A statement inside a block changes the data of the block. -/
theorem wp_statement_inside {s : S} {data : δ} {post : Rows s → Session δ → Prop}
    (inside : session.block = .inside data)
    (executed : ∀ rows data' after, engine.exec s data = .ok (rows, data') →
      after.committed = session.committed → after.block = .inside data' → post rows after)
    (failed : ∀ error after, after.committed = session.committed → fails error after) :
    (send (.statement s) : Client S Rows ε _).wp (exec engine plan) post fails session := by
  cases answer : engine.exec s data with
  | error error =>
      have performed : perform engine (.statement s) { session with sent := session.sent + 1 } =
          (.error error, { session with sent := session.sent + 1, block := .aborted }) := by
        simp only [perform, inside, answer]
      refine wp_send_quiet ?_ ?_ failed
      · rw [performed]
      · rw [performed]
        exact failed _ _ rfl
  | ok result =>
      obtain ⟨rows, data'⟩ := result
      have performed : perform engine (.statement s) { session with sent := session.sent + 1 } =
          (.ok rows, { session with sent := session.sent + 1, block := .inside data' }) := by
        simp only [perform, inside, answer]
      refine wp_send_quiet ?_ ?_ failed
      · rw [performed]
      · rw [performed]
        exact executed _ _ _ answer rfl rfl

/-- A `COMMIT` makes the data of the block visible; when it fails, nobody knows. -/
theorem wp_commit {data : δ} {post : Unit → Session δ → Prop}
    (inside : session.block = .inside data)
    (done : ∀ after, after.committed = data → after.block = .outside → post () after)
    (failed : ∀ error after, after.committed = session.committed ∨ after.committed = data →
      fails error after) :
    (send .commit : Client S Rows ε _).wp (exec engine plan) post fails session := by
  have performed : perform engine .commit { session with sent := session.sent + 1 } =
      (.ok (), { session with
        sent := session.sent + 1
        committed := data
        block := .outside }) := by
    simp only [perform, inside]
  refine wp_send ?_ ?_
  · rw [performed]
    exact done _ rfl rfl
  · rw [performed]
    exact failed

/-- **A transaction takes effect as a whole or not at all.** When it throws, the
data is as before or as after the whole body; it has committed when it returns. -/
theorem wp_transact (change : δ → δ → Prop) {body : Client S Rows ε Unit}
    (outside : session.block = .outside)
    (works : ∀ begun : Session δ, begun.committed = session.committed →
      begun.block = .inside session.committed →
      body.wp (exec engine plan)
        (fun _ after => after.committed = session.committed ∧
          ∃ data, after.block = .inside data ∧ change session.committed data)
        (fun _ after => after.committed = session.committed) begun) :
    (transact body).wp (exec engine plan)
      (fun _ after => after.block = .outside ∧ change session.committed after.committed)
      (fun _ after => after.committed = session.committed ∨
        change session.committed after.committed) session := by
  unfold transact
  rw [Program.wp_bind]
  refine wp_begin outside ?_ fun _ _ data => .inl data
  intro begun data block
  show (Program.tryCatch _ _).wp _ _ _ begun
  rw [Program.wp_tryCatch, Program.wp_bind]
  -- After a failure the block is rolled back, which changes no committed data.
  have rolled {error : ε} {failed : Session δ}
      (either : failed.committed = session.committed ∨ change session.committed failed.committed) :
      (do
        let _ ← send .rollback
        throw error : Client S Rows ε Unit).wp (exec engine plan)
        (fun _ after => after.block = .outside ∧ change session.committed after.committed)
        (fun _ after => after.committed = session.committed ∨
          change session.committed after.committed) failed := by
    rw [Program.wp_bind]
    refine wp_rollback ?_ ?_
    · intro after same _
      rw [Program.wp_throw, same]
      exact either
    · intro _ after same
      rw [same]
      exact either
  refine Program.wp_mono ?_ (fun _ _ same => rolled (.inl same)) (works begun data block)
  rintro _ middle ⟨same, changed, inside, holds⟩
  refine wp_commit inside ?_ ?_
  · rintro after rfl block
    exact ⟨block, holds⟩
  · intro error after either
    refine rolled (either.imp ?_ ?_)
    · intro unchanged
      rw [unchanged, same]
    · rintro rfl
      exact holds

end Rules

end Session

end IssueFlow.Semantics
