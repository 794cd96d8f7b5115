import IssueFlow.Database.Effects
import IssueFlow.Semantics.Faults

/-!
# Statements that fail

A plan lets any of the statements fail that reach the server: a statement of
the pool, or one of the statements of a transaction, `BEGIN` and `COMMIT`
included. A statement that fails has no effect, and a `COMMIT` that fails does
not commit. `ROLLBACK` is counted too, but its failure is caught.

## Main definitions

* `Sent`, `Plan` — the statements the server gets, and those that fail
* `transactionUnder`, `execUnder` — `DatabaseService` under a plan
* `Plan.single` — exactly one statement fails

## Main results

* `execUnder_sameRows` — a write that fails or misses has changed no row
* `oneFault` — a single fault makes the statement that covers it fail
-/

namespace IssueFlow

open Store Semantics

/-- What is sent to the server. -/
inductive Sent
  | statement (statement : Statement)
  | opening
  | client (statement : ClientStatement)
  | commit

/-- The errors of the statements that fail, by their number. -/
abbrev Plan := ℕ → Sent → Option PgError

namespace Plan

/-- Nothing fails. -/
def none : Plan := fun _ _ => Option.none

/-- Only the statement with this number fails. -/
def single (position : ℕ) (error : PgError) : Plan :=
  fun number _ => if number = position then some error else Option.none

/-- The plan for statements outside transactions. -/
def statements (plan : Plan) : Faults Statement Statement.Ans :=
  fun number statement => (plan number (.statement statement)).map .error

/-- The plan for statements inside transactions. -/
def clients (plan : Plan) : Faults ClientStatement ClientStatement.Ans :=
  fun number statement => (plan number (.client statement)).map .error

end Plan

/-- `DatabaseService.transaction` under a plan. -/
def transactionUnder {α : Type} (plan : Plan) (body : Transaction α) (state : Db × ℕ) :
    Except PgError α × Db × ℕ :=
  match plan state.2 .opening with
  | some error => (.error error, state.1, state.2 + 2)
  | none =>
      match body.run (faulty ClientStatement.exec plan.clients) (state.1, state.2 + 1) with
      | (.error error, after, number) => (.error error, rollback state.1 after, number + 1)
      | (.ok value, after, number) =>
          match plan number .commit with
          | some error => (.error error, rollback state.1 after, number + 2)
          | none => (.ok value, after, number + 1)

section Exec

variable [Postgres]

/-- Execute a statement under a plan. -/
def execUnder (plan : Plan) : (statement : Statement) → Db × ℕ → statement.Ans × Db × ℕ
  | .command (.createWithMentions input onCommitting) =>
      transactionUnder plan (CommentsRepository.createWithMentions input onCommitting)
  | .command (.updateContentAndMentions id expectedVersion content mentionedUserIds
      onCommitting) =>
      transactionUnder plan (CommentsRepository.updateContentAndMentions id expectedVersion content
        mentionedUserIds onCommitting)
  | statement => faulty exec plan.statements statement

end Exec

/-! ### Transactions -/

/-- A statement that has failed. -/
def ClientFails (statement : ClientStatement) (answer : statement.Ans) : Prop :=
  ∃ error, answer = .error error

theorem ClientStatement.query_strict (statement : ClientStatement) :
    statement.query.Strict ClientFails := by
  intro answer
  refine ⟨trivial, ?_⟩
  rintro ⟨error, rfl⟩
  exact ⟨error, rfl⟩

namespace CommentsRepository

theorem writeMentions_strict (commentId : ℕ) (mentionedUserIds : List ℕ) :
    (writeMentions commentId mentionedUserIds).Strict ClientFails := by
  unfold writeMentions
  split_ifs
  · exact ClientStatement.query_strict _
  · trivial

theorem createWithMentions_strict (input : CommentInput) (onCommitting : CommentRow → AuditInsert) :
    (createWithMentions input onCommitting).Strict ClientFails := by
  apply (ClientStatement.query_strict _).bind
  intro comment
  apply (writeMentions_strict _ _).bind
  intro _
  apply (ClientStatement.query_strict _).bind
  intro _
  trivial

theorem updateContentAndMentions_strict (id : ℕ) (expectedVersion : Option ℕ) (content : String)
    (mentionedUserIds : List ℕ) (onCommitting : CommentRow → AuditInsert) :
    (updateContentAndMentions id expectedVersion content mentionedUserIds onCommitting).Strict
      ClientFails := by
  apply (ClientStatement.query_strict _).bind
  intro found
  cases found with
  | none => trivial
  | some updated =>
      apply (ClientStatement.query_strict _).bind
      intro _
      apply (writeMentions_strict _ _).bind
      intro _
      apply (ClientStatement.query_strict _).bind
      intro _
      trivial

end CommentsRepository

section Transactions

variable {α : Type} {plan : Plan} {body : Transaction α} {state after : Db × ℕ}

theorem rollback_sameRows (before after : Db) : SameRows before (rollback before after) := by
  constructor <;> rfl

/-- **How a transaction ends**: it fails and is rolled back, or its body has
returned and is committed. -/
theorem transactionUnder_cases (plan : Plan) (body : Transaction α) (state : Db × ℕ) :
    (∃ error stored number, transactionUnder plan body state = (.error error, stored, number) ∧
      SameRows state.1 stored) ∨
    ∃ value stored number, body.run (faulty ClientStatement.exec plan.clients)
        (state.1, state.2 + 1) = (.ok value, stored, number) ∧
      transactionUnder plan body state = (.ok value, stored, number + 1) := by
  unfold transactionUnder
  cases plan state.2 .opening with
  | some refused => exact .inl ⟨refused, _, _, rfl, .refl _⟩
  | none =>
      simp only
      generalize body.run (faulty ClientStatement.exec plan.clients) (state.1, state.2 + 1) = ran
      obtain ⟨result, stored, number⟩ := ran
      cases result with
      | error thrown => exact .inl ⟨thrown, _, _, rfl, rollback_sameRows _ _⟩
      | ok value =>
          simp only
          cases plan number .commit with
          | some refused => exact .inl ⟨refused, _, _, rfl, rollback_sameRows _ _⟩
          | none => exact .inr ⟨value, stored, number, rfl, rfl⟩

/-- A transaction that fails has changed no row. -/
theorem transactionUnder_sameRows (plan : Plan) (body : Transaction α) (state : Db × ℕ)
    {error : PgError} (failed : (transactionUnder plan body state).1 = .error error) :
    SameRows state.1 (transactionUnder plan body state).2.1 := by
  rcases transactionUnder_cases plan body state with
    ⟨thrown, stored, number, ended, same⟩ | ⟨value, stored, number, -, ended⟩
  · rw [ended]
    exact same
  · rw [ended] at failed
    cases failed

/-- A transaction that commits has run its body to the end. -/
theorem transactionUnder_committed {value : α}
    (committed : (transactionUnder plan body state).1 = .ok value) :
    ∃ number, body.run (faulty ClientStatement.exec plan.clients) (state.1, state.2 + 1) =
      (.ok value, (transactionUnder plan body state).2.1, number) := by
  rcases transactionUnder_cases plan body state with
    ⟨thrown, stored, number, ended, -⟩ | ⟨returned, stored, number, ran, ended⟩
  · rw [ended] at committed
    cases committed
  · rw [ended] at committed ⊢
    obtain rfl := Except.ok.inj committed
    exact ⟨number, ran⟩

/-- A transaction that commits has met no failure. -/
theorem transactionUnder_ok (plan : Plan) (strict : body.Strict ClientFails) (state : Db × ℕ)
    {value : α} (committed : (transactionUnder plan body state).1 = .ok value) :
    transaction body state.1 = (.ok value, (transactionUnder plan body state).2.1) := by
  have failing : ∀ number statement answer,
      plan.clients number statement = some answer → ClientFails statement answer := by
    intro number statement answer planned
    obtain ⟨error, -, same⟩ := Option.map_eq_some_iff.mp planned
    exact ⟨error, same.symm⟩
  -- A body that returns has met no fault, so it ran as without the plan.
  obtain ⟨number, ran⟩ := transactionUnder_committed committed
  rw [transaction, strict.run_ok failing ran]

/-- Without faults a transaction is executed as a whole. -/
theorem transactionUnder_none (body : Transaction α) (state : Db × ℕ) :
    (transactionUnder .none body state).1 = (transaction body state.1).1 ∧
      (transactionUnder .none body state).2.1 = (transaction body state.1).2 := by
  let start := (state.1, state.2 + 1)
  have simulates :
      (body.run (faulty ClientStatement.exec Plan.none.clients) start).1 =
        (body.run ClientStatement.exec state.1).1 ∧
      (body.run (faulty ClientStatement.exec Plan.none.clients) start).2.1 =
        (body.run ClientStatement.exec state.1).2 :=
    (Program.Only.all body).run_simulates Prod.fst (fun _ _ _ => ⟨rfl, rfl⟩) start
  simp only [transactionUnder, transaction, Plan.none]
  generalize body.run (faulty ClientStatement.exec Plan.none.clients) start = ran at simulates ⊢
  generalize body.run ClientStatement.exec state.1 = alone at simulates ⊢
  obtain ⟨result, reached, number⟩ := ran
  obtain ⟨result', reached'⟩ := alone
  obtain ⟨rfl, rfl⟩ := simulates
  cases result <;> exact ⟨rfl, rfl⟩

/-! ### One fault -/

theorem clients_oneFault (position : ℕ) (error : PgError) :
    Program.OneFault ClientFails (faulty ClientStatement.exec Plan.none.clients)
      (faulty ClientStatement.exec (Plan.single position error).clients) position := by
  apply Program.OneFault.of_faults
  · intro statement
    refine ⟨.error error, ?_, error, rfl⟩
    rw [Plan.clients, Plan.single, if_pos rfl]
    rfl
  · intro number statement other
    rw [Plan.clients, Plan.single, if_neg other]
    rfl

/-- The numbers a transaction covers. -/
theorem transactionUnder_counts (body : Transaction α) (state : Db × ℕ) :
    state.2 < (transactionUnder .none body state).2.2 := by
  have inside := (clients_oneFault 0 .connectionFailure).run_counts body (state.1, state.2 + 1)
  simp only [transactionUnder, Plan.none] at inside ⊢
  generalize body.run (faulty ClientStatement.exec Plan.none.clients) (state.1, state.2 + 1) =
    ran at inside ⊢
  obtain ⟨result, reached, number⟩ := ran
  cases result
  · exact Nat.le_succ_of_le inside
  · exact Nat.le_succ_of_le inside

/-- A single fault elsewhere leaves a statement alone. -/
theorem Plan.single_of_ne {position number : ℕ} {error : PgError} (other : number ≠ position)
    (sent : Sent) : Plan.single position error number sent = Option.none :=
  if_neg other

/-- A transaction that meets a fault fails. -/
theorem transactionUnder_met (strict : body.Strict ClientFails) {position : ℕ} (error : PgError)
    (reached : state.2 ≤ position)
    (inside : position < (transactionUnder .none body state).2.2) :
    ∃ thrown, (transactionUnder (.single position error) body state).1 = .error thrown := by
  have fault := clients_oneFault position error
  have met := strict.run_met fault (state.1, state.2 + 1)
  have spared := fault.run_spared body (state.1, state.2 + 1)
  by_cases first : state.2 = position
  · rw [transactionUnder, Plan.single, if_pos first]
    exact ⟨error, rfl⟩
  rw [transactionUnder, Plan.single_of_ne first]
  simp only [transactionUnder, Plan.none] at inside ⊢
  generalize body.run (faulty ClientStatement.exec Plan.none.clients) (state.1, state.2 + 1) =
    plain at inside met spared
  obtain ⟨result, stored, number⟩ := plain
  have last : position < number + 1 := by cases result <;> exact inside
  by_cases body_met : position < number
  · -- A statement of the body fails.
    obtain ⟨thrown, failed⟩ := met (by omega) body_met
    generalize body.run (faulty ClientStatement.exec (Plan.single position error).clients)
      (state.1, state.2 + 1) = ran at failed
    obtain ⟨result, stored, number⟩ := ran
    obtain rfl : result = .error thrown := failed
    exact ⟨thrown, rfl⟩
  · -- The body is through, and `COMMIT` fails, or `ROLLBACK` after an error of its own.
    have same : number = position := by omega
    rw [spared (.inr same.le)]
    cases result with
    | error thrown => exact ⟨thrown, rfl⟩
    | ok value =>
        simp only [Plan.single, if_pos same]
        exact ⟨error, rfl⟩

/-- A transaction does not notice a fault outside of it. -/
theorem transactionUnder_spared {position : ℕ} (error : PgError)
    (outside : position < state.2 ∨ (transactionUnder .none body state).2.2 ≤ position) :
    transactionUnder (.single position error) body state = transactionUnder .none body state := by
  have fault := clients_oneFault position error
  have spared := fault.run_spared body (state.1, state.2 + 1)
  have later := fault.run_counts body (state.1, state.2 + 1)
  have counts := transactionUnder_counts body state
  have first : state.2 ≠ position := by omega
  rw [transactionUnder, Plan.single_of_ne first, transactionUnder]
  simp only [transactionUnder, Plan.none] at outside counts ⊢
  generalize body.run (faulty ClientStatement.exec Plan.none.clients) (state.1, state.2 + 1) =
    plain at outside counts spared later ⊢
  obtain ⟨result, stored, number⟩ := plain
  have beyond : position < state.2 ∨ number + 1 ≤ position := by
    cases result <;> exact outside
  have number_le : state.2 + 1 ≤ number := later
  rw [spared (by rcases beyond with before | after <;> simp only <;> omega)]
  cases result with
  | error thrown => rfl
  | ok value =>
      have last : number ≠ position := by omega
      simp only [Plan.single_of_ne last]

end Transactions

/-! ### The number of statements of a transaction -/

section Numbers

/-- The statements that insert mentions. -/
def insertions (mentionedUserIds : List ℕ) : ℕ := if mentionedUserIds.isEmpty then 0 else 1

/-- Statements inside a transaction. -/
abbrev ClientHistory := List (Event ClientStatement (Db × ℕ))

/-- A transaction that sends this many statements before it returns. -/
abbrev Sending {α : Type} (count : ClientHistory → α → Prop) (events : ClientHistory)
    (body : Transaction α) : Prop :=
  body.Outline (faulty ClientStatement.exec Plan.none.clients) (fun _ _ => True)
    (fun events result => ∀ value, result = .ok value → count events value) events

section Sending

variable {α : Type} {count : ClientHistory → α → Prop} {events : ClientHistory}

theorem Sending.query {statement : ClientStatement} {next : statement.Rows → Transaction α}
    (rest : ∀ rows event, Sending count (event :: events) (next rows)) :
    Sending count events (statement.query >>= next) := by
  refine ⟨trivial, fun state => ?_⟩
  cases (faulty ClientStatement.exec Plan.none.clients statement state).1 with
  | error error =>
      intro value failed
      cases failed
  | ok rows => exact rest rows _

theorem Sending.writeMentions {commentId : ℕ} {mentionedUserIds : List ℕ}
    {next : Unit → Transaction α}
    (rest : ∀ more : ClientHistory, more.length = insertions mentionedUserIds →
      Sending count (more ++ events) (next ())) :
    Sending count events
      (CommentsRepository.writeMentions commentId mentionedUserIds >>= next) := by
  cases mentionedUserIds with
  | nil => exact rest [] rfl
  | cons first others => exact Sending.query fun _ event => rest [event] rfl

/-- What a transaction sends is what it is counted with. -/
theorem Sending.number {body : Transaction α} (sending : Sending count [] body)
    (state : Db × ℕ) {value : α} (stored : (transactionUnder .none body state).1 = .ok value) :
    ∃ events : ClientHistory, count events value ∧
      (transactionUnder .none body state).2.2 = state.2 + events.length + 2 := by
  obtain ⟨events, counted, ends⟩ := sending.run_number (state.1, state.2 + 1)
  simp only [transactionUnder, Plan.none] at counted ends stored ⊢
  generalize body.run (faulty ClientStatement.exec Plan.none.clients) (state.1, state.2 + 1) =
    ran at counted ends stored ⊢
  obtain ⟨result, after, number⟩ := ran
  cases result with
  | error error => cases stored
  | ok value' =>
      obtain rfl : value' = value := Except.ok.inj stored
      have counted : number = state.2 + 1 + events.length := counted
      refine ⟨events, ends _ rfl, ?_⟩
      simp only
      omega

end Sending

namespace CommentsRepository

/-- The statements of the transaction of a new comment. -/
theorem createWithMentions_number (input : CommentInput) (onCommitting : CommentRow → AuditInsert)
    (state : Db × ℕ) {row : CommentRow}
    (stored : (transactionUnder .none (createWithMentions input onCommitting) state).1 = .ok row) :
    (transactionUnder .none (createWithMentions input onCommitting) state).2.2 =
      state.2 + 4 + insertions input.mentionedUserIds := by
  have sending : Sending (fun events _ => events.length = 2 + insertions input.mentionedUserIds) []
      (createWithMentions input onCommitting) := by
    apply Sending.query
    intro comment inserted
    apply Sending.writeMentions
    intro mentions written
    apply Sending.query
    intro _ logged value _
    simp only [List.length_cons, List.length_append, List.length_nil, written]
    omega
  obtain ⟨events, length, number⟩ := sending.number state stored
  omega

/-- The statements of the transaction of a comment PATCH that finds its row. -/
theorem updateContentAndMentions_number (id : ℕ) (expectedVersion : Option ℕ) (content : String)
    (mentionedUserIds : List ℕ) (onCommitting : CommentRow → AuditInsert) (state : Db × ℕ)
    {row : CommentRow}
    (stored : (transactionUnder .none (updateContentAndMentions id expectedVersion content
      mentionedUserIds onCommitting) state).1 = .ok (some row)) :
    (transactionUnder .none (updateContentAndMentions id expectedVersion content
      mentionedUserIds onCommitting) state).2.2 = state.2 + 5 + insertions mentionedUserIds := by
  have sending : Sending (fun events found => found.isSome →
      events.length = 3 + insertions mentionedUserIds) []
      (updateContentAndMentions id expectedVersion content mentionedUserIds onCommitting) := by
    apply Sending.query
    rintro (_ | updated) changed
    · rintro _ ⟨⟩ ⟨⟩
    apply Sending.query
    intro _ deleted
    apply Sending.writeMentions
    intro mentions written
    apply Sending.query
    intro _ logged value _ _
    simp only [List.length_cons, List.length_append, List.length_nil, written]
    omega
  obtain ⟨events, length, number⟩ := sending.number state stored
  have length := length rfl
  omega

end CommentsRepository

end Numbers

section Statements

variable [Postgres]

/-- Is the write a transaction? -/
def Command.isTransaction : Command → Bool
  | createWithMentions .. | updateContentAndMentions .. => true
  | _ => false

/-- Outside transactions every statement counts once. -/
theorem execUnder_command {write : Command} (single : write.isTransaction = false) (plan : Plan)
    (state : Db × ℕ) :
    execUnder plan (.command write) state = faulty exec plan.statements (.command write) state := by
  cases write with
  | createWithMentions | updateContentAndMentions => cases single
  | _ => rfl

/-- A statement that has failed. -/
def StatementFails (statement : Statement) (answer : statement.Ans) : Prop :=
  ∃ error, answer = .error error

omit [Postgres] in
theorem query_strict (statement : Statement) : (query statement).Strict StatementFails := by
  intro answer
  refine ⟨trivial, ?_⟩
  rintro ⟨error, rfl⟩
  exact ⟨.database error, rfl⟩

/-- **One fault** is met by the statement that covers it, and not noticed by the
others. -/
theorem oneFault (position : ℕ) (error : PgError) :
    Program.OneFault StatementFails (execUnder .none) (execUnder (.single position error))
      position := by
  have plain : Program.OneFault StatementFails (faulty exec Plan.none.statements)
      (faulty exec (Plan.single position error).statements) position := by
    apply Program.OneFault.of_faults
    · intro statement
      refine ⟨.error error, ?_, error, rfl⟩
      rw [Plan.statements, Plan.single, if_pos rfl]
      rfl
    · intro number statement other
      rw [Plan.statements, Plan.single_of_ne other]
      rfl
  -- Statements of their own take one position, and transactions as many as they send.
  constructor
  · intro statement state
    cases statement with
    | select read => exact plain.counts _ state
    | command write =>
        cases write with
        | createWithMentions | updateContentAndMentions =>
            exact (transactionUnder_counts _ state).le
        | _ => exact plain.counts _ state
  · intro statement state reached inside
    cases statement with
    | select read => exact plain.met _ state reached inside
    | command write =>
        cases write with
        | createWithMentions input onCommitting =>
            exact transactionUnder_met
              (CommentsRepository.createWithMentions_strict input onCommitting) error reached inside
        | updateContentAndMentions id expectedVersion content mentionedUserIds onCommitting =>
            exact transactionUnder_met (CommentsRepository.updateContentAndMentions_strict id
              expectedVersion content mentionedUserIds onCommitting) error reached inside
        | _ => exact plain.met _ state reached inside
  · intro statement state outside
    cases statement with
    | select read => exact plain.spared _ state outside
    | command write =>
        cases write with
        | createWithMentions | updateContentAndMentions =>
            exact transactionUnder_spared error outside
        | _ => exact plain.spared _ state outside

end Statements

end IssueFlow
