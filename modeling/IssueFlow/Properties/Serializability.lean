import IssueFlow.Properties.BlockerCheck
import IssueFlow.Properties.Lifecycle
import IssueFlow.Semantics.Serializability
import IssueFlow.System.AuditBlind
import IssueFlow.System.Revisions
import IssueFlow.System.Sequential

/-!
# Serializability of updates and deletions

The service runs no transaction around a request: it reads, checks, and writes in
separate statements. For the requests that change or remove what is stored this
makes no difference. In any mix of requests, one that takes effect is answered as
if it had been served alone at the moment of its write, and has the effect it
would have had. When all requests are of this kind, a run leads where serving
those that succeeded, one at a time and in the order of their writes, leads.

A ticket PATCH needs the version it carries to be the one it has read, whatever
the versions of the others, and in a mix with other requests a move to `DONE`
needs the blockers to be resolved when it is written.

## Main definitions

* `ServedAtWrite` — a request that is served at the moment of its write
* `SerialOrder` — an order in which requests served one at a time have the effect of a run

## Main results

* `revision_atomic` — a request that takes effect, in any mix of requests
* `revisions_serializable` — any number of such requests
-/

namespace IssueFlow

open Store Semantics JavaScript

section Interleaved

variable [Postgres] [Bcrypt] [Unicode] {ι : Type} [DecidableEq ι]

omit [Bcrypt] [Unicode] in
/-- An UPDATE that answers with a row has written it. -/
theorem writesTicket_of_exec {id : ℕ} {version : Option ℕ} {input : TicketUpdate}
    {resetOverdueFlag : Bool} {db after : Db} {updated : TicketRow}
    (executed : (Command.updateWithVersionCheck id version input resetOverdueFlag).exec db =
      (.ok (some updated), after)) :
    writesTicket id ⟨.command (.updateWithVersionCheck id version input resetOverdueFlag), db⟩ := by
  have answered : (TicketsRepository.updateWithVersionCheck id version input resetOverdueFlag
      db).1 = .ok (some updated) := congrArg Prod.fst executed
  simp [writesTicket, answered, affected]

/-- Requests that revise keep to their outlines, whatever the others are. -/
theorem System.revised (db : Db) (requests : ι → Request) (fuel : ι → ℕ)
    (turns : List (Turn ι ℕ)) : (System.run db requests fuel turns).Outlined exec
      (fun thread events statement => (requests thread).revision.isSome →
        SendsRevision (requests thread) events statement)
      fun thread events result =>
        (requests thread).revision.isSome → EndsRevised events result := by
  refine Config.Outlined.play ?_ turns
  intro thread
  cases revision : (requests thread).revision with
  | some write =>
      exact (revision_outline revision (fuel thread)).mono (fun _ _ sends _ => sends)
        fun _ _ ends _ => ends
  | none =>
      refine ((Program.Only.all _).outline (fun _ _ _ revises => ?_) []).mono
        (fun _ _ sends => sends) fun _ _ _ revises => ?_ <;> simp [revision] at revises

variable {db : Db} {requests : ι → Request} {fuel : ι → ℕ} {turns : List (Turn ι ℕ)} {thread : ι}

/-- What takes effect is the write of the request, after its reads. -/
theorem write_of_takesEffect {statement : Statement} {next : statement.Ans → Service Response}
    (running : (System.run db requests fuel turns).programs thread = .call statement next)
    (revises : (requests thread).revision.isSome)
    (takes : takesEffect ⟨statement, (System.run db requests fuel turns).state⟩ = true) :
    ∃ write rows after, statement = .command write ∧ (requests thread).revision = some write ∧
      (requests thread).WellFormed ∧
      OnlyReads ((System.run db requests fuel turns).history thread) ∧
      write.exec (System.run db requests fuel turns).state = (.ok rows, after) ∧
      write.foundNone rows = false := by
  have sends := (System.revised db requests fuel turns).of_running running revises
  cases statement with
  | select read => cases takes
  | command write =>
      obtain ⟨plain, found⟩ := Bool.and_eq_true_iff.mp takes
      rcases sends with audit | ⟨reads, wellFormed, revision⟩
      · rw [audit] at plain
        cases plain
      generalize executed : write.exec (System.run db requests fuel turns).state = ran at found
      obtain ⟨answer, after⟩ := ran
      cases answer with
      | error error => cases found
      | ok rows =>
          exact ⟨write, rows, after, rfl, revision, wellFormed, reads, executed,
            by simpa [Command.missed] using found⟩

/-- A request that moves a ticket to `DONE` finds it unblocked. -/
def Request.Resolves : Request → Db → Prop
  | .updateTicket id dto _, db => dto.status = .value .done → db.Unblocked id
  | _, _ => True

/-- The checks of a PATCH hold of the row that its UPDATE has found. -/
theorem allowed_of_versionRead {write : Command} {rows : write.Rows} {after : Db}
    {next : Statement.Ans (.command write) → Service Response}
    (running : (System.run db requests fuel turns).programs thread = .call (.command write) next)
    (revision : (requests thread).revision = some write)
    (read : VersionRead (System.run db requests fuel turns) thread (.command write))
    (executed : write.exec (System.run db requests fuel turns).state = (.ok rows, after))
    (found : write.foundNone rows = false)
    (resolves : (requests thread).Resolves (System.run db requests fuel turns).state) :
    (requests thread).Allowed (System.run db requests fuel turns).state := by
  generalize sent : requests thread = request at revision resolves ⊢
  cases request with
  | updateTicket id dto performedBy =>
      cases revision
      obtain _ | updated := rows
      · cases found
      obtain ⟨row, due, live, version, -⟩ := TicketsRepository.updateWithVersionCheck_ok executed
      obtain ⟨stored, -⟩ := Option.filter_eq_some_iff.mp live
      intro other member
      obtain rfl := Option.some.inj (stored.symm.trans member)
      obtain ⟨unresolved, legal⟩ :=
        checked_of_versionRead running read (writesTicket_of_exec executed) stored version
      exact ⟨unresolved, legal, resolves⟩
  | _ => trivial

/-- Where its write takes effect, a request served alone makes the write and is
answered from it. -/
theorem run_at_write {write : Command} {rows : write.Rows} {after : Db}
    {next : Statement.Ans (.command write) → Service Response}
    (assignees : AssigneesStored db)
    (running : (System.run db requests fuel turns).programs thread = .call (.command write) next)
    (revision : (requests thread).revision = some write) (wellFormed : (requests thread).WellFormed)
    (read : VersionRead (System.run db requests fuel turns) thread (.command write))
    (executed : write.exec (System.run db requests fuel turns).state = (.ok rows, after))
    (found : write.foundNone rows = false)
    (resolves : (requests thread).Resolves (System.run db requests fuel turns).state)
    (bound : ℕ) :
    ∃ entry, ((requests thread).program bound).run exec (System.run db requests fuel turns).state =
      (.ok (write.response rows), after.log entry) :=
  run_revision revision wellFormed
    (allowed_of_versionRead running revision read executed found resolves)
    (assigneesStored_run assignees requests fuel turns) executed found bound

/-- A request that has taken effect is served as if alone at the moment of its
write. Of the others nothing is asked. -/
theorem serve_at_write (assignees : AssigneesStored db)
    {guard : System ι → ι → Statement → Prop} (meets : System.Meets db requests fuel guard turns)
    (read : ∀ c statement, guard c thread statement → VersionRead c thread statement)
    (revises : (requests thread).revision.isSome) {event : Event Statement Db}
    (member : event ∈ (System.run db requests fuel turns).history thread)
    (takes : takesEffect event = true) (resolves : (requests thread).Resolves event.state) :
    SameBusiness (serve (requests thread) event.state).2 (exec event.op event.state).2 ∧
      ∀ result, (System.run db requests fuel turns).programs thread = .done result →
        result = (serve (requests thread) event.state).1 := by
  obtain ⟨statement, state⟩ := event
  obtain ⟨first, -, next, -, -, rfl, running, met⟩ := meets.sent (Config.mem_history.mp member)
  obtain ⟨write, rows, after, rfl, revision, wellFormed, -, executed, found⟩ :=
    write_of_takesEffect running revises takes
  obtain ⟨entry, ran⟩ := run_at_write assignees running revision wellFormed (read _ _ met) executed
    found resolves (walkFuel (System.run db requests fuel first).state)
  rw [serve, ran, exec_command, executed]
  refine ⟨SameBusiness.log after entry, fun result finished => ?_⟩
  exact ((System.revised db requests fuel turns).of_done finished revises).answered write _ rows
    member takes (congrArg Prod.fst executed)

/-- The request has only succeeded if it has taken effect. Where it has taken
effect, it has the effect and the answer it would have had, were it served alone
in that state. -/
structure ServedAtWrite (c : System ι) (request : Request) (thread : ι) : Prop where
  effective : c.Succeeded thread → ∃ event ∈ c.history thread, takesEffect event = true
  effect : ∀ event ∈ c.history thread, takesEffect event = true → request.Resolves event.state →
    SameBusiness (serve request event.state).2 (exec event.op event.state).2
  answer : ∀ event ∈ c.history thread, takesEffect event = true → request.Resolves event.state →
    ∀ result, c.programs thread = .done result → result = (serve request event.state).1

/-- **A request that revises is served at the moment of its write**, whatever the
other requests are and whatever versions they carry. -/
theorem revision_atomic (db : Db) (assignees : AssigneesStored db) (requests : ι → Request)
    (fuel : ι → ℕ) (turns : List (Turn ι ℕ)) (thread : ι)
    (revises : (requests thread).revision.isSome)
    (read : System.Meets db requests fuel
      (fun c sender statement => sender = thread → VersionRead c sender statement) turns) :
    ServedAtWrite (System.run db requests fuel turns) (requests thread) thread := by
  have own (c : System ι) (statement : Statement)
      (met : thread = thread → VersionRead c thread statement) : VersionRead c thread statement :=
    met rfl
  constructor
  · rintro ⟨value, finished⟩
    have ends := (System.revised db requests fuel turns).of_done finished revises
    exact ends.effective value rfl
  · intro event member takes resolves
    exact (serve_at_write assignees read own revises member takes resolves).1
  · intro event member takes resolves
    exact (serve_at_write assignees read own revises member takes resolves).2

/-! ### Any number of requests that revise -/

/-- What does not take effect leaves everything but the audit log alone. -/
theorem sameBusiness_of_ineffective {statement : Statement}
    {next : statement.Ans → Service Response}
    (running : (System.run db requests fuel turns).programs thread = .call statement next)
    (revises : (requests thread).revision.isSome)
    (ineffective : takesEffect ⟨statement, (System.run db requests fuel turns).state⟩ = false) :
    SameBusiness (System.run db requests fuel turns).state
      (exec statement (System.run db requests fuel turns).state).2 := by
  have sends := (System.revised db requests fuel turns).of_running running revises
  cases statement with
  | select read => exact rfl
  | command write =>
      rcases sends with audit | ⟨-, -, revision⟩
      · -- An audit entry.
        cases write with
        | insertAudit input => exact rfl
        | _ => cases audit
      · have missed :
            write.missed (write.exec (System.run db requests fuel turns).state).1 = true := by
          simpa [takesEffect, Request.isAudit_revision revision] using ineffective
        rw [exec_command, revision_missed revision missed]
        exact rfl

/-- A write that takes effect in a schedule in which versions were read gives no
ticket an unresolved blocker. -/
theorem not_givesBlocker_of_takesEffect {statement : Statement}
    {next : statement.Ans → Service Response}
    (running : (System.run db requests fuel turns).programs thread = .call statement next)
    (revises : (requests thread).revision.isSome)
    (read : VersionRead (System.run db requests fuel turns) thread statement)
    (takes : takesEffect ⟨statement, (System.run db requests fuel turns).state⟩ = true)
    (id blockerId : ℕ) :
    ¬ GivesBlocker id blockerId ⟨statement, (System.run db requests fuel turns).state⟩ := by
  obtain ⟨write, rows, after, rfl, revision, -, -, executed, found⟩ :=
    write_of_takesEffect running revises takes
  intro gives
  generalize requests thread = request at revision
  cases request with
  | updateTicket target dto performedBy =>
      cases revision
      obtain _ | updated := rows
      · cases found
      obtain ⟨rfl, -, blocker, stored, -, resolved, -⟩ := gives
      obtain ⟨row, due, live, version, -⟩ := TicketsRepository.updateWithVersionCheck_ok executed
      obtain ⟨found, -⟩ := Option.filter_eq_some_iff.mp live
      obtain rfl := Option.some.inj (found.symm.trans stored)
      exact (checked_of_versionRead running read (writesTicket_of_exec executed) found
        version).1 resolved
  | _ => cases revision <;> exact gives

/-- Among requests that revise, a ticket that has no unresolved blocker keeps to
have none. -/
theorem keptUnblocked_of_versionRead (revising : ∀ thread, (requests thread).revision.isSome)
    {statement : Statement} {next : statement.Ans → Service Response}
    (running : (System.run db requests fuel turns).programs thread = .call statement next)
    (read : VersionRead (System.run db requests fuel turns) thread statement) (id : ℕ) :
    KeptUnblocked id (System.run db requests fuel turns).state
      (exec statement (System.run db requests fuel turns).state).2 := by
  rintro ⟨stored, unblocked⟩
  refine ⟨dependenciesStored_exec statement stored, ?_⟩
  cases takes : takesEffect ⟨statement, (System.run db requests fuel turns).state⟩ with
  | true =>
      exact unblocked_exec stored unblocked
        (not_givesBlocker_of_takesEffect running (revising thread) read takes id)
  | false =>
      obtain ⟨logs, same⟩ :=
        (sameBusiness_of_ineffective running (revising thread) takes).exists_eq
      rw [same]
      exact unblocked

/-- Among requests that revise, the blockers are still resolved when a PATCH
moves its ticket to `DONE`. -/
theorem resolves_of_versionRead (stored : db.DependenciesStored)
    (revising : ∀ thread, (requests thread).revision.isSome)
    (read : System.Meets db requests fuel VersionRead turns) {write : Command}
    {next : Statement.Ans (.command write) → Service Response}
    (running : (System.run db requests fuel turns).programs thread = .call (.command write) next)
    (revision : (requests thread).revision = some write) :
    (requests thread).Resolves (System.run db requests fuel turns).state := by
  have sends := (System.outlined db requests fuel turns).of_running running
  generalize sent : requests thread = request at revision sends ⊢
  cases request with
  | updateTicket id dto performedBy =>
      cases revision
      intro toDone
      obtain ⟨-, -, -, -, -, blockers⟩ := sends.checked
      obtain ⟨past, counted, none⟩ := blockers toDone
      obtain ⟨first, -, -, ⟨second, rfl⟩, -, rfl, -, -⟩ := read.sent (Config.mem_history.mp counted)
      -- The tickets were unblocked when the blockers were counted, and nothing has changed that.
      have since : KeptUnblocked id (System.run db requests fuel first).state
          (System.run db requests fuel (first ++ second)).state := by
        refine read.state_rel (KeptUnblocked.refl id) KeptUnblocked.trans
          (keptUnblocked_advance id) ?_
        exact fun turns thread statement next running met =>
          keptUnblocked_of_versionRead revising running met id
      exact (since ⟨dependenciesStored_run stored first,
        DependenciesRepository.countUnresolvedBlockers_eq_zero.mp none⟩).2
  | _ => trivial

/-! ### The serial order -/

/-- Serving requests one at a time in this order has the effect of the run: it
leads to the same database apart from the audit log, and the requests that have
succeeded are answered alike. A request that has failed is not served at all.
The order is that of the schedule, and no request is served twice. -/
structure SerialOrder (db : Db) (requests : ι → Request) (fuel : ι → ℕ)
    (turns order : List (Turn ι ℕ)) : Prop where
  scheduled : order.Sublist turns
  once : order.Pairwise fun turn later => ∀ thread, turn = .call thread → later ≠ .call thread
  state : SameBusiness (serveAll (order.map (Input.ofTurn requests)) db)
    (System.run db requests fuel turns).state
  answered : ∀ thread response,
    (System.run db requests fuel turns).programs thread = .done (.ok response) →
      ∃ before after, order = before ++ .call thread :: after ∧
        (serve (requests thread) (serveAll (before.map (Input.ofTurn requests)) db)).1 =
          .ok response
  failed : ∀ thread, (System.run db requests fuel turns).Failed thread → .call thread ∉ order

omit [DecidableEq ι] in
/-- Serving the requests of an order, as programs executed to their ends. -/
theorem foldl_serialTurn_eq_serveAll (revising : ∀ thread, (requests thread).revision.isSome)
    (order : List (Turn ι ℕ)) (db : Db) :
    order.foldl (Config.serialTurn exec advance fun thread =>
      (requests thread).program (fuel thread)) db =
        serveAll (order.map (Input.ofTurn requests)) db := by
  induction order generalizing db with
  | nil => rfl
  | cons turn order ih =>
      rw [List.foldl_cons, ih]
      cases turn with
      | environment elapsed => rfl
      | call thread =>
          have same := Request.program_eq_of_revision (revising thread) (fuel thread) (walkFuel db)
          rw [Config.serialTurn, same]
          rfl

/-- Requests that revise take effect at once. -/
theorem atomic_of_versionRead (assignees : AssigneesStored db) (stored : db.DependenciesStored)
    (revising : ∀ thread, (requests thread).revision.isSome)
    (read : System.Meets db requests fuel VersionRead turns) :
    Config.Atomic exec advance takesEffect SameBusiness db
      (fun thread => (requests thread).program (fuel thread)) turns where
  equivalence := SameBusiness.equivalence
  respects thread _ _ same := run_business _ same
  changed elapsed _ _ same := same.advance elapsed
  committed first thread statement next isPrefix := by
    obtain ⟨rest, rfl⟩ := isPrefix
    rw [List.append_assoc] at read
    obtain ⟨earlier, later⟩ := read.of_append
    intro c running takes
    have met : VersionRead (System.run db requests fuel first) thread statement := by
      have sent : (System.run db requests fuel first).programs thread = .call statement next :=
        running
      simpa only [Config.Allows, sent] using later.1
    obtain ⟨write, rows, after, rfl, revision, wellFormed, -, executed, found⟩ :=
      write_of_takesEffect running (revising thread) takes
    obtain ⟨entry, ran⟩ := run_at_write assignees running revision wellFormed met executed found
      (resolves_of_versionRead stored revising earlier running revision) (fuel thread)
    rw [ran, exec_command, executed]
    exact SameBusiness.log after entry
  silent first thread statement next _ running ineffective :=
    sameBusiness_of_ineffective running (revising thread) ineffective

/-- What a request has sent when its write takes effect has had no effect. -/
theorem fresh_of_takesEffect (revising : ∀ thread, (requests thread).revision.isSome)
    {newer older : History} {event : Event Statement Db}
    (split : (System.run db requests fuel turns).history thread = newer ++ event :: older)
    (takes : takesEffect event = true) : Ineffective older := by
  have sends := ((Config.meets_true turns).history_split
    (System.revised db requests fuel []) rfl (fun _ _ => True) (fun _ _ _ _ => trivial)
    thread newer event older split).1 (revising thread)
  obtain ⟨statement, state⟩ := event
  cases statement with
  | select read => cases takes
  | command write =>
      rcases sends with audit | ⟨reads, -⟩
      · simp [takesEffect, audit] at takes
      · exact reads.ineffective

/-- **Updates and deletions are serializable.** A run of any number of them, in
which versions were read, has the effect of serving those that took effect one
at a time, in the order in which their writes took effect. -/
theorem revisions_serializable (db : Db) (assignees : AssigneesStored db)
    (stored : db.DependenciesStored) (requests : ι → Request)
    (revising : ∀ thread, (requests thread).revision.isSome) (fuel : ι → ℕ)
    (turns : List (Turn ι ℕ)) (read : System.Meets db requests fuel VersionRead turns) :
    SerialOrder db requests fuel turns
      (Config.commitOrder exec advance takesEffect turns (System.start db requests fuel)) := by
  have atomic := atomic_of_versionRead assignees stored revising read
  have ends {thread : ι} {result : Except Exception Response}
      (finished : (System.run db requests fuel turns).programs thread = .done result) :
      EndsRevised ((System.run db requests fuel turns).history thread) result :=
    (System.revised db requests fuel turns).of_done finished (revising thread)
  refine ⟨Config.commitOrder_sublist turns, ?_, ?_, ?_, ?_⟩
  · apply Config.commitOrder_once
    exact fun thread newer event older split takes => fresh_of_takesEffect revising split takes
  · rw [← foldl_serialTurn_eq_serveAll revising]
    exact atomic.serial_state
  · intro thread response finished
    -- The request has succeeded, so it has taken effect, and so it is in the order.
    have member := (Config.mem_commitOrder turns thread).mpr ((ends finished).effective _ rfl)
    obtain ⟨before, after, split⟩ := List.append_of_mem member
    refine ⟨before, after, split, ?_⟩
    obtain ⟨first, statement, next, ⟨rest, rfl⟩, running, takes, same⟩ :=
      atomic.serial_result split
    obtain ⟨earlier, -⟩ := (List.append_assoc .. ▸ read).of_append
    -- It is answered as it is when it is served alone at the moment of its write.
    have sent : ⟨statement, (System.run db requests fuel first).state⟩ ∈
        (System.run db requests fuel (first ++ [.call thread] ++ rest)).history thread := by
      apply Config.mem_history.mpr
      apply (Config.trace_suffix exec advance (System.start db requests fuel) _ rest).subset
      rw [Config.play_append, Config.play_cons, Config.play_nil]
      simp only [Config.turn, running, Config.send_trace]
      exact List.mem_cons_self
    obtain ⟨write, -, -, rfl, revision, -⟩ := write_of_takesEffect running (revising thread) takes
    have alone := (serve_at_write assignees read (fun _ _ => id) (revising thread) sent takes
      (resolves_of_versionRead stored revising earlier running revision)).2 _ finished
    have bound (db : Db) : serve (requests thread) db =
        ((requests thread).program (fuel thread)).run exec db := by
      rw [serve, Request.program_eq_of_revision (revising thread) (walkFuel db) (fuel thread)]
    rw [foldl_serialTurn_eq_serveAll revising] at same
    rw [alone, bound, bound]
    exact same
  · rintro thread ⟨exception, finished⟩ member
    obtain ⟨⟨statement, state⟩, executed, takes⟩ := (Config.mem_commitOrder turns thread).mp member
    -- What takes effect is a write that was answered, and so is the request.
    cases statement with
    | select read => cases takes
    | command write =>
        cases answered : (write.exec state).1 with
        | error error => simp [takesEffect, answered, Command.missed] at takes
        | ok rows => cases (ends finished).answered write state rows executed takes answered

end Interleaved

/-! ### A PATCH and a deletion -/

section Schedules

open Sample

/-- A PATCH of a ticket, and its deletion. -/
def moveAndDelete : Bool → Request
  | true => move 1 1 .inProgress
  | false => .softDeleteTicket 1 1

/-- The PATCH is served at its write, which comes before that of the deletion. -/
theorem moveAndDelete_atomic :
    ServedAtWrite (System.run twoTickets moveAndDelete (fun _ => 0) inStep) (moveAndDelete true)
      true :=
  revision_atomic twoTickets (assigneesStored_serveAll .empty _) moveAndDelete _ inStep true rfl
    (by decide +kernel)

/-- The two are served in the order of their writes. -/
theorem moveAndDelete_serializable :
    SerialOrder twoTickets moveAndDelete (fun _ => 0) inStep
      (Config.commitOrder exec advance takesEffect inStep
        (System.start twoTickets moveAndDelete fun _ => 0)) :=
  revisions_serializable twoTickets (assigneesStored_serveAll .empty _)
    twoTickets_dependenciesStored moveAndDelete (by decide) _ inStep (by decide +kernel)

end Schedules

end IssueFlow
