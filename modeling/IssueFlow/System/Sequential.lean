import IssueFlow.Database.Assignees
import IssueFlow.System.Outlines

/-!
# Requests one at a time

A request that is served alone writes in the state it has read: until its first
write nothing has changed. What it sends is therefore backed by evidence about
the very state it is sent in.

## Main definitions

* `ReadsAt` — while a request has only read, nothing has changed
* `Input.ofTurn` — what a turn asks for when requests are served in full

## Main results

* `wouldCreateCycle_returns` — a cycle check that is run alone ends
* `serve_invariant` — an invariant of one request
* `serveAll_invariant`, `serveAll_kept` — invariants of a sequence of requests
* `serveAll_eq_run` — serving one at a time is one of the schedules
* `assigneesStored_run`, `assigneesStored_serveAll` — assignees are stored in every reachable state
-/

namespace IssueFlow

open Store Semantics JavaScript

/-- As long as only reads were sent, the state is the one they were sent in. -/
def ReadsAt (start : Db) (events : History) (state : Db) : Prop :=
  OnlyReads events → state = start ∧ ∀ event ∈ events, event.state = start

theorem ReadsAt.nil (start : Db) : ReadsAt start [] start :=
  fun _ => ⟨rfl, fun _ member => nomatch member⟩

/-! ### The number of steps of a cycle check -/

section Walk

/-- The dependencies of the tickets that a walk has not visited. -/
def unvisitedRows (db : Db) (visited : List ℕ) : List DependencyRow :=
  db.ticketDependencies.filter fun row => row.ticketId ∉ visited

/-- Visiting a ticket takes its dependencies from the unvisited ones. -/
theorem length_unvisitedRows_cons {db : Db} {visited : List ℕ} {current : ℕ}
    (fresh : current ∉ visited) :
    (unvisitedRows db (current :: visited)).length +
        (DependenciesRepository.blockerIdsOf current db).length =
      (unvisitedRows db visited).length := by
  rw [unvisitedRows, unvisitedRows, DependenciesRepository.blockerIdsOf, List.length_map]
  induction db.ticketDependencies with
  | nil => rfl
  | cons row rows ih =>
      simp only [List.mem_cons] at ih
      by_cases here : row.ticketId = current
      · simp only [List.filter_cons, here, List.mem_cons, true_or, not_true, decide_false, fresh,
          not_false_eq_true, decide_true, Bool.false_eq_true, if_false, if_true, List.length_cons]
        omega
      · by_cases old : row.ticketId ∈ visited
        · simpa [here, old] using ih
        · simp only [List.filter_cons, here, List.mem_cons, false_or, old, not_false_eq_true,
            decide_true, decide_false, Bool.false_eq_true, if_false, if_true, List.length_cons]
          omega

variable [Postgres]

/-- A walk that is run alone ends: every step takes a ticket from the stack, and
what it pushes it takes from the unvisited dependencies. -/
theorem walk_returns (ticketId : ℕ) (db : Db) (fuel : ℕ) (visited stack : List ℕ)
    (enough : stack.length + (unvisitedRows db visited).length ≤ fuel) :
    ∃ found, (DependenciesService.walk ticketId fuel visited stack).run exec db =
      (.ok found, db) := by
  induction fuel generalizing visited stack with
  | zero =>
      have done : stack = [] := List.length_eq_zero_iff.mp (by omega)
      subst done
      exact ⟨false, rfl⟩
  | succ fuel ih =>
      cases stack with
      | nil => exact ⟨false, rfl⟩
      | cons current stack =>
          rw [List.length_cons] at enough
          rw [DependenciesService.walk]
          split_ifs with found old
          · exact ⟨true, rfl⟩
          · exact ih visited stack (by omega)
          · -- What is pushed pays with the rows that are no longer unvisited.
            rw [run_select]
            apply ih
            have split : (unvisitedRows db (current :: visited)).length +
                (DependenciesRepository.blockerIdsOf current db).length =
                (unvisitedRows db visited).length := length_unvisitedRows_cons old
            have pushed := List.length_filter_le (fun n => decide (n ∉ current :: visited))
              (DependenciesRepository.blockerIdsOf current db)
            rw [List.length_append, List.length_reverse, Query.eval]
            omega

/-- **A cycle check that is run alone ends**, with any number of steps from
`walkFuel` on. -/
theorem wouldCreateCycle_returns (ticketId blockerId : ℕ) {db : Db} {fuel : ℕ}
    (enough : walkFuel db ≤ fuel) :
    ∃ found, (DependenciesService.wouldCreateCycle fuel ticketId blockerId).run exec db =
      (.ok found, db) := by
  apply walk_returns
  have unvisited := List.length_filter_le (fun row => decide (DependencyRow.ticketId row ∉ []))
    db.ticketDependencies
  rw [walkFuel] at enough
  rw [unvisitedRows, List.length_singleton]
  omega

end Walk

/-! ### Invariants of requests that are served alone -/

section Serve

variable [Postgres]

theorem ReadsAt.exec {start state : Db} {events : History} (readsAt : ReadsAt start events state)
    (statement : Statement) :
    ReadsAt start (⟨statement, state⟩ :: events) (exec statement state).2 := by
  intro reads
  obtain ⟨read, rfl⟩ := reads ⟨statement, state⟩ List.mem_cons_self
  obtain ⟨rfl, earlier⟩ := readsAt fun event member => reads event (List.mem_cons_of_mem _ member)
  exact ⟨rfl, List.forall_mem_cons.mpr ⟨rfl, earlier⟩⟩

/-- What a request saw while it has only read is what there is. -/
theorem ReadsAt.eval {start state : Db} {events : History} {read : Query} {rows : read.Rows}
    (readsAt : ReadsAt start events state) (reads : OnlyReads events) (saw : Saw events read rows) :
    read.eval state = rows := by
  obtain ⟨db, member, answer⟩ := saw
  obtain ⟨rfl, earlier⟩ := readsAt reads
  have same : db = state := earlier _ member
  rw [← answer, same]

variable [Bcrypt] [Unicode]

/-- An invariant of a request that is served alone: every statement keeps it,
given what the request has seen. -/
theorem serve_invariant {request : Request} {db : Db} (invariant : Db → Prop)
    (initial : invariant db)
    (step : ∀ events statement state, ReadsAt db events state → invariant state →
      Sends request events statement → invariant (exec statement state).2) :
    invariant (serve request db).2 := by
  have outline := Request.outline request (walkFuel db)
  obtain ⟨events, ⟨-, holds⟩, -⟩ := outline.run
    (fun events state => ReadsAt db events state ∧ invariant state)
    (fun events statement state known sends =>
      ⟨known.1.exec statement, step events statement state known.1 known.2 sends⟩)
    ⟨ReadsAt.nil db, initial⟩
  exact holds

/-- The clock stands still while a request is served alone. -/
theorem serve_now (request : Request) (db : Db) : (serve request db).2.now = db.now := by
  apply serve_invariant fun after => after.now = db.now
  · rfl
  · intro events statement state _ same _
    cases statement with
    | select read => exact same
    | command write => exact (write.exec_sameOutside state).now.trans same

/-- An invariant of a sequence of requests. -/
theorem serveAll_invariant (invariant : Db → Prop) {db : Db} (initial : invariant db)
    (served : ∀ request db, invariant db → invariant (serve request db).2)
    (advanced : ∀ elapsed db, invariant db → invariant (advance elapsed db))
    (inputs : List Input) : invariant (serveAll inputs db) := by
  induction inputs generalizing db with
  | nil => exact initial
  | cons input inputs ih =>
      cases input with
      | request sent => exact ih (served sent db initial)
      | advance elapsed => exact ih (advanced elapsed db initial)

/-- A property that every statement and the clock keep, whoever sends it. -/
theorem serveAll_kept (kept : Db → Prop) {db : Db} (initial : kept db)
    (step : ∀ statement db, kept db → kept (exec statement db).2)
    (advanced : ∀ elapsed db, kept db → kept (advance elapsed db))
    (inputs : List Input) : kept (serveAll inputs db) := by
  refine serveAll_invariant kept initial ?_ advanced inputs
  intro request db holds
  exact serve_invariant kept holds fun _ statement state _ holds _ => step statement state holds

theorem serveAll_append (first second : List Input) (db : Db) :
    serveAll (first ++ second) db = serveAll second (serveAll first db) :=
  List.foldl_append

/-! ### Assignees -/

section Assignees

/-- **Assignees are stored users** in every state that interleaved requests
reach. -/
theorem assigneesStored_run {ι : Type} [DecidableEq ι] {db : Db} (holds : AssigneesStored db)
    (requests : ι → Request) (fuel : ι → ℕ) (turns : List (Turn ι ℕ)) :
    AssigneesStored (System.run db requests fuel turns).state := by
  refine Config.play_state_invariant AssigneesStored turns holds ?_ ?_
  · exact fun statement db holds => assigneesStored_exec statement holds
  · exact fun elapsed db holds => ⟨holds.drawn, holds.positive, holds.stored⟩

theorem assigneesStored_serveAll {db : Db} (holds : AssigneesStored db) (inputs : List Input) :
    AssigneesStored (serveAll inputs db) := by
  refine serveAll_kept AssigneesStored holds ?_ ?_ inputs
  · exact fun statement db holds => assigneesStored_exec statement holds
  · exact fun elapsed db holds => ⟨holds.drawn, holds.positive, holds.stored⟩

end Assignees

/-! ### One at a time is one of the schedules -/

/-- What a turn asks for when requests are served in full. -/
def Input.ofTurn {ι : Type} (requests : ι → Request) : Turn ι ℕ → Input
  | .call thread => .request (requests thread)
  | .environment elapsed => .advance elapsed

section Schedule

variable {ι : Type} [DecidableEq ι]

/-- Each request gets the bound of the database it starts in. -/
theorem exists_serialTurn_eq_serveAll (requests : ι → Request) (order : List (Turn ι ℕ))
    (once : order.Pairwise fun turn later => ∀ thread, turn = .call thread → later ≠ .call thread)
    (db : Db) : ∃ fuel : ι → ℕ,
      order.foldl (Config.serialTurn exec advance
        fun thread => (requests thread).program (fuel thread)) db =
          serveAll (order.map (Input.ofTurn requests)) db := by
  induction order generalizing db with
  | nil => exact ⟨fun _ => 0, rfl⟩
  | cons turn order ih =>
      obtain ⟨distinct, rest⟩ := List.pairwise_cons.mp once
      cases turn with
      | environment elapsed => exact ih rest (advance elapsed db)
      | call thread =>
          obtain ⟨fuel, same⟩ := ih rest (serve (requests thread) db).2
          refine ⟨Function.update fuel thread (walkFuel db), ?_⟩
          have first : Config.serialTurn exec advance (fun other => (requests other).program
              (Function.update fuel thread (walkFuel db) other)) db (.call thread) =
              (serve (requests thread) db).2 := by
            rw [Config.serialTurn, Function.update_self]
            rfl
          rw [List.foldl_cons, first, List.map_cons]
          refine Eq.trans ?_ same
          -- The bound of this request is not used by the later ones.
          apply List.foldl_ext
          intro state later member
          cases later with
          | environment elapsed => rfl
          | call other =>
              have different : other ≠ thread := by
                rintro rfl
                exact distinct _ member other rfl rfl
              rw [Config.serialTurn, Config.serialTurn, Function.update_of_ne different]

/-- **Requests that are served one at a time are interleaved requests**: some
schedule of them leads to the same database. -/
theorem serveAll_eq_run (requests : ι → Request) (order : List (Turn ι ℕ))
    (once : order.Pairwise fun turn later => ∀ thread, turn = .call thread → later ≠ .call thread)
    (db : Db) : ∃ fuel turns, (System.run db requests fuel turns).state =
      serveAll (order.map (Input.ofTurn requests)) db := by
  obtain ⟨fuel, same⟩ := exists_serialTurn_eq_serveAll requests order once db
  obtain ⟨turns, final⟩ := Config.play_serial (System.start db requests fuel) order once
  exact ⟨fuel, turns, final.trans same⟩

end Schedule

end Serve

end IssueFlow
