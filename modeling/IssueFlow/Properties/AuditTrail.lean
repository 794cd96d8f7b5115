import IssueFlow.Services.AuditTrail
import IssueFlow.System.Requests

/-!
# The audit trail only grows

What `GET /audit-logs` answers at one moment is still there at every later one, in
the same order, and all that is there besides are the entries that were made in
between. This holds for every combination of filters and in every interleaving of
requests. No entry is lost, changed or listed twice. Where a new entry stands
depends on its time, and nothing here depends on how times are drawn.

## Main definitions

* `entriesMade` — the entries that the statements of a run have made, in order
* `ExtendsAnswer` — how two answers to the same search are related

## Main results

* `audit_trail_append_only` — the search at two moments of a run
-/

namespace IssueFlow

open Store Semantics JavaScript

section Growth

variable [Postgres] {ι : Type}

/-- The entries that these events have made, in the order of their making; the
most recent event comes first. -/
def entriesMade (events : List (ι × Event Statement Db)) : List AuditInsert :=
  events.reverse.flatMap fun entry => madeEntries entry.2

theorem entriesMade_cons (event : ι × Event Statement Db)
    (events : List (ι × Event Statement Db)) :
    entriesMade (event :: events) = entriesMade events ++ madeEntries event.2 := by
  simp [entriesMade]

end Growth

/-- The answers to the same search at two moments: the later one lists what the
earlier one does, in its order, and besides it the entries that were made in
between, each once and the newest first. -/
structure ExtendsAnswer (earlier later : List AuditLogResponse) (made : List AuditInsert) :
    Prop where
  kept : earlier.Sublist later
  added : ∃ recent : List AuditLogResponse,
    later.Perm (earlier ++ recent) ∧ recent.map AuditLogResponse.toAuditInsert = made
  once : (later.map (·.id)).Nodup
  newestFirst : later.Pairwise fun entry next => next.timestamp ≤ entry.timestamp

/-- A search finds what was there, and what has been added. -/
theorem extendsAnswer_of_appended {made : List AuditInsert} {before after : Db}
    (appended : Appended made before after) (filters : AuditFilterQuery) :
    ∃ earlier later, AuditService.find filters before = .ok earlier ∧
      AuditService.find filters after = .ok later ∧
      ExtendsAnswer earlier later (made.filter fun entry => filters.admits entry) := by
  obtain ⟨rows, grown, rfl⟩ := appended
  obtain ⟨earlier, later, first, second, sublist, perm⟩ :=
    AuditRepository.find_sublist filters.toAuditFilters grown
  obtain ⟨ordered, once⟩ := AuditRepository.find_ordered second
  refine ⟨earlier.map toAuditLogResponse, later.map toAuditLogResponse,
    congrArg (Except.map _) first, congrArg (Except.map _) second, ?_⟩
  constructor
  · exact sublist.map _
  · -- What is new are the added rows that the filters admit.
    refine ⟨(rows.filter fun row => filters.admits row.toAuditInsert).map toAuditLogResponse,
      ?_, ?_⟩
    · rw [← List.map_append]
      exact perm.map _
    · rw [List.map_map, List.filter_map]
      rfl
  · rw [List.map_map]
    exact once
  · exact List.pairwise_map.mpr (ordered.imp NewestFirst.timestamp_le)

section Runs

variable [Postgres] [Bcrypt] [Unicode] {ι : Type} [DecidableEq ι]

omit [Bcrypt] [Unicode] in
/-- What is done in the rest of a schedule adds the entries it makes. -/
theorem appended_play (c : System ι) (turns : List (Turn ι ℕ)) :
    ∃ events, (Config.play exec advance turns c).trace = events ++ c.trace ∧
      Appended (entriesMade events) c.state (Config.play exec advance turns c).state := by
  refine Config.play_invariant (fun later => ∃ events, later.trace = events ++ c.trace ∧
    Appended (entriesMade events) c.state later.state) turns ⟨[], rfl, .of_rows_eq rfl⟩ ?_
  rintro later turn ⟨events, trace, appended⟩
  obtain pass | ⟨thread, op, next, -, -, sent⟩ | ⟨elapsed, -, changed⟩ :=
    Config.turn_cases exec advance later turn
  · rw [pass]
    exact ⟨events, trace, appended⟩
  · refine ⟨(thread, ⟨op, later.state⟩) :: events, ?_, ?_⟩
    · rw [sent, Config.send_trace, trace, List.cons_append]
    · rw [sent, entriesMade_cons]
      exact appended.trans (appended_madeEntries ⟨op, later.state⟩)
  · refine ⟨events, ?_, ?_⟩
    · rw [changed]
      exact trace
    · -- Time passes without an entry.
      rw [changed]
      obtain ⟨rows, grown, made⟩ := appended
      exact ⟨rows, grown, made⟩

/-- **The audit trail only grows.** Of two answers to the same search at two
moments of a run, the later one is the earlier one and the entries that the
statements in between have made. -/
theorem audit_trail_append_only (db : Db) (requests : ι → Request) (fuel : ι → ℕ)
    (first second : List (Turn ι ℕ)) :
    ∃ events, (System.run db requests fuel (first ++ second)).trace =
        events ++ (System.run db requests fuel first).trace ∧
      ∀ filters : AuditFilterQuery, ∃ earlier later,
        AuditService.find filters (System.run db requests fuel first).state = .ok earlier ∧
        AuditService.find filters (System.run db requests fuel (first ++ second)).state =
          .ok later ∧
        ExtendsAnswer earlier later
          ((entriesMade events).filter fun entry => filters.admits entry) := by
  obtain ⟨events, trace, appended⟩ := appended_play (System.run db requests fuel first) second
  rw [System.run, Config.play_append]
  exact ⟨events, trace, extendsAnswer_of_appended appended⟩

end Runs

end IssueFlow
