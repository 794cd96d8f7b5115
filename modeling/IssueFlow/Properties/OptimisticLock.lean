import IssueFlow.Semantics.Versioning
import IssueFlow.System.Outlines

/-!
# Optimistic locking

Tickets and comments are versioned rows: a PATCH, and for tickets an escalation,
raises the version by one, and nothing else touches it. Starting from an empty
database the version of a row counts these writes, no two PATCHes succeed with
the same version, and a PATCH that fails has changed nothing.

## Main definitions

* `ticketVersions`, `commentVersions` — tickets and comments as versioned rows
* `LosesNoUpdate` — what optimistic locking promises of a run

## Main results

* `loses_no_update` — every run keeps the promise, for tickets and for comments
-/

namespace IssueFlow

open Store Semantics JavaScript

section Rows

variable [Postgres]

/-! ### Tickets -/

/-- Tickets as versioned rows. -/
def ticketVersions : VersionedRows exec advance where
  version db id := (db.tickets.get? id).map (·.version)
  next db := db.tickets.next
  writes := writesTicket
  fresh db id beyond := by rw [Table.get?_of_next_le beyond, Option.map_none]
  drawn := next_tickets_le
  created statement db id v absent stored := by
    obtain ⟨row, found, rfl⟩ := Option.map_eq_some_iff.mp stored
    obtain ⟨input, due, -, rfl, rfl⟩ := ticket_created (Option.map_eq_none_iff.mp absent) found
    exact ⟨rfl, le_rfl⟩
  stepped statement db id v v' stored stored' := by
    obtain ⟨row, found, rfl⟩ := Option.map_eq_some_iff.mp stored
    obtain ⟨row', found', rfl⟩ := Option.map_eq_some_iff.mp stored'
    obtain ⟨after, foundAfter, transition⟩ := ticket_transition statement found
    obtain rfl := Option.some.inj (found'.symm.trans foundAfter)
    obtain rfl : row.id = id := Table.key_of_get? found
    exact transition.version
  present statement db id writes absent := by
    obtain ⟨row, stored⟩ := stored_of_writesTicket writes
    simp [stored] at absent
  env_version _ _ := rfl
  env_next _ _ := rfl

/-! ### Comments -/

/-- Comments as versioned rows. -/
def commentVersions : VersionedRows exec advance where
  version db id := (db.comments.get? id).map (·.version)
  next db := db.comments.next
  writes := writesComment
  fresh db id beyond := by rw [Table.get?_of_next_le beyond, Option.map_none]
  drawn statement db := by
    cases comments_transition statement db with
    | kept same drawn silent => exact drawn
    | inserted create keyed version executed silent =>
        rw [executed]
        exact Nat.le_succ _
    | written row new stored key version executed writes => rw [executed, Table.next_set]
    | removed target executed silent => rw [executed]; rfl
  created statement db id v absent stored := by
    obtain ⟨row, found, rfl⟩ := Option.map_eq_some_iff.mp stored
    exact (comments_transition statement db).created (Option.map_eq_none_iff.mp absent) found
  stepped statement db id v v' stored stored' := by
    obtain ⟨row, found, rfl⟩ := Option.map_eq_some_iff.mp stored
    obtain ⟨row', found', rfl⟩ := Option.map_eq_some_iff.mp stored'
    exact (comments_transition statement db).version found found'
  present statement db id writes absent := by
    obtain ⟨row, stored⟩ := (comments_transition statement db).stored writes
    simp [stored] at absent
  env_version _ _ := rfl
  env_next _ _ := rfl

/-! ### PATCHes -/

/-- A PATCH of the ticket that carries the version. -/
def IsTicketPatchRequest (id : ℕ) (version : Option ℕ) : Request → Prop
  | .updateTicket target dto _ => target = id ∧ dto.version.toOption = version
  | _ => False

/-- A PATCH of the comment that carries the version. -/
def IsCommentPatchRequest (id : ℕ) (version : Option ℕ) : Request → Prop
  | .updateComment _ target dto _ => target = id ∧ dto.version.toOption = version
  | _ => False

/-- The event writes the row over this version. -/
def WroteOver (rows : VersionedRows exec advance) (id : ℕ) (version : Option ℕ)
    (event : Event Statement Db) : Prop :=
  rows.writes id event = true ∧ rows.version event.state id = version

theorem IsTicketPatch.wroteOver {id : ℕ} {version : Option ℕ} {event : Event Statement Db}
    (patch : IsTicketPatch id version event) : WroteOver ticketVersions id version event := by
  obtain ⟨writes, input, resetOverdueFlag, sent⟩ := patch
  obtain ⟨statement, db⟩ := event
  obtain rfl : statement = _ := sent
  refine ⟨writes, ?_⟩
  rcases updateWithVersionCheck_cases id version input resetOverdueFlag db with
    ⟨silent, -⟩ | ⟨row, due, stored, -, expected, -, -⟩
  · simp [writesTicket, silent] at writes
  · simp [ticketVersions, stored, expected]

theorem IsCommentPatch.wroteOver {id : ℕ} {version : Option ℕ} {event : Event Statement Db}
    (patch : IsCommentPatch id version event) : WroteOver commentVersions id version event := by
  obtain ⟨writes, content, mentionedUserIds, onCommitting, sent⟩ := patch
  obtain ⟨statement, db⟩ := event
  obtain rfl : statement = _ := sent
  refine ⟨writes, ?_⟩
  rcases updateContentAndMentions_cases id version content mentionedUserIds onCommitting db with
    ⟨silent, -⟩ | ⟨row, stored, expected, -, -⟩
  · simp [writesComment, silent] at writes
  · simp [commentVersions, stored, expected]

end Rows

section Interleaved

variable [Postgres] [Bcrypt] [Unicode] {ι : Type} [DecidableEq ι]

/-- What optimistic locking promises of a run from the empty database. -/
structure LosesNoUpdate (rows : VersionedRows exec advance)
    (isPatch : ℕ → Option ℕ → Request → Prop) (requests : ι → Request) (fuel : ι → ℕ)
    (turns : List (Turn ι ℕ)) : Prop where
  /-- A version is one more than the number of writes. -/
  counted : ∀ id v, rows.version (System.run Db.empty requests fuel turns).state id = some v →
    v = 1 + rows.count id (System.run Db.empty requests fuel turns).trace
  /-- A version never decreases. -/
  ascending : ∀ first, first <+: turns → ∀ id v v',
    rows.version (System.run Db.empty requests fuel first).state id = some v →
    rows.version (System.run Db.empty requests fuel turns).state id = some v' → v ≤ v'
  /-- At most one PATCH succeeds with a version. -/
  once : ∀ first second id v, isPatch id (some v) (requests first) →
    isPatch id (some v) (requests second) →
    (System.run Db.empty requests fuel turns).Succeeded first →
    (System.run Db.empty requests fuel turns).Succeeded second → first = second
  /-- A PATCH that has not written when the row is past its version fails. -/
  stale : ∀ first, first <+: turns → ∀ thread id v v', isPatch id (some v) (requests thread) →
    rows.version (System.run Db.empty requests fuel first).state id = some v' → v < v' →
    (∀ event ∈ (System.run Db.empty requests fuel first).history thread,
      rows.writes id event = false) →
    ¬ (System.run Db.empty requests fuel turns).Succeeded thread
  /-- A PATCH that fails has changed nothing. -/
  untouched : ∀ thread id version, isPatch id version (requests thread) →
    (System.run Db.empty requests fuel turns).Failed thread →
    Silent ((System.run Db.empty requests fuel turns).history thread)

/-- Versioned rows whose PATCHes write once or change nothing lose no update. -/
theorem losesNoUpdate_of_ends {rows : VersionedRows exec advance}
    {isPatch : ℕ → Option ℕ → Request → Prop} {requests : ι → Request} {fuel : ι → ℕ}
    (empty : ∀ id, rows.version Db.empty id = none)
    (ends : ∀ turns thread id version result, isPatch id version (requests thread) →
      (System.run Db.empty requests fuel turns).programs thread = .done result →
      AllOrNothing (WroteOver rows id version)
        ((System.run Db.empty requests fuel turns).history thread) result)
    (turns : List (Turn ι ℕ)) : LosesNoUpdate rows isPatch requests fuel turns := by
  have written {thread : ι} {id : ℕ} {version : Option ℕ}
      (patch : isPatch id version (requests thread))
      (succeeded : (System.run Db.empty requests fuel turns).Succeeded thread) :
      ∃ event, (thread, event) ∈ (System.run Db.empty requests fuel turns).trace ∧
        WroteOver rows id version event := by
    obtain ⟨value, finished⟩ := succeeded
    obtain ⟨event, member, wrote⟩ :=
      (ends turns thread id version _ patch finished).success value rfl
    exact ⟨event, Config.mem_history.mp member, wrote⟩
  constructor
  · exact fun id v stored => VersionedRows.version_eq_count empty turns stored
  · rintro first ⟨second, rfl⟩ id v v' stored stored'
    rw [VersionedRows.version_eq_count empty first stored,
      VersionedRows.version_eq_count empty _ stored']
    exact Nat.add_le_add_left (rows.count_le (Config.trace_suffix _ _ _ first second)) 1
  · intro first second id v patch patch' succeeded succeeded'
    obtain ⟨event, executed, writes, found⟩ := written patch succeeded
    obtain ⟨event', executed', writes', found'⟩ := written patch' succeeded'
    have same :=
      VersionedRows.write_unique empty turns executed executed' writes writes' found found'
    exact congrArg Prod.fst same
  · rintro first ⟨second, rfl⟩ thread id v v' patch stored passed unwritten succeeded
    obtain ⟨event, executed, writes, found⟩ := written patch succeeded
    obtain ⟨recent, split⟩ :=
      Config.trace_suffix exec advance (System.start Db.empty requests fuel) first second
    rw [← split] at executed
    -- The write is not among the earlier statements, so it comes after them.
    rcases List.mem_append.mp executed with later | earlier
    · obtain ⟨newest, between, rfl⟩ := List.append_of_mem later
      have whole : (System.run Db.empty requests fuel (first ++ second)).trace =
          newest ++ (thread, event) ::
            (between ++ (System.run Db.empty requests fuel first).trace) := by
        rw [← split, List.append_assoc, List.cons_append]
      have at_write : v = 1 + rows.count id
          (between ++ (System.run Db.empty requests fuel first).trace) :=
        VersionedRows.version_at_write empty (first ++ second) whole found
      have at_first : v' = 1 + rows.count id (System.run Db.empty requests fuel first).trace :=
        VersionedRows.version_eq_count empty first stored
      rw [VersionedRows.count_append] at at_write
      omega
    · have silent := unwritten event (Config.mem_history.mpr earlier)
      rw [writes] at silent
      cases silent
  · rintro thread id version patch ⟨exception, finished⟩
    exact (ends turns thread id version _ patch finished).failure exception rfl

/-- **Optimistic locking loses no update**, of tickets or of comments, over every
schedule of any requests. -/
theorem loses_no_update (requests : ι → Request) (fuel : ι → ℕ) (turns : List (Turn ι ℕ)) :
    LosesNoUpdate ticketVersions IsTicketPatchRequest requests fuel turns ∧
      LosesNoUpdate commentVersions IsCommentPatchRequest requests fuel turns := by
  constructor
  · refine losesNoUpdate_of_ends (fun _ => rfl) ?_ turns
    intro turns thread id version result patch finished
    have ends := (System.outlined Db.empty requests fuel turns).of_done finished
    -- Only the request in question is a patch of this table.
    cases request : requests thread with
    | updateTicket target dto performedBy =>
        rw [request] at patch ends
        obtain ⟨rfl, rfl⟩ := patch
        exact AllOrNothing.mono (fun _ => IsTicketPatch.wroteOver) ends
    | _ =>
        rw [request] at patch
        exact patch.elim
  · refine losesNoUpdate_of_ends (fun _ => rfl) ?_ turns
    intro turns thread id version result patch finished
    have ends := (System.outlined Db.empty requests fuel turns).of_done finished
    cases request : requests thread with
    | updateComment ticketId target dto performedBy =>
        rw [request] at patch ends
        obtain ⟨rfl, rfl⟩ := patch
        exact AllOrNothing.mono (fun _ => IsCommentPatch.wroteOver) ends
    | _ =>
        rw [request] at patch
        exact patch.elim

end Interleaved

end IssueFlow
