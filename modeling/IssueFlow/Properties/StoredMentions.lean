import IssueFlow.Database.Mentions
import IssueFlow.Database.UserTransitions
import IssueFlow.System.Sequential

/-!
# The mentions of a comment

The mentions of a comment are resolved by a read, and a later transaction
stores them together with the text. Between the two other requests may write
the comment, register users or delete them. The mentions that are stored are
always those the stored text was resolved to, without the users that have been
deleted since.

## Main definitions

* `resolvedIds` — the users a text mentions in a state
* `Resolved` — ids that were resolved by the statement a request has sent last
* `LastWrite` — the last write of a comment and the state its mentions were resolved in

## Main results

* `Request.outline_resolved` — texts are stored with the ids they were resolved to
* `stored_mentions` — the mentions of every stored comment, in every interleaving
-/

namespace IssueFlow

open Store Semantics JavaScript

/-! ### Texts and the users they mention -/

private theorem toLower_toLower (c : Char) : c.toLower.toLower = c.toLower := by
  unfold Char.toLower
  split_ifs with upper lowered
  · obtain ⟨first, last⟩ := upper
    obtain ⟨-, lowered⟩ := lowered
    rw [ge_iff_le, UInt32.le_iff_toNat_le] at first
    rw [UInt32.le_iff_toNat_le] at last
    rw [UInt32.le_iff_toNat_le, UInt32.toNat_add] at lowered
    have firstUpper : 'A'.val.toNat = 65 := rfl
    have lastUpper : 'Z'.val.toNat = 90 := rfl
    have distance : ('a'.val - 'A'.val).toNat = 32 := rfl
    omega
  all_goals rfl

/-- The names of a text are in lower case. -/
theorem toLower_of_mem_collectMentions {seen : List String} {cs : List Char}
    (lower : ∀ name ∈ seen, name.toLower = name) :
    ∀ name ∈ collectMentions seen cs, name.toLower = name := by
  induction seen, cs using collectMentions.induct with
  | case1 seen cs none =>
      rw [collectMentions]
      split
      · exact lower
      · next found => cases none.symm.trans found
  | case2 seen cs name rest found shorter username ih =>
      rw [collectMentions]
      split
      · exact lower
      · next other remaining found' =>
        obtain ⟨rfl, rfl⟩ := Prod.mk.inj (Option.some.inj (found.symm.trans found'))
        apply ih
        split_ifs
        · exact lower
        · intro other member
          rcases List.mem_append.mp member with old | new
          · exact lower other old
          · -- A name is put into lower case when it is collected.
            rw [List.mem_singleton.mp new]
            have lowered (text : String) : text.toLower = text.map Char.toLower := rfl
            simp only [username]
            rw [lowered, lowered, String.map_map]
            congr 1
            funext c
            exact toLower_toLower c

theorem map_toLower_parseMentions (content : String) :
    (parseMentions content).map String.toLower = parseMentions content := by
  refine (List.map_congr_left ?_).trans (List.map_id _)
  exact toLower_of_mem_collectMentions (by simp)

section Resolution

variable [Postgres]

/-- The ids of the users a text mentions. -/
def resolvedIds (content : String) (db : Db) : List ℕ :=
  ((UsersRepository.findByUsernamesLower (parseMentions content) db).map (·.id)).dedup

/-- A text without mentions. -/
theorem resolvedIds_of_isEmpty {content : String} (empty : (parseMentions content).isEmpty)
    (db : Db) : resolvedIds content db = [] := by
  have none : parseMentions content = [] := List.isEmpty_iff.mp empty
  simp [resolvedIds, none, UsersRepository.findByUsernamesLower]

theorem mem_resolvedIds {content : String} {db : Db} {id : ℕ} :
    id ∈ resolvedIds content db ↔
      ∃ user ∈ db.users.rows, user.id = id ∧
        Postgres.lower user.username ∈ parseMentions content := by
  rw [resolvedIds, List.mem_dedup, List.mem_map, UsersRepository.findByUsernamesLower]
  split_ifs with empty
  · have none : parseMentions content = [] := List.isEmpty_iff.mp empty
    simp [none]
  · rw [map_toLower_parseMentions]
    constructor
    · rintro ⟨user, found, same⟩
      obtain ⟨member, named⟩ := List.mem_filter.mp found
      exact ⟨user, member, same, of_decide_eq_true named⟩
    · rintro ⟨user, member, same, named⟩
      exact ⟨user, List.mem_filter.mpr ⟨member, decide_eq_true named⟩, same⟩

/-- Users that a text mentions are stored. -/
theorem all_resolvedIds (content : String) (db : Db) :
    ((resolvedIds content db).all fun id => (db.users.get? id).isSome) = true := by
  rw [List.all_eq_true]
  intro id member
  obtain ⟨user, stored, rfl, -⟩ := mem_resolvedIds.mp member
  exact Option.isSome_of_mem (Table.get?_key stored)

/-- The ids were resolved by the statement sent last, unless the text mentions
nobody. -/
def Resolved (events : List (Event Statement Db)) (content : String) (ids : List ℕ) : Prop :=
  ∃ db, ids = resolvedIds content db ∧ (parseMentions content ≠ [] →
    ∃ earlier, events =
      ⟨.select (.findUsersByUsernamesLower (parseMentions content)), db⟩ :: earlier)

/-- A text is stored with the ids it was resolved to. -/
def StoresResolved (events : List (Event Statement Db)) : Statement → Prop
  | .select _ => True
  | .command write =>
      ∀ content ids, write.mentions = some (content, ids) → Resolved events content ids

/-! ### Requests and their resolutions -/

section Outline

variable {α : Type} {ends : List (Event Statement Db) → Except Exception α → Prop}
  {events : List (Event Statement Db)}

/-- The resolution of a text and what follows it. -/
theorem outline_resolveMentions {content : String} {next : List ℕ → Service α}
    (rest : ∀ events ids, Resolved events content ids →
      (next ids).Outline exec StoresResolved ends events) :
    (CommentsService.resolveMentions content >>= next).Outline exec StoresResolved ends events := by
  unfold CommentsService.resolveMentions
  simp only
  split_ifs with empty
  · have none : parseMentions content = [] := List.isEmpty_iff.mp empty
    refine rest events [] ⟨Db.empty, ?_, fun some => absurd none some⟩
    simp [resolvedIds, none, UsersRepository.findByUsernamesLower]
  · exact ⟨trivial, fun db => rest _ _ ⟨db, rfl, fun _ => ⟨events, rfl⟩⟩⟩

/-- A write that stores a resolved text, and what follows it. -/
private theorem outline_stores {write : Command} {next : write.Rows → Service α}
    (stores : StoresResolved events (.command write))
    (rest : ∀ rows, (next rows).Only IsRead) :
    (execute write >>= next).Outline exec StoresResolved (fun _ _ => True) events := by
  refine (outline_execute _ _).mpr ⟨stores, fun db => ?_⟩
  cases (write.exec db).1 with
  | error error => trivial
  | ok rows =>
      refine (rest rows).outline ?_ _
      rintro events op ⟨read, rfl⟩
      trivial

end Outline

theorem CommentsService.create_outline (ticketId : ℕ) (dto : CreateCommentDto) (performedBy : ℕ) :
    (CommentsService.create ticketId dto performedBy).Outline exec StoresResolved
      (fun _ _ => True) [] := by
  apply outline_of_reads (fun _ _ => trivial) (TicketsService.getOrThrow_reads _)
  intro events ticket
  apply outline_of_reads (fun _ _ => trivial) (UsersService.findById_reads _)
  intro events author
  apply outline_resolveMentions
  intro events ids resolved
  refine outline_stores ?_ fun row => CommentsService.toResponse_reads row
  intro content ids' same
  obtain ⟨rfl, rfl⟩ := Prod.mk.inj (Option.some.inj same)
  exact resolved

theorem CommentsService.update_outline_resolved (ticketId commentId : ℕ) (dto : UpdateCommentDto)
    (performedBy : ℕ) :
    (CommentsService.update ticketId commentId dto performedBy).Outline exec StoresResolved
      (fun _ _ => True) [] := by
  unfold CommentsService.update
  split_ifs
  · trivial
  apply outline_of_reads (fun _ _ => trivial) (CommentsService.getOrThrow_reads _)
  intro events existing
  split_ifs
  · trivial
  apply outline_resolveMentions
  intro events ids resolved
  refine outline_stores ?_ fun found => ?_
  · intro content ids' same
    obtain ⟨rfl, rfl⟩ := Prod.mk.inj (Option.some.inj same)
    exact resolved
  · cases found with
    | none => exact (read_only _).bind fun _ => trivial
    | some updated => exact CommentsService.toResponse_reads updated

/-- A request that stores no text. -/
private theorem only_storesResolved {α : Type} {allowed : Command → Prop} {p : Service α}
    (only : p.Only (Writing allowed)) (nothing : ∀ write, allowed write → write.mentions = none) :
    p.Outline exec StoresResolved (fun _ _ => True) [] := by
  refine outline_of_only (fun _ _ => trivial) only ?_
  intro events write holds content ids stored
  rw [nothing write holds] at stored
  cases stored

/-- **Every request** stores a text with the ids it was resolved to. -/
theorem Request.outline_resolved [Bcrypt] [Unicode] (request : Request) (fuel : ℕ) :
    (request.program fuel).Outline exec StoresResolved (fun _ _ => True) [] := by
  -- An audit entry is no text with mentions.
  have logged {action : AuditAction} {entityType : AuditEntity} {write : Command}
      (logs : Logs action entityType write) : write.mentions = none := by
    obtain ⟨input, rfl, -⟩ := logs
    rfl
  have only := request.only fuel
  cases request with
  -- Only the two comment requests store a text.
  | createComment ticketId dto performedBy =>
      exact (Program.outline_map _ _ _).mpr (CommentsService.create_outline ..)
  | updateComment ticketId commentId dto performedBy =>
      exact (Program.outline_map _ _ _).mpr (CommentsService.update_outline_resolved ..)
  | login expiresInSeconds jti username password =>
      exact only_storesResolved only fun _ => False.elim
  | authenticate payload => exact only_storesResolved only fun _ => False.elim
  | logout payload =>
      refine only_storesResolved only ?_
      rintro _ ⟨jti, userId, expiresAt, rfl⟩
      rfl
  | createTicket dto performedBy =>
      refine only_storesResolved only ?_
      rintro _ (⟨_, rfl⟩ | logs | logs)
      · rfl
      · exact logged logs
      · exact logged logs
  | createUser | importTickets =>
      refine only_storesResolved only ?_
      rintro _ (⟨_, rfl⟩ | logs)
      · rfl
      · exact logged logs
  | uploadAttachment =>
      refine only_storesResolved only ?_
      rintro _ (⟨_, rfl, -⟩ | logs)
      · rfl
      · exact logged logs
  | escalate =>
      refine only_storesResolved only ?_
      rintro _ (⟨_, _, rfl⟩ | logs)
      · rfl
      · exact logged logs
  | _ =>
      refine only_storesResolved only ?_
      rintro _ (rfl | logs)
      · rfl
      · exact logged logs

end Resolution

/-! ### Stored comments -/

section Interleaved

variable [Postgres] [Bcrypt] [Unicode] {ι : Type} [DecidableEq ι]

/-- The last write of a comment is in the trace, and the statement its request
has sent just before it is the one that resolved the mentions in this state
(unless the text mentions nobody). -/
def LastWrite (trace : List (ι × Event Statement Db)) (comment : CommentRow) (resolved : Db) :
    Prop :=
  ∃ newer thread event older, trace = newer ++ (thread, event) :: older ∧
    storesComment comment.id event = true ∧
    (∀ later ∈ newer, storesComment comment.id later.2 = false) ∧
    (parseMentions comment.content ≠ [] → ∃ between first, older = between ++
        (thread,
          ⟨.select (.findUsersByUsernamesLower (parseMentions comment.content)), resolved⟩) ::
          first ∧
      ∀ entry ∈ between, entry.1 ≠ thread)

/-- The mentions of a comment are those its text was resolved to, as far as the
users still exist. -/
def MentionsOf (c : System ι) (comment : CommentRow) (resolved : Db) : Prop :=
  LastWrite c.trace comment resolved ∧
    (∀ user ∈ resolvedIds comment.content resolved, user < c.state.users.next) ∧
    ∀ user, user ∈ mentionedIn c.state comment.id ↔
      user ∈ resolvedIds comment.content resolved ∧ (c.state.users.get? user).isSome

omit [DecidableEq ι] [Postgres] [Bcrypt] [Unicode] in
/-- Another statement that does not write the comment comes last. -/
theorem LastWrite.cons {trace : List (ι × Event Statement Db)} {comment : CommentRow}
    {resolved : Db} {entry : ι × Event Statement Db}
    (silent : storesComment comment.id entry.2 = false)
    (last : LastWrite trace comment resolved) : LastWrite (entry :: trace) comment resolved := by
  obtain ⟨newer, thread, event, older, split, stores, later, resolution⟩ := last
  refine ⟨entry :: newer, thread, event, older, by rw [split, List.cons_append], stores, ?_,
    resolution⟩
  exact List.forall_mem_cons.mpr ⟨silent, later⟩

/-- All stored comments have the mentions of their last write. -/
def AllMentioned (c : System ι) : Prop :=
  MentionsStored c.state ∧
    ∀ comment ∈ c.state.comments.rows, ∃ resolved, MentionsOf c comment resolved

omit [Bcrypt] [Unicode] in
/-- A statement keeps the mentions of the comments it leaves in place. -/
theorem AllMentioned.send {c : System ι} {thread : ι} {op : Statement}
    {next : op.Ans → Service Response} (holds : AllMentioned c)
    (resolves : StoresResolved (c.history thread) op) :
    AllMentioned (c.send exec thread op next) := by
  obtain ⟨sound, mentions⟩ := holds
  refine ⟨(mentions_step op sound).mentionsStored sound, ?_⟩
  intro comment member
  have found : (exec op c.state).2.comments.get? comment.id = some comment :=
    Table.get?_key member
  have step := mentions_step op sound
  have sound' := step.mentionsStored sound
  have drawn := next_users_le op c.state
  rcases step.mentioned sound found with ⟨silent, stored, still⟩ | ⟨stores, write, rfl, supplied⟩
  · obtain ⟨resolved, last, known, same⟩ := mentions comment (Table.mem_of_get? stored)
    refine ⟨resolved, last.cons silent, fun user here => (known user here).trans_le drawn, ?_⟩
    intro user
    refine (still user).trans ?_
    rw [same]
    constructor
    · rintro ⟨⟨mentioned, -⟩, exists'⟩
      exact ⟨mentioned, exists'⟩
    · rintro ⟨mentioned, exists'⟩
      -- A key that was drawn before is not drawn again for another user.
      have before : (c.state.users.get? user).isSome := by
        rcases user_stored_or_fresh exists' with stored | fresh
        · exact stored
        · exact absurd (known user mentioned) (not_lt.mpr fresh)
      exact ⟨⟨mentioned, before⟩, exists'⟩
  · obtain ⟨resolved, ids, resolution⟩ := resolves _ _ supplied
    have existing : ∀ user ∈ resolvedIds comment.content resolved,
        ((exec (.command write) c.state).2.users.get? user).isSome := by
      intro user mentioned
      rw [← ids] at mentioned
      exact MentionsStep.isSome_of_mem_mentionedIn sound' mentioned
    refine ⟨resolved, ⟨[], thread, _, c.trace, rfl, stores, by simp, ?_⟩, ?_, ?_⟩
    · intro some
      obtain ⟨earlier, events⟩ := resolution some
      exact Config.history_eq_cons events
    · intro user mentioned
      obtain ⟨row, stored⟩ := Option.isSome_iff_exists.mp (existing user mentioned)
      exact Table.lt_next_of_get? stored
    · intro user
      show user ∈ mentionedIn (exec (.command write) c.state).2 comment.id ↔ _
      rw [ids]
      exact (and_iff_left_of_imp (existing user)).symm

/-- **The mentions of every stored comment** are exactly the users that existed
when the mentions of its last write were resolved, still exist, and whose name
in lower case is mentioned in its text. No user appears twice, and no mention
row has lost its comment or its user. -/
theorem stored_mentions (requests : ι → Request) (fuel : ι → ℕ) (turns : List (Turn ι ℕ)) :
    let c := System.run Db.empty requests fuel turns
    (∀ comment ∈ c.state.comments.rows, ∃ resolved, LastWrite c.trace comment resolved ∧
      ∀ user, user ∈ mentionedIn c.state comment.id ↔
        (∃ row ∈ resolved.users.rows, row.id = user ∧
          Postgres.lower row.username ∈ parseMentions comment.content) ∧
        (c.state.users.get? user).isSome) ∧
    (∀ id, (mentionedIn c.state id).Nodup) ∧
    ∀ row ∈ c.state.commentMentions, (c.state.comments.get? row.commentId).isSome ∧
      (c.state.users.get? row.mentionedUserId).isSome := by
  have outlined : (System.start Db.empty requests fuel).Outlined exec (fun _ => StoresResolved)
      fun _ _ _ => True := fun thread => Request.outline_resolved (requests thread) (fuel thread)
  -- Nothing is stored at the start, every statement keeps the invariant, and so does time.
  have holds : AllMentioned (System.run Db.empty requests fuel turns) := by
    apply outlined.play_invariant AllMentioned
    · refine ⟨⟨?_, ?_, fun id => List.nodup_nil⟩, ?_⟩
      all_goals
        intro row member
        cases member
    · intro c thread op next holds _ resolves
      exact holds.send resolves
    · rintro c elapsed ⟨sound, mentions⟩
      exact ⟨⟨sound.comment, sound.user, sound.once⟩, mentions⟩
  obtain ⟨sound, mentions⟩ := holds
  refine ⟨fun comment member => ?_, sound.once, fun row member => ⟨sound.comment row member,
    sound.user row member⟩⟩
  obtain ⟨resolved, last, -, same⟩ := mentions comment member
  refine ⟨resolved, last, fun user => (same user).trans ?_⟩
  rw [mem_resolvedIds]

end Interleaved

/-! ### Requests one at a time -/

/-- The mentions of a database that requests have made. -/
theorem mentionsStored_serveAll [Postgres] [Bcrypt] [Unicode] (inputs : List Input) :
    MentionsStored (serveAll inputs Db.empty) := by
  apply serveAll_kept MentionsStored .empty
  · intro statement db sound
    exact (mentions_step statement sound).mentionsStored sound
  · rintro elapsed db ⟨comment, user, once⟩
    exact ⟨comment, user, once⟩

end IssueFlow
