import IssueFlow.Database.Records
import IssueFlow.Semantics.Noninterference

/-!
# Deleted records

Whether an entity is stored and deleted, and pairs of states that differ only in
what belongs to one deleted ticket. Most reads do not see such a difference:
they filter by `deleted_at`, or they are about another ticket.

## Main definitions

* `Db.isLive`, `Db.isDeleted` — the states an entity can be in
* `SameApartFrom` — states that differ in the data of one deleted ticket
* `Query.Overlooks` — the reads that do not see the ticket

## Main results

* `Query.eval_of_overlooks` — they are answered alike
* `SameApartFrom.findCommentsMentioning`, `SameApartFrom.countMentions` — so are the mentions
  of a user whom no comment of the ticket mentions
-/

namespace IssueFlow

open Store Semantics

/-- Is the entity stored, and not deleted? -/
def Db.isLive (entity : AuditEntity) (id : ℕ) (db : Db) : Bool :=
  match entity with
  | .user => (db.users.get? id).isSome
  | .project => (ProjectsRepository.findById id db).isSome
  | .ticket => (TicketsRepository.findById id db).isSome
  | .comment => (db.comments.get? id).isSome
  | .attachment => (db.attachments.get? id).isSome
  | .dependency => false

/-- Is the entity stored with `deleted_at` set? -/
def Db.isDeleted (entity : AuditEntity) (id : ℕ) (db : Db) : Bool :=
  match entity with
  | .project => (db.projects.get? id).any fun row => !row.isLive
  | .ticket => (db.tickets.get? id).any fun row => !row.isLive
  | _ => false

/-- The mention rows of all other comments. -/
def mentionsOff (ticketId : ℕ) (db : Db) : List MentionRow :=
  db.commentMentions.filter fun mention =>
    !(CommentsRepository.findByTicket ticketId db).any fun comment =>
      comment.id = mention.commentId

/-- The ticket is deleted in both states, and everything that is not about it is
the same. The audit log is left out, as no standard read shows it. -/
structure SameApartFrom (id : ℕ) (first second : Db) : Prop where
  deletedFirst : first.isDeleted .ticket id = true
  deletedSecond : second.isDeleted .ticket id = true
  users : second.users.rows = first.users.rows
  projects : second.projects.rows = first.projects.rows
  tickets : (second.tickets.rows.filter fun row => row.id ≠ id) =
    first.tickets.rows.filter fun row => row.id ≠ id
  ticketDependencies :
    (second.ticketDependencies.filter fun row => row.ticketId ≠ id && row.blockerId ≠ id) =
      first.ticketDependencies.filter fun row => row.ticketId ≠ id && row.blockerId ≠ id
  comments : (second.comments.rows.filter fun row => row.ticketId ≠ id) =
    first.comments.rows.filter fun row => row.ticketId ≠ id
  commentMentions : mentionsOff id second = mentionsOff id first
  attachments : (second.attachments.rows.filter fun row => row.ticketId ≠ id) =
    first.attachments.rows.filter fun row => row.ticketId ≠ id
  tokenDenylist : second.tokenDenylist = first.tokenDenylist
  now : second.now = first.now

/-- The reads that do not see anything of the ticket while it is deleted. -/
def Query.Overlooks (id : ℕ) : Query → Prop
  | findAllUsers | findUserById _ | findAllProjects | findProjectById _ => True
  | findTicketsByProject _ | findAllTickets | findTicketById _ | workloadByProject _ => True
  | listBlockers ticketId | findCommentsByTicket ticketId | findAttachmentsByTicket ticketId =>
      ticketId ≠ id
  | _ => False

variable {id : ℕ} {db first second : Db}

/-- A live ticket is not the deleted one. -/
theorem ne_of_isDeleted (deleted : db.isDeleted .ticket id = true) {row : TicketRow}
    (member : row ∈ db.tickets.rows) (live : row.isLive = true) : row.id ≠ id := by
  rintro rfl
  have found : db.tickets.get? row.id = some row := Table.get?_key member
  rw [Db.isDeleted, found] at deleted
  simp [live] at deleted

/-- The deleted ticket is not found. -/
theorem findById_of_isDeleted (deleted : db.isDeleted .ticket id = true) :
    TicketsRepository.findById id db = none := by
  rw [TicketsRepository.findById, Option.filter_eq_none_iff]
  intro row found live
  exact ne_of_isDeleted deleted (Table.mem_of_get? found) live (Table.key_of_get? found)

/-- A mention row on a comment of the ticket. -/
theorem mem_mentionsOn {mention : MentionRow} {comment : CommentRow}
    (stored : mention ∈ db.commentMentions)
    (member : comment ∈ CommentsRepository.findByTicket id db)
    (key : comment.id = mention.commentId) : mention ∈ mentionsOn id db := by
  rw [mentionsOn, List.mem_filter, List.any_eq_true]
  exact ⟨stored, comment, member, decide_eq_true key⟩

/-- A comment of another ticket has another key. -/
theorem ne_of_mem_findByTicket {comment onTicket : CommentRow}
    (stored : comment ∈ db.comments.rows) (other : comment.ticketId ≠ id)
    (member : onTicket ∈ CommentsRepository.findByTicket id db) : onTicket.id ≠ comment.id := by
  intro key
  obtain ⟨memberStored, own⟩ := List.mem_filter.mp member
  rw [Table.eq_of_key_eq memberStored stored key] at own
  exact other (of_decide_eq_true own)

/-- A comment that mentions somebody whom no comment of the ticket mentions. -/
theorem ne_of_mentions {userId : ℕ}
    (unmentioned : ∀ mention ∈ mentionsOn id db, mention.mentionedUserId ≠ userId)
    {comment : CommentRow} (stored : comment ∈ db.comments.rows)
    (named : CommentsRepository.mentions db userId comment = true) : comment.ticketId ≠ id := by
  intro own
  obtain ⟨mention, member, holds⟩ := List.any_eq_true.mp named
  simp only [Bool.and_eq_true, decide_eq_true_eq] at holds
  have onTicket : comment ∈ CommentsRepository.findByTicket id db :=
    List.mem_filter.mpr ⟨stored, decide_eq_true own⟩
  exact unmentioned mention (mem_mentionsOn member onTicket holds.1.symm) holds.2

namespace SameApartFrom

variable (same : SameApartFrom id first second)
include same

theorem get?_users (userId : ℕ) : second.users.get? userId = first.users.get? userId :=
  Table.get?_congr same.users userId

theorem get?_projects (projectId : ℕ) :
    second.projects.get? projectId = first.projects.get? projectId :=
  Table.get?_congr same.projects projectId

/-- Conditions that only live tickets satisfy find the same rows. -/
theorem filter_tickets {p p' : TicketRow → Bool} (live : ∀ row, p row = true → row.isLive = true)
    (live' : ∀ row, p' row = true → row.isLive = true)
    (agree : ∀ row, row.id ≠ id → p' row = p row) :
    second.tickets.rows.filter p' = first.tickets.rows.filter p := by
  refine Table.filter_of_visible same.tickets ?_ ?_ ?_
  · intro row member holds
    exact decide_eq_true (ne_of_isDeleted same.deletedFirst member (live row holds))
  · intro row member holds
    exact decide_eq_true (ne_of_isDeleted same.deletedSecond member (live' row holds))
  · intro row member
    exact agree row (of_decide_eq_true (List.mem_filter.mp member).2)

theorem findById_tickets (ticketId : ℕ) :
    TicketsRepository.findById ticketId second = TicketsRepository.findById ticketId first := by
  have head (db : Db) : TicketsRepository.findById ticketId db =
      (db.tickets.rows.filter fun row => row.id = ticketId && row.isLive).head? := by
    rw [List.head?_filter, TicketsRepository.findById, ← Table.find?_key_and]
    rfl
  rw [head, head]
  apply congrArg List.head?
  exact same.filter_tickets (fun row holds => (Bool.and_eq_true_iff.mp holds).2)
    (fun row holds => (Bool.and_eq_true_iff.mp holds).2) fun row _ => rfl

/-- A ticket that is not the deleted one has the same live blockers. -/
theorem blockedBy_iff {ticketId blockerId : ℕ} (tail : ticketId ≠ id) (head : blockerId ≠ id) :
    second.blockedBy ticketId blockerId ↔ first.blockedBy ticketId blockerId := by
  have kept (db : Db) : db.blockedBy ticketId blockerId ↔
      ∃ row ∈ db.ticketDependencies.filter fun row => row.ticketId ≠ id && row.blockerId ≠ id,
        row.ticketId = ticketId ∧ row.blockerId = blockerId := by
    constructor
    · rintro ⟨row, member, rfl, rfl⟩
      exact ⟨row, List.mem_filter.mpr ⟨member, by simp [tail, head]⟩, rfl, rfl⟩
    · rintro ⟨row, member, ends⟩
      exact ⟨row, (List.mem_filter.mp member).1, ends⟩
  rw [kept, kept, same.ticketDependencies]

theorem workloadByProject (projectId : ℕ) :
    TicketsRepository.workloadByProject projectId second =
      TicketsRepository.workloadByProject projectId first := by
  have opened (user : UserRow) : TicketsRepository.openTickets projectId second user =
      TicketsRepository.openTickets projectId first user :=
    same.filter_tickets (fun row holds => (Bool.and_eq_true_iff.mp holds).2)
      (fun row holds => (Bool.and_eq_true_iff.mp holds).2) fun row _ => rfl
  simp only [TicketsRepository.workloadByProject, opened, same.users]

theorem listBlockers {ticketId : ℕ} (other : ticketId ≠ id) :
    DependenciesRepository.listBlockers ticketId second =
      DependenciesRepository.listBlockers ticketId first := by
  refine congrArg (List.map _) (same.filter_tickets ?_ ?_ ?_)
  · intro row holds
    exact (Bool.and_eq_true_iff.mp holds).2
  · intro row holds
    exact (Bool.and_eq_true_iff.mp holds).2
  · intro row head
    rw [decide_eq_decide.mpr (same.blockedBy_iff other head)]

theorem findByTicket_comments {ticketId : ℕ} (other : ticketId ≠ id) :
    CommentsRepository.findByTicket ticketId second =
      CommentsRepository.findByTicket ticketId first := by
  refine Table.filter_of_visible same.comments ?_ ?_ fun row _ => rfl
  · intro row _ own
    exact decide_eq_true (of_decide_eq_true own ▸ other)
  · intro row _ own
    exact decide_eq_true (of_decide_eq_true own ▸ other)

theorem findByTicket_attachments {ticketId : ℕ} (other : ticketId ≠ id) :
    AttachmentsRepository.findByTicket ticketId second =
      AttachmentsRepository.findByTicket ticketId first := by
  refine Table.filter_of_visible same.attachments ?_ ?_ fun row _ => rfl
  · intro row _ own
    exact decide_eq_true (of_decide_eq_true own ▸ other)
  · intro row _ own
    exact decide_eq_true (of_decide_eq_true own ▸ other)

/-! ### Mentions on other comments -/

/-- Conditions that no mention on the ticket satisfies find the same rows. -/
theorem filter_mentions {p : MentionRow → Bool}
    (off : ∀ mention ∈ first.commentMentions, p mention = true →
      ∀ comment ∈ CommentsRepository.findByTicket id first, comment.id ≠ mention.commentId)
    (off' : ∀ mention ∈ second.commentMentions, p mention = true →
      ∀ comment ∈ CommentsRepository.findByTicket id second, comment.id ≠ mention.commentId) :
    second.commentMentions.filter p = first.commentMentions.filter p := by
  have visible {db : Db} {mention : MentionRow}
      (elsewhere : ∀ comment ∈ CommentsRepository.findByTicket id db,
        comment.id ≠ mention.commentId) :
      (!(CommentsRepository.findByTicket id db).any fun comment =>
        comment.id = mention.commentId) = true := by
    rw [Bool.not_eq_true', List.any_eq_false]
    intro comment member
    simpa using elsewhere comment member
  refine Table.filter_of_visible same.commentMentions ?_ ?_ fun _ _ => rfl
  · intro mention member holds
    exact visible (off mention member holds)
  · intro mention member holds
    exact visible (off' mention member holds)

theorem findMentionedUsersForComments {ids : List ℕ}
    (off : ∀ comment ∈ CommentsRepository.findByTicket id first, comment.id ∉ ids)
    (off' : ∀ comment ∈ CommentsRepository.findByTicket id second, comment.id ∉ ids) :
    CommentsRepository.findMentionedUsersForComments ids second =
      CommentsRepository.findMentionedUsersForComments ids first := by
  have mentions : (second.commentMentions.filter fun row => row.commentId ∈ ids) =
      first.commentMentions.filter fun row => row.commentId ∈ ids := by
    apply same.filter_mentions
    · intro mention _ listed comment member key
      exact off comment member (key ▸ of_decide_eq_true listed)
    · intro mention _ listed comment member key
      exact off' comment member (key ▸ of_decide_eq_true listed)
  simp only [CommentsRepository.findMentionedUsersForComments, mentions, same.get?_users]

theorem countMentions {userId : ℕ}
    (unmentioned : ∀ mention ∈ mentionsOn id first, mention.mentionedUserId ≠ userId)
    (unmentioned' : ∀ mention ∈ mentionsOn id second, mention.mentionedUserId ≠ userId) :
    CommentsRepository.countMentions userId second =
      CommentsRepository.countMentions userId first := by
  refine congrArg List.length (same.filter_mentions ?_ ?_)
  · intro mention stored named comment member key
    exact unmentioned mention (mem_mentionsOn stored member key) (of_decide_eq_true named)
  · intro mention stored named comment member key
    exact unmentioned' mention (mem_mentionsOn stored member key) (of_decide_eq_true named)

/-- The comments of other tickets are stored in both states. -/
theorem mem_comments {comment : CommentRow} (stored : comment ∈ first.comments.rows)
    (other : comment.ticketId ≠ id) : comment ∈ second.comments.rows := by
  have visible : comment ∈ first.comments.rows.filter fun row => row.ticketId ≠ id :=
    List.mem_filter.mpr ⟨stored, decide_eq_true other⟩
  rw [← same.comments] at visible
  exact (List.mem_filter.mp visible).1

/-- Whether a user is mentioned in a comment of another ticket. -/
theorem mentions_iff {comment : CommentRow} (stored : comment ∈ first.comments.rows)
    (other : comment.ticketId ≠ id) (userId : ℕ) :
    CommentsRepository.mentions second userId comment =
      CommentsRepository.mentions first userId comment := by
  have stored' := same.mem_comments stored other
  have rows : (second.commentMentions.filter fun row =>
      row.commentId = comment.id && row.mentionedUserId = userId) =
      first.commentMentions.filter fun row =>
        row.commentId = comment.id && row.mentionedUserId = userId := by
    apply same.filter_mentions
    · intro mention _ holds onTicket member key
      obtain ⟨here, -⟩ := Bool.and_eq_true_iff.mp holds
      exact ne_of_mem_findByTicket stored other member (key.trans (of_decide_eq_true here))
    · intro mention _ holds onTicket member key
      obtain ⟨here, -⟩ := Bool.and_eq_true_iff.mp holds
      exact ne_of_mem_findByTicket stored' other member (key.trans (of_decide_eq_true here))
  have found (db : Db) : CommentsRepository.mentions db userId comment = true ↔
      (db.commentMentions.filter fun row =>
        row.commentId = comment.id && row.mentionedUserId = userId) ≠ [] := by
    rw [CommentsRepository.mentions, List.any_eq_true, Ne, List.filter_eq_nil_iff]
    simp only [not_forall, not_not, exists_prop]
  rw [Bool.eq_iff_iff, found, found, rows]

theorem findCommentsMentioning {userId : ℕ}
    (unmentioned : ∀ mention ∈ mentionsOn id first, mention.mentionedUserId ≠ userId)
    (unmentioned' : ∀ mention ∈ mentionsOn id second, mention.mentionedUserId ≠ userId)
    (pageSize offset : ℕ) :
    CommentsRepository.findCommentsMentioning userId pageSize offset second =
      CommentsRepository.findCommentsMentioning userId pageSize offset first := by
  have rows : second.comments.rows.filter (CommentsRepository.mentions second userId) =
      first.comments.rows.filter (CommentsRepository.mentions first userId) := by
    refine Table.filter_of_visible same.comments ?_ ?_ ?_
    · intro comment stored named
      exact decide_eq_true (ne_of_mentions unmentioned stored named)
    · intro comment stored named
      exact decide_eq_true (ne_of_mentions unmentioned' stored named)
    · intro comment member
      obtain ⟨stored, other⟩ := List.mem_filter.mp member
      exact same.mentions_iff stored (of_decide_eq_true other) userId
  simp only [CommentsRepository.findCommentsMentioning, rows]

end SameApartFrom

variable [Postgres]

/-- **Reads that overlook the ticket** are answered alike. -/
theorem Query.eval_of_overlooks (same : SameApartFrom id first second) {read : Query}
    (overlooks : read.Overlooks id) : read.eval second = read.eval first := by
  cases read with
  | findAllUsers => exact same.users
  | findUserById userId =>
      cases userId with
      | none => rfl
      | some userId => exact same.get?_users userId
  | findAllProjects => exact congrArg (List.filter _) same.projects
  | findProjectById projectId => exact congrArg (Option.filter _) (same.get?_projects projectId)
  | findTicketsByProject projectId =>
      exact same.filter_tickets (fun row holds => (Bool.and_eq_true_iff.mp holds).2)
        (fun row holds => (Bool.and_eq_true_iff.mp holds).2) fun row _ => rfl
  | findAllTickets =>
      exact same.filter_tickets (fun _ live => live) (fun _ live => live) fun _ _ => rfl
  | findTicketById ticketId => exact same.findById_tickets ticketId
  | workloadByProject projectId => exact same.workloadByProject projectId
  | listBlockers ticketId => exact same.listBlockers overlooks
  | findCommentsByTicket ticketId => exact same.findByTicket_comments overlooks
  | findAttachmentsByTicket ticketId => exact same.findByTicket_attachments overlooks
  | _ => exact overlooks.elim

end IssueFlow
