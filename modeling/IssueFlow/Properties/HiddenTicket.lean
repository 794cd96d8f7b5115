import IssueFlow.Database.Deletion
import IssueFlow.System.Effects
import IssueFlow.System.Reads

/-!
# A deleted ticket is hidden

Two states that differ only in what belongs to one deleted ticket should look
the same to every read. The reads of a ticket look it up first and find it
deleted; the others filter by `deleted_at`, or join a table where the ticket is
filtered. The list of a user's mentions does neither: it reads the comments and
the mention rows and never the ticket, so a comment of a deleted ticket is
shown to the users it mentions, and counted.

## Main definitions

* `Overlooking` — statements that do not see the ticket
* `ReadRequest.isMentionsFeed`, `ReadRequest.exposes` — the mentions of a stored user

## Main results

* `ReadRequest.agrees` — the other reads cannot tell two such states apart
* `exists_mentioned` — a comment of the ticket adds to a user's mentions
* `deleted_ticket_hidden` — the reads that the ticket is hidden from
* `feed_shows_deleted_ticket` — the mentions of a user show a comment of a deleted ticket
-/

namespace IssueFlow

open Store Semantics

/-- The statements that do not see the ticket while it is deleted. -/
def Overlooking (id : ℕ) (statement : Statement) : Prop :=
  ∃ read : Query, statement = .select read ∧ read.Overlooks id

/-- Does the read list the mentions of a stored user? -/
def ReadRequest.isMentionsFeed (db : Db) : ReadRequest → Bool
  | findMentions userId _ => (db.users.get? userId).isSome
  | _ => false

/-- Does it list the mentions of a user whom a comment of the ticket mentions? -/
def ReadRequest.exposes (id : ℕ) (db : Db) : ReadRequest → Bool
  | findMentions userId _ =>
      (db.users.get? userId).isSome &&
        (mentionsOn id db).any fun mention => mention.mentionedUserId = userId
  | _ => false

variable {id : ℕ} {first second : Db}

/-! ### Parts that overlook the ticket -/

section Overlooking

theorem overlooking_select {read : Query} (overlooks : read.Overlooks id) :
    (select read).Only (Overlooking id) :=
  ⟨⟨read, rfl, overlooks⟩, fun _ => trivial⟩

theorem UsersService.getOrThrow_overlooking (userId : Option ℕ) :
    (UsersService.getOrThrow userId).Only (Overlooking id) := by
  refine Program.Only.bind (overlooking_select trivial) fun found => ?_
  cases found <;> trivial

theorem UsersService.findById_overlooking (userId : Option ℕ) :
    (UsersService.findById userId).Only (Overlooking id) :=
  (getOrThrow_overlooking userId).bind fun _ => trivial

theorem ProjectsService.getOrThrow_overlooking (projectId : ℕ) :
    (ProjectsService.getOrThrow projectId).Only (Overlooking id) := by
  refine Program.Only.bind (overlooking_select trivial) fun found => ?_
  cases found <;> trivial

theorem ProjectsService.assertExists_overlooking (projectId : ℕ) :
    (ProjectsService.assertExists projectId).Only (Overlooking id) :=
  (getOrThrow_overlooking projectId).bind fun _ => trivial

theorem TicketsService.getOrThrow_overlooking (ticketId : ℕ) :
    (TicketsService.getOrThrow ticketId).Only (Overlooking id) := by
  refine Program.Only.bind (overlooking_select trivial) fun found => ?_
  cases found <;> trivial

variable [Postgres] {α : Type}

/-- Parts that overlook the ticket cannot tell the two states apart. -/
theorem agrees_of_overlooking (same : SameApartFrom id first second) {p : Service α}
    (only : p.Only (Overlooking id)) : p.Agrees exec first second := by
  refine only.agrees (SameApartFrom id) ?_ same
  rintro _ first second ⟨read, rfl, overlooks⟩ same
  exact ⟨congrArg Except.ok (Query.eval_of_overlooks same overlooks), same⟩

/-- A read that is answered alike. -/
theorem agrees_select {read : Query} {next : read.Rows → Service α}
    (same : read.eval second = read.eval first)
    (rest : (next (read.eval first)).Agrees exec first second) :
    (select read >>= next).Agrees exec first second := by
  rw [Program.Agrees, run_select, run_select, same]
  exact rest

/-- What follows the lookup of a ticket is about another one. -/
theorem agrees_getOrThrow (same : SameApartFrom id first second) {ticketId : ℕ}
    {next : TicketRow → Service α}
    (rest : ticketId ≠ id → ∀ row, (next row).Agrees exec first second) :
    (TicketsService.getOrThrow ticketId >>= next).Agrees exec first second := by
  have only : (TicketsService.getOrThrow ticketId).Only (Overlooking id) :=
    TicketsService.getOrThrow_overlooking ticketId
  refine (agrees_of_overlooking same only).bind fun row found => ?_
  have reads := TicketsService.getOrThrow_reads ticketId
  rw [run_reads reads, run_reads reads]
  apply rest
  -- The deleted ticket itself is not found.
  rintro rfl
  have read : (Query.findTicketById ticketId).eval first = none :=
    findById_of_isDeleted same.deletedFirst
  rw [TicketsService.getOrThrow, run_select, read] at found
  cases found

end Overlooking

/-! ### The reads that are answered alike -/

section Reads

variable [Postgres]

/-- The mentions of stored comments of other tickets. -/
theorem agrees_attachMentions (same : SameApartFrom id first second) {rows : List CommentRow}
    (stored : ∀ row ∈ rows, row ∈ first.comments.rows)
    (others : ∀ row ∈ rows, row.ticketId ≠ id) :
    (CommentsService.attachMentions rows).Agrees exec first second := by
  unfold CommentsService.attachMentions
  split_ifs
  · rfl
  · refine agrees_select (same.findMentionedUsersForComments ?_ ?_) rfl
    · intro comment member listed
      obtain ⟨row, rowMember, key⟩ := List.mem_map.mp listed
      exact ne_of_mem_findByTicket (stored row rowMember) (others row rowMember) member key.symm
    · intro comment member listed
      obtain ⟨row, rowMember, key⟩ := List.mem_map.mp listed
      have stored' := same.mem_comments (stored row rowMember) (others row rowMember)
      exact ne_of_mem_findByTicket stored' (others row rowMember) member key.symm

theorem CommentsService.agrees_findByTicket (same : SameApartFrom id first second) (ticketId : ℕ) :
    (CommentsService.findByTicket ticketId).Agrees exec first second := by
  refine agrees_getOrThrow same fun other _ => ?_
  refine agrees_select (same.findByTicket_comments other) (agrees_attachMentions same ?_ ?_)
  · intro row member
    exact (List.mem_filter.mp member).1
  · intro row member
    exact of_decide_eq_true (List.mem_filter.mp member).2 ▸ other

omit [Postgres] in
/-- A dependency list starts from a lookup, like the other reads of a ticket. -/
theorem DependenciesService.list_eq (ticketId : ℕ) :
    DependenciesService.list ticketId =
      TicketsService.getOrThrow ticketId >>= fun _ => select (.listBlockers ticketId) := by
  rw [DependenciesService.list, TicketsService.getOrThrow, Program.bind_assoc]
  congr 1
  funext found
  cases found <;> rfl

omit [Postgres] in
/-- The comments of a page are stored, and they mention the user. -/
theorem mem_findCommentsMentioning {db : Db} {userId pageSize offset : ℕ} {row : CommentRow}
    (member : row ∈ CommentsRepository.findCommentsMentioning userId pageSize offset db) :
    row ∈ db.comments.rows ∧ CommentsRepository.mentions db userId row = true := by
  have sorted := List.mem_of_mem_drop (List.mem_of_mem_take member)
  rw [List.mem_insertionSort] at sorted
  exact List.mem_filter.mp sorted

/-- The user of a request that was found is stored. -/
theorem UsersService.isSome_of_findById {db : Db} {userId : ℕ} {user : UserResponse}
    (found : ((UsersService.findById (some userId)).run exec db).1 = .ok user) :
    (db.users.get? userId).isSome = true := by
  have read : (Query.findUserById (some userId)).eval db = db.users.get? userId := rfl
  rw [findById, getOrThrow, Program.bind_assoc, run_select, read] at found
  cases stored : db.users.get? userId with
  | some row => rfl
  | none =>
      rw [stored] at found
      cases found

omit [Postgres] in
/-- Nobody who is stored and asks for mentions is mentioned on the ticket. -/
theorem ReadRequest.unmentioned {db : Db} {userId : ℕ} {pagination : PaginationQuery}
    (hidden : (findMentions userId pagination).exposes id db = false)
    (stored : (db.users.get? userId).isSome = true) :
    ∀ mention ∈ mentionsOn id db, mention.mentionedUserId ≠ userId := by
  rw [exposes, stored, Bool.true_and, List.any_eq_false] at hidden
  intro mention member
  simpa using hidden mention member

/-- The mentions of a user whom no comment of the ticket mentions. -/
theorem CommentsService.agrees_findMentionsForUser (same : SameApartFrom id first second)
    {userId : ℕ} {pagination : PaginationQuery}
    (hidden : (ReadRequest.findMentions userId pagination).exposes id first = false)
    (hidden' : (ReadRequest.findMentions userId pagination).exposes id second = false) :
    (CommentsService.findMentionsForUser userId pagination.page pagination.pageSize).Agrees exec
      first second := by
  have only : (UsersService.findById (some userId)).Only (Overlooking id) :=
    UsersService.findById_overlooking (some userId)
  refine (agrees_of_overlooking same only).bind fun user found => ?_
  have reads := UsersService.findById_reads (some userId)
  rw [run_reads reads, run_reads reads]
  have stored := UsersService.isSome_of_findById found
  have unmentioned := ReadRequest.unmentioned hidden stored
  have unmentioned' := ReadRequest.unmentioned hidden' ((same.get?_users userId) ▸ stored)
  simp only [CommentsService.findCommentsMentioning, Program.bind_assoc]
  refine agrees_select (same.findCommentsMentioning unmentioned unmentioned' _ _) ?_
  refine agrees_select (same.countMentions unmentioned unmentioned') ?_
  simp only [Program.pure_eq, Program.done_ok_bind]
  refine Program.Agrees.bind (agrees_attachMentions same ?_ ?_) fun _ _ => rfl
  · intro row member
    exact (mem_findCommentsMentioning member).1
  · intro row member
    obtain ⟨stored, named⟩ := mem_findCommentsMentioning member
    exact ne_of_mentions unmentioned stored named

variable [CsvStringify]

/-- **The other reads cannot tell the two states apart.** -/
theorem ReadRequest.agrees (same : SameApartFrom id first second) (read : ReadRequest)
    (hidden : read.exposes id first = false) (hidden' : read.exposes id second = false) :
    respond read second = respond read first := by
  -- All but the mentions only send statements that overlook the ticket, the
  -- reads of a ticket once it turns out to be another one.
  cases read with
  | findAllUsers =>
      refine Program.Agrees.map _ (agrees_of_overlooking same ?_)
      exact Program.Only.bind (overlooking_select trivial) fun _ => trivial
  | findUser userId =>
      refine Program.Agrees.map _ (agrees_of_overlooking same ?_)
      exact UsersService.findById_overlooking _
  | findAllProjects =>
      refine Program.Agrees.map _ (agrees_of_overlooking same ?_)
      exact Program.Only.bind (overlooking_select trivial) fun _ => trivial
  | findProject projectId =>
      refine Program.Agrees.map _ (agrees_of_overlooking same ?_)
      exact Program.Only.bind (ProjectsService.getOrThrow_overlooking _) fun _ => trivial
  | getWorkload projectId =>
      refine Program.Agrees.map _ (agrees_of_overlooking same ?_)
      exact Program.Only.bind (ProjectsService.assertExists_overlooking _)
        fun _ => overlooking_select trivial
  | findAllTickets projectId =>
      cases projectId with
      | none =>
          refine Program.Agrees.map _ (agrees_of_overlooking same ?_)
          exact Program.Only.bind (overlooking_select trivial) fun _ => trivial
      | some projectId =>
          refine Program.Agrees.map _ (agrees_of_overlooking same ?_)
          refine Program.Only.bind (ProjectsService.assertExists_overlooking _) fun _ => ?_
          exact Program.Only.bind (overlooking_select trivial) fun _ => trivial
  | findTicket ticketId =>
      refine Program.Agrees.map _ (agrees_of_overlooking same ?_)
      exact Program.Only.bind (TicketsService.getOrThrow_overlooking _) fun _ => trivial
  | exportCsv projectId =>
      refine Program.Agrees.map _ (agrees_of_overlooking same ?_)
      refine Program.Only.bind (ProjectsService.assertExists_overlooking _) fun _ => ?_
      exact Program.Only.bind (overlooking_select trivial) fun _ => trivial
  | listDependencies ticketId =>
      refine Program.Agrees.map _ ?_
      rw [DependenciesService.list_eq]
      refine agrees_getOrThrow same fun other _ => agrees_of_overlooking same ?_
      exact overlooking_select other
  | findAllComments ticketId =>
      exact Program.Agrees.map _ (CommentsService.agrees_findByTicket same ticketId)
  | listAttachments ticketId =>
      refine Program.Agrees.map _ (agrees_getOrThrow same fun other _ => ?_)
      apply agrees_of_overlooking same
      exact Program.Only.bind (overlooking_select other) fun _ => trivial
  | findMentions userId pagination =>
      exact Program.Agrees.map _ (CommentsService.agrees_findMentionsForUser same hidden hidden')

end Reads

/-! ### The mentions of a stored user -/

section Feed

/-- **A comment of the ticket adds to the mentions of a user**: next to every state
there is one with another comment of the ticket. -/
theorem exists_mentioned {db : Db} (deleted : db.isDeleted .ticket id = true) (userId : ℕ) :
    ∃ other, SameApartFrom id db other ∧ other.users = db.users ∧
      CommentsRepository.countMentions userId other =
        CommentsRepository.countMentions userId db + 1 := by
  -- The key of the comment has not been drawn, and no mention row refers to it.
  obtain ⟨bound, below⟩ :=
    (db.commentMentions.map (·.commentId)).toFinset.exists_nat_subset_range
  let comments := db.comments.keepDrawn ⟨[], bound, .nil, by simp⟩
  have fresh : ∀ mention ∈ db.commentMentions, mention.commentId < comments.next := by
    intro mention member
    have listed := below (List.mem_toFinset.mpr (List.mem_map_of_mem member))
    exact (Finset.mem_range.mp listed).trans_le (le_max_right _ _)
  let other : Db := { db with
    comments := comments.insert (ClientStatement.createdComment id userId "" db.now) fun _ => rfl
    commentMentions := db.commentMentions ++ [⟨comments.next, userId, db.now⟩] }
  have onTicket : CommentsRepository.findByTicket id other =
      CommentsRepository.findByTicket id db ++
        [ClientStatement.createdComment id userId "" db.now comments.next] := by
    show (comments.rows ++ [ClientStatement.createdComment id userId "" db.now
      comments.next]).filter (fun row => row.ticketId = id) = _
    rw [List.filter_append, List.filter_cons_of_pos, List.filter_nil]
    · rfl
    · exact decide_eq_true rfl
  refine ⟨other, ?_, rfl, ?_⟩
  · refine ⟨deleted, deleted, rfl, rfl, rfl, rfl, ?_, ?_, rfl, rfl, rfl⟩
    · exact Table.filter_insert _ _ (fun _ => rfl) (by simp [ClientStatement.createdComment])
    · rw [mentionsOff, onTicket, List.filter_append, List.filter_cons_of_neg, List.filter_nil,
        List.append_nil, mentionsOff]
      · apply List.filter_congr
        intro mention member
        have ne : comments.next ≠ mention.commentId := (fresh mention member).ne'
        rw [List.any_append, List.any_cons, List.any_nil, Bool.or_false]
        simp [ClientStatement.createdComment, ne]
      · simp [ClientStatement.createdComment]
  · rw [CommentsRepository.countMentions, List.filter_append, List.length_append]
    simp [CommentsRepository.countMentions]

variable [Postgres]

/-- The mentions of comments, read alone. -/
theorem CommentsService.run_attachMentions {α : Type} (rows : List CommentRow)
    (next : List CommentResponse → Service α) (db : Db) :
    ∃ data, (attachMentions rows >>= next).run exec db = (next data).run exec db := by
  unfold attachMentions
  split_ifs
  · exact ⟨_, rfl⟩
  · exact ⟨_, rfl⟩

variable [CsvStringify]

/-- The mentions of a stored user come with the number of mention rows. -/
theorem respond_findMentions {db : Db} {userId : ℕ}
    (stored : (db.users.get? userId).isSome = true) (pagination : PaginationQuery) :
    ∃ data, respond (.findMentions userId pagination) db = .ok (.mentions
      { data := data
        total := CommentsRepository.countMentions userId db
        page := pagination.page }) := by
  obtain ⟨user, found⟩ := Option.isSome_iff_exists.mp stored
  have read : (Query.findUserById (some userId)).eval db = some user := found
  have ran : respond (.findMentions userId pagination) db =
      ((ReadResponse.mentions <$> CommentsService.findMentionsForUser userId pagination.page
        pagination.pageSize).run exec db).1 := rfl
  rw [ran, Program.run_map, CommentsService.findMentionsForUser, UsersService.findById,
    UsersService.getOrThrow, Program.bind_assoc, Program.bind_assoc, run_select, read]
  simp only [CommentsService.findCommentsMentioning, Program.bind_assoc, Program.pure_eq,
    Program.done_ok_bind]
  rw [run_select, run_select]
  obtain ⟨data, attached⟩ := CommentsService.run_attachMentions _ _ db
  rw [attached]
  exact ⟨data, rfl⟩

/-- **A deleted ticket is hidden from every read but the mentions of a user.** A
read is answered alike in all states that differ only in the data of a deleted
ticket exactly when it does not list the mentions of a stored user; and that list
is answered alike in two states in which no comment of the ticket mentions the
user. -/
theorem deleted_ticket_hidden {db : Db} (deleted : db.isDeleted .ticket id = true)
    (read : ReadRequest) :
    ((∀ other, SameApartFrom id db other → respond read other = respond read db) ↔
      read.isMentionsFeed db = false) ∧
      ∀ other, SameApartFrom id db other → read.exposes id db = false →
        read.exposes id other = false → respond read other = respond read db := by
  refine ⟨?_, fun other same hidden hidden' => read.agrees same hidden hidden'⟩
  cases read with
  | findMentions userId pagination =>
      constructor
      · intro hidden
        by_contra listed
        have stored : (db.users.get? userId).isSome = true := Bool.not_eq_false _ ▸ listed
        -- Some state has one more mention of the user on the deleted ticket.
        obtain ⟨other, same, users, more⟩ := exists_mentioned deleted userId
        obtain ⟨data, before⟩ := respond_findMentions stored pagination
        obtain ⟨data', after⟩ := respond_findMentions (users ▸ stored) pagination
        have alike := hidden other same
        rw [before, after, Except.ok.injEq, ReadResponse.mentions.injEq] at alike
        have total := congrArg PaginatedMentions.total alike
        simp only at total
        omega
      · intro absent other same
        have absent' : (other.users.get? userId).isSome = false :=
          (same.get?_users userId) ▸ absent
        apply ReadRequest.agrees same
        · exact Bool.and_eq_false_iff.mpr (.inl absent)
        · exact Bool.and_eq_false_iff.mpr (.inl absent')
  | _ =>
      refine iff_of_true (fun other same => ?_) rfl
      exact ReadRequest.agrees same _ rfl rfl

end Feed

/-! ### A comment of a deleted ticket -/

namespace Sample

/-- A ticket with a comment, deleted. -/
def deletedWith (content : String) : Db :=
  serveAll (setup ++ [ticket .todo, .request (.createComment 1 ⟨1, content⟩ 1),
    .request (.softDeleteTicket 1 1)]) Db.empty

end Sample

section Comment

open Sample

theorem deletedWith_hidden :
    let read := ReadRequest.findMentions 1 {}
    ((∀ other, SameApartFrom 1 (deletedWith "hello") other →
        respond read other = respond read (deletedWith "hello")) ↔
      read.isMentionsFeed (deletedWith "hello") = false) ∧
      ∀ other, SameApartFrom 1 (deletedWith "hello") other →
        read.exposes 1 (deletedWith "hello") = false → read.exposes 1 other = false →
          respond read other = respond read (deletedWith "hello") :=
  deleted_ticket_hidden (by decide +kernel) _

/-- The comment is shown to the user it mentions, and counted. -/
theorem feed_shows_deleted_ticket :
    SameApartFrom 1 (deletedWith "hello") (deletedWith "hello @root") ∧
      respond (.findMentions 1 {}) (deletedWith "hello @root") = .ok (.mentions
        { data := [⟨1, 1, 1, "hello @root", [⟨1, "root", "Root"⟩], 1⟩], total := 1, page := 1 }) ∧
      respond (.findMentions 1 {}) (deletedWith "hello") =
        .ok (.mentions { data := [], total := 0, page := 1 }) := by
  refine ⟨?_, by decide +kernel, by decide +kernel⟩
  constructor <;> decide +kernel

end Comment

end IssueFlow
