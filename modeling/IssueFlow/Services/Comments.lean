import IssueFlow.Services.Tickets
import IssueFlow.Text.JavaScript

/-!
# The comments service

`comments.service.ts` and `mention-parser.ts`. Mentions are resolved by one read
before the transaction that writes them.

## Main definitions

* `parseMentions` — the usernames mentioned in a text
* `CommentsService.create`, `CommentsService.update`, `CommentsService.delete`
* `CommentsService.findByTicket`, `CommentsService.findMentionsForUser` — the reads
-/

namespace IssueFlow

open Semantics JavaScript

/-! ### Mentions -/

/-- The class `[a-zA-Z0-9_]`. -/
def isUsernameChar (c : Char) : Bool := c.isAlphanum || c = '_'

/-- `re.exec`: the first match of `@([a-zA-Z0-9_]+)`, and what follows it. -/
def execMention : List Char → Option (List Char × List Char)
  | [] => none
  | c :: cs =>
      if c = '@' && !(cs.takeWhile isUsernameChar).isEmpty then
        some (cs.takeWhile isUsernameChar, cs.dropWhile isUsernameChar)
      else execMention cs

theorem execMention_length {cs name rest : List Char} (found : execMention cs = some (name, rest)) :
    rest.length < cs.length := by
  induction cs with
  | nil => cases found
  | cons c cs ih =>
      rw [execMention] at found
      split_ifs at found
      · obtain ⟨-, rfl⟩ := Prod.mk.inj (Option.some.inj found)
        exact Nat.lt_succ_of_le (List.dropWhile_suffix _).length_le
      · exact (ih found).trans (Nat.lt_succ_self _)

/-- The loop of `parseMentions`; `seen` is in order of insertion. -/
def collectMentions (seen : List String) (cs : List Char) : List String :=
  match found : execMention cs with
  | none => seen
  | some (name, rest) =>
      have : rest.length < cs.length := execMention_length found
      let username := (String.ofList name).toLower
      collectMentions (if username ∈ seen then seen else seen ++ [username]) rest
  termination_by cs.length

def parseMentions (content : String) : List String := collectMentions [] content.toList

/-! ### The service -/

structure MentionedUser where
  id : ℕ
  username : String
  fullName : String
  deriving DecidableEq, Repr

structure CommentResponse where
  id : ℕ
  ticketId : ℕ
  authorId : ℕ
  content : String
  mentionedUsers : List MentionedUser
  version : ℕ
  deriving DecidableEq, Repr

def toCommentResponse (row : CommentRow) (mentions : List MentionedUserRow) : CommentResponse where
  id := row.id
  ticketId := row.ticketId
  authorId := row.authorId
  content := row.content
  mentionedUsers := mentions.map fun m => ⟨m.id, m.username, m.fullName⟩
  version := row.version

/-- What `findCommentsMentioning` returns. -/
structure MentionsPage where
  rows : List CommentRow
  total : ℕ
  deriving DecidableEq, Repr

/-- A page of the comments that mention a user. -/
structure PaginatedMentions where
  data : List CommentResponse
  total : ℕ
  page : ℕ
  deriving DecidableEq, Repr

/-- The query of a page, as validated; what is left out has a default. -/
structure PaginationQuery where
  page : ℕ := 1
  pageSize : ℕ := 20
  page_min : 1 ≤ page := by decide
  pageSize_min : 1 ≤ pageSize := by decide
  pageSize_max : pageSize ≤ 100 := by decide
  deriving DecidableEq, Repr

structure CreateCommentDto where
  authorId : ℕ
  content : String
  deriving DecidableEq, Repr

structure UpdateCommentDto where
  content : String
  version : Field ℕ
  deriving DecidableEq, Repr

namespace CommentsService

def getOrThrow (id : ℕ) : Service CommentRow := do
  match ← select (.findCommentById id) with
  | some row => return row
  | none => notFound s!"Comment {id} not found"

/-- The ids of the mentioned users that exist, each once. -/
def resolveMentions (content : String) : Service (List ℕ) :=
  let usernames := parseMentions content
  if usernames.isEmpty then return []
  else do
    let users ← UsersService.findRawByUsernamesLower usernames
    return (users.map (·.id)).dedup

def toResponse (row : CommentRow) : Service CommentResponse := do
  let mentions ← select (.findMentionedUsers row.id)
  return toCommentResponse row mentions

/-- The loop that groups the joined rows by comment; the map is in no order. -/
def groupMentions (rows : List (ℕ × MentionedUserRow)) : ℕ → Option (List MentionedUserRow) :=
  rows.foldl
    (fun map row => Function.update map row.1 (some ((map row.1).getD [] ++ [row.2])))
    fun _ => none

/-- The mentions of all comments are read at once. -/
def attachMentions (rows : List CommentRow) : Service (List CommentResponse) :=
  if rows.isEmpty then return []
  else do
    let mentioned ← select (.findMentionedUsersForComments (rows.map (·.id)))
    let map := groupMentions mentioned
    return rows.map fun row => toCommentResponse row ((map row.id).getD [])

def findByTicket (ticketId : ℕ) : Service (List CommentResponse) := do
  let _ ← TicketsService.assertExistsAndGet ticketId
  let rows ← select (.findCommentsByTicket ticketId)
  attachMentions rows

def create (ticketId : ℕ) (dto : CreateCommentDto) (performedBy : ℕ) : Service CommentResponse := do
  let _ ← TicketsService.assertExistsAndGet ticketId
  let _ ← UsersService.findById (some dto.authorId)
  let mentionedUserIds ← resolveMentions dto.content
  let row ← execute (.createWithMentions
    { ticketId := ticketId
      authorId := dto.authorId
      content := dto.content
      mentionedUserIds := mentionedUserIds }
    fun comment =>
      { action := .create
        entityType := .comment
        entityId := comment.id
        performedBy := some performedBy
        actor := .user
        metadata := [("ticketId", .value (.number ticketId)),
          ("authorId", .value (.number dto.authorId)),
          ("mentionedUserIds", .value (.ids mentionedUserIds))] })
  toResponse row

/-- What follows the transaction of a comment PATCH. -/
def finishUpdate (commentId : ℕ) (dto : UpdateCommentDto) :
    Option CommentRow → Service CommentResponse
  | none => do
      let live ← select (.findCommentById commentId)
      let liveVersion := (live.map fun row => toString row.version).getD "?"
      conflict (s!"Comment {commentId} was modified by another writer. Expected version " ++
        s!"{showNumber dto.version.toOption}, current is {liveVersion}. Please reload and retry.")
  | some updated => toResponse updated

def update (ticketId commentId : ℕ) (dto : UpdateCommentDto) (performedBy : ℕ) :
    Service CommentResponse := do
  if !dto.version.isDefined then
    badRequest ("\"version\" is required for concurrency control. " ++
      "Send the value from the most recent comment response.")
  else
    let existing ← getOrThrow commentId
    if existing.ticketId ≠ ticketId then
      notFound s!"Comment {commentId} not found on ticket {ticketId}"
    else
      let mentionedUserIds ← resolveMentions dto.content
      let updated ← execute (.updateContentAndMentions commentId dto.version.toOption dto.content
        mentionedUserIds fun _ =>
          { action := .update
            entityType := .comment
            entityId := commentId
            performedBy := some performedBy
            actor := .user
            metadata := [("contentChanged", .value (.bool (existing.content ≠ dto.content))),
              ("previousMentionsReplaced", .value (.bool true)),
              ("newMentionedUserIds", .value (.ids mentionedUserIds))] })
      finishUpdate commentId dto updated

def delete (ticketId commentId performedBy : ℕ) : Service Unit := do
  let existing ← getOrThrow commentId
  if existing.ticketId ≠ ticketId then
    notFound s!"Comment {commentId} not found on ticket {ticketId}"
  else
    let _ ← execute (.deleteComment commentId)
    AuditService.log
      { action := .delete
        entityType := .comment
        entityId := commentId
        performedBy := some performedBy
        actor := .user
        metadata := [("ticketId", .value (.number ticketId)),
          ("authorId", .value (.number existing.authorId))] }

/-- `(page - 1) * pageSize`, in doubles. -/
def pageOffset (page pageSize : ℕ) : ℕ := nearestNumber (nearestNumber (page - 1) * pageSize)

/-- `CommentsRepository.findCommentsMentioning`: the page and the total are two
reads; no ticket is read. -/
def findCommentsMentioning (userId page pageSize : ℕ) : Service MentionsPage := do
  let rows ← select (.findCommentsMentioning userId pageSize (pageOffset page pageSize))
  let total ← select (.countMentions userId)
  return { rows := rows, total := total }

def findMentionsForUser (userId page pageSize : ℕ) : Service PaginatedMentions := do
  let _ ← UsersService.findById (some userId)
  let { rows, total } ← findCommentsMentioning userId page pageSize
  let data ← attachMentions rows
  return { data := data, total := total, page := page }

end CommentsService

end IssueFlow
