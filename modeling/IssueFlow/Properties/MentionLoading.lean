import IssueFlow.Properties.StoredMentions
import IssueFlow.Store.Select

/-!
# Mentions read at once and one by one

A list of comments is answered from one SELECT over all mentions of its
comments, whose rows a loop puts into a map; a single comment is answered from
a SELECT of its own. A row is the same comment in both ways: the map has, under
the key of a comment, the rows of the sorted join that belong to the comment,
and these are the rows of its own SELECT.

## Main results

* `CommentsService.getD_groupMentions` — what the loop puts under a key
* `CommentsRepository.findMentionedUsersForComments_of` — the rows of one comment
* `attachMentions_agrees` — the two ways agree
-/

namespace IssueFlow

open Store Semantics

/-- **What the loop puts under a key**: the rows with this key, in order. -/
theorem CommentsService.getD_groupMentions (rows : List (ℕ × MentionedUserRow)) (id : ℕ) :
    (groupMentions rows id).getD [] = (rows.filter fun row => row.1 = id).map Prod.snd :=
  getD_foldl_update rows _ id

namespace CommentsRepository

variable {db : Db} {commentId : ℕ}

/-- The columns of a mentioned user. -/
def mentionedUser (user : UserRow) : MentionedUserRow := ⟨user.id, user.username, user.fullName⟩

/-! ### The SELECT for one comment -/

theorem mem_findMentionedUsers {mentioned : MentionedUserRow} :
    mentioned ∈ findMentionedUsers commentId db ↔
      ∃ user ∈ db.users.rows, user.id ∈ mentionedIn db commentId ∧
        mentionedUser user = mentioned := by
  simp [findMentionedUsers, mentionedUser, mentionedIn, and_assoc]

/-- The users mentioned in a comment are read by their ids. -/
theorem findMentionedUsers_ascending (db : Db) (commentId : ℕ) :
    (findMentionedUsers commentId db).Pairwise fun first second => first.id < second.id := by
  rw [findMentionedUsers, List.pairwise_map]
  exact db.users.ascending.filter _

theorem findMentionedUsers_nil (none : ∀ row ∈ db.commentMentions, row.commentId ≠ commentId) :
    findMentionedUsers commentId db = [] := by
  rw [List.eq_nil_iff_forall_not_mem]
  intro mentioned member
  obtain ⟨user, -, named, -⟩ := mem_findMentionedUsers.mp member
  obtain ⟨row, isMention, -⟩ := List.mem_map.mp named
  obtain ⟨stored, same⟩ := List.mem_filter.mp isMention
  exact none row stored (of_decide_eq_true same)

/-! ### The SELECT for several comments -/

/-- The joined row of a mention. -/
def joinMention (db : Db) (row : MentionRow) : Option (ℕ × MentionedUserRow) :=
  (db.users.get? row.mentionedUserId).map fun user => (row.commentId, mentionedUser user)

/-- The rows of one comment in the join. -/
theorem filter_joinMention {ids : List ℕ} (asked : commentId ∈ ids) (rows : List MentionRow) :
    (((rows.filter fun row => row.commentId ∈ ids).filterMap (joinMention db)).filter
        fun row => row.1 = commentId).map Prod.snd =
      ((rows.filter fun row => row.commentId = commentId).map (·.mentionedUserId)).filterMap
        fun id => (db.users.get? id).map mentionedUser := by
  simp only [List.filterMap_filter, List.filter_filterMap, List.map_filterMap, List.filterMap_map]
  apply List.filterMap_congr
  intro row _
  by_cases here : row.commentId = commentId
  · cases read : db.users.get? row.mentionedUserId <;> simp [joinMention, here, asked, read]
  · cases read : db.users.get? row.mentionedUserId <;> simp [joinMention, here, read]

/-- The users mentioned in a comment, read one by one, are those of its SELECT. -/
theorem filterMap_mentionedIn_perm (once : (mentionedIn db commentId).Nodup) :
    ((mentionedIn db commentId).filterMap fun id => (db.users.get? id).map mentionedUser).Perm
      (findMentionedUsers commentId db) := by
  have distinct : ((mentionedIn db commentId).filterMap
      fun id => (db.users.get? id).map mentionedUser).Nodup := by
    apply once.filterMap
    intro id id' mentioned read read'
    obtain ⟨user, found, rfl⟩ := Option.map_eq_some_iff.mp read
    obtain ⟨user', found', same⟩ := Option.map_eq_some_iff.mp read'
    have ids : user'.id = user.id := congrArg MentionedUserRow.id same
    exact (Table.key_of_get? found).symm.trans (ids.symm.trans (Table.key_of_get? found'))
  have distinct' : (findMentionedUsers commentId db).Nodup :=
    (findMentionedUsers_ascending db commentId).imp fun {_ _} less => ne_of_apply_ne _ less.ne
  refine (List.perm_ext_iff_of_nodup distinct distinct').mpr fun mentioned => ?_
  rw [mem_findMentionedUsers, List.mem_filterMap]
  constructor
  · rintro ⟨id, named, read⟩
    obtain ⟨user, found, rfl⟩ := Option.map_eq_some_iff.mp read
    obtain ⟨stored, rfl⟩ := Table.get?_eq_some_iff.mp found
    exact ⟨user, stored, named, rfl⟩
  · rintro ⟨user, stored, named, rfl⟩
    have found : db.users.get? user.id = some user := Table.get?_key stored
    exact ⟨user.id, named, by rw [found]; rfl⟩

/-- **The rows of one comment** in the SELECT for several ones. -/
theorem findMentionedUsersForComments_of (once : (mentionedIn db commentId).Nodup) {ids : List ℕ}
    (asked : commentId ∈ ids) :
    ((findMentionedUsersForComments ids db).filter fun row => row.1 = commentId).map Prod.snd =
      findMentionedUsers commentId db := by
  let before : ℕ × MentionedUserRow → ℕ × MentionedUserRow → Prop := fun first second =>
    first.1 < second.1 ∨ first.1 = second.1 ∧ first.2.id ≤ second.2.id
  have total : Std.Total before :=
    inferInstanceAs (Std.Total (LexBefore Prod.fst (MentionedUserRow.id ∘ Prod.snd)))
  have trans : IsTrans _ before :=
    inferInstanceAs (IsTrans _ (LexBefore Prod.fst (MentionedUserRow.id ∘ Prod.snd)))
  -- Both reads list the same users, and each in ascending order of their keys.
  have perm : (((findMentionedUsersForComments ids db).filter
      fun row => row.1 = commentId).map Prod.snd).Perm (findMentionedUsers commentId db) := by
    refine .trans ?_ (filterMap_mentionedIn_perm once)
    rw [mentionedIn, ← filter_joinMention asked]
    exact ((List.perm_insertionSort before _).filter _).map _
  have sorted : ((findMentionedUsersForComments ids db).filter
      fun row => row.1 = commentId).Pairwise before :=
    (List.pairwise_insertionSort before _).filter _
  have ascending : (findMentionedUsers commentId db).Pairwise
      fun first second => first.id ≤ second.id :=
    (findMentionedUsers_ascending db commentId).imp fun {_ _} less => less.le
  refine List.Perm.eq_of_pairwise ?_ ?_ ascending perm
  · intro first second here there le ge
    obtain ⟨user, stored, -, rfl⟩ := mem_findMentionedUsers.mp (perm.mem_iff.mp here)
    obtain ⟨user', stored', -, rfl⟩ := mem_findMentionedUsers.mp there
    rw [Table.eq_of_key_eq stored stored' (le_antisymm le ge)]
  · rw [List.pairwise_map]
    refine sorted.imp_of_mem fun {first second} here there order => ?_
    have key := of_decide_eq_true (List.mem_filter.mp here).2
    have key' := of_decide_eq_true (List.mem_filter.mp there).2
    -- All rows are of the one comment, so that the keys of the users decide.
    rcases order with less | ⟨-, le⟩
    · omega
    · exact le

end CommentsRepository

/-! ### The service -/

/-- **Loading the mentions of comments at once and one by one agrees.** -/
theorem attachMentions_agrees [Postgres] {db : Db}
    (once : ∀ commentId, (mentionedIn db commentId).Nodup) (rows : List CommentRow) :
    ∃ responses, (CommentsService.attachMentions rows).run exec db = (.ok responses, db) ∧
      List.Forall₂
        (fun row response =>
          (CommentsService.toResponse row).run exec db = (.ok response, db) ∧
          response.mentionedUsers.Pairwise (fun first second => first.id < second.id) ∧
          ((∀ mention ∈ db.commentMentions, mention.commentId ≠ row.id) →
            response.mentionedUsers = []))
        rows responses := by
  -- The answer for one comment, read by itself.
  let response := fun row : CommentRow =>
    toCommentResponse row (CommentsRepository.findMentionedUsers row.id db)
  refine ⟨rows.map response, ?_, ?_⟩
  · unfold CommentsService.attachMentions
    split_ifs with empty
    · rw [List.isEmpty_iff.mp empty]
      rfl
    · -- What is looked up in the groups is what is read for the comment alone.
      rw [run_select, Query.eval]
      refine congrArg (fun responses => (Except.ok responses, db)) ?_
      apply List.map_congr_left
      intro row member
      rw [CommentsService.getD_groupMentions,
        CommentsRepository.findMentionedUsersForComments_of (once row.id)
          (List.mem_map_of_mem member)]
  · rw [List.forall₂_map_right_iff, List.forall₂_same]
    intro row _
    refine ⟨rfl, ?_, ?_⟩
    · exact List.pairwise_map.mpr (CommentsRepository.findMentionedUsers_ascending db row.id)
    · intro none
      simp only [response, toCommentResponse, CommentsRepository.findMentionedUsers_nil none,
        List.map_nil]

section Sample

open Sample

/-- A comment that mentions a user, and one that does not. -/
def Sample.twoComments : Db :=
  serveAll (setup ++ [ticket .todo, .request (.createComment 1 ⟨1, "hello @root"⟩ 1),
    .request (.createComment 1 ⟨1, "hello"⟩ 1)]) Db.empty

/-- The comments, each of them twice. -/
theorem twoComments_loaded :
    let rows := twoComments.comments.rows ++ twoComments.comments.rows
    ∃ responses,
      (CommentsService.attachMentions rows).run exec twoComments = (.ok responses, twoComments) ∧
      List.Forall₂
        (fun row response =>
          (CommentsService.toResponse row).run exec twoComments = (.ok response, twoComments) ∧
          response.mentionedUsers.Pairwise (fun first second => first.id < second.id) ∧
          ((∀ mention ∈ twoComments.commentMentions, mention.commentId ≠ row.id) →
            response.mentionedUsers = []))
        rows responses :=
  attachMentions_agrees (mentionsStored_serveAll _).once _

end Sample

end IssueFlow
