import IssueFlow.Database.Ranges
import IssueFlow.Properties.MentionLoading
import IssueFlow.Text.Doubles

/-!
# Pages of the mentions feed

The feed of a user is the list of the comments that mention the user, newest
first; a page is a part of it, and the total is counted in another table. The
total is the length of the feed, because a comment mentions a user once and its
mentions go with it. The pages partition the feed, as long as the offset that
is computed for a page is one that the server takes.

## Main definitions

* `CommentsRepository.feed` — the comments that mention a user, newest first
* `MAX_ROWS` — the rows that fit in a table

## Main results

* `CommentsRepository.length_feed` — the total is the length of the feed
* `CommentsService.page_pageOffset` — rounding the offset does not matter for the rows
* `mention_pages_partition` — the pages of a feed, and those that are answered
-/

namespace IssueFlow

open Store Semantics JavaScript

/-- The rows that fit in a table of 2³² - 1 blocks, of at most 291 rows each. -/
def MAX_ROWS : ℕ := (2 ^ 32 - 1) * 291

namespace CommentsRepository

variable {db : Db} {userId : ℕ}

/-- `ORDER BY c.created_at DESC, c.id DESC` -/
def newestFirst (first second : CommentRow) : Prop :=
  second.createdAt < first.createdAt ∨
    first.createdAt = second.createdAt ∧ second.id ≤ first.id

instance : DecidableRel newestFirst := fun _ _ => inferInstanceAs (Decidable (_ ∨ _))

/-- The comments that mention a user, newest first. -/
def feed (userId : ℕ) (db : Db) : List CommentRow :=
  (db.comments.rows.filter (mentions db userId)).insertionSort newestFirst

/-- A page is a part of the feed. -/
theorem findCommentsMentioning_eq (userId pageSize offset : ℕ) (db : Db) :
    findCommentsMentioning userId pageSize offset db = page pageSize offset (feed userId db) := rfl

theorem mem_feed {comment : CommentRow} :
    comment ∈ feed userId db ↔
      comment ∈ db.comments.rows ∧ mentions db userId comment = true := by
  rw [feed, List.mem_insertionSort, List.mem_filter]

/-- The feed is sorted by the table, whose keys are distinct. -/
theorem nodup_feed (userId : ℕ) (db : Db) : ((feed userId db).map (·.id)).Nodup := by
  refine List.pairwise_map.mpr ?_
  refine ((List.perm_insertionSort newestFirst _).pairwise_iff fun ne => ne.symm).mpr ?_
  exact (db.comments.ascending.filter _).imp fun {_ _} less => less.ne

/-- The feed in strictly decreasing order of creation and key. -/
theorem feed_decreasing (userId : ℕ) (db : Db) :
    (feed userId db).Pairwise fun first second =>
      second.createdAt < first.createdAt ∨
        first.createdAt = second.createdAt ∧ second.id < first.id := by
  have total : Std.Total newestFirst := inferInstanceAs (Std.Total
    (LexBefore (OrderDual.toDual ∘ CommentRow.createdAt) (OrderDual.toDual ∘ CommentRow.id)))
  have trans : IsTrans _ newestFirst := inferInstanceAs (IsTrans _
    (LexBefore (OrderDual.toDual ∘ CommentRow.createdAt) (OrderDual.toDual ∘ CommentRow.id)))
  have sorted : (feed userId db).Pairwise newestFirst := List.pairwise_insertionSort _ _
  refine (sorted.and (List.pairwise_map.mp (nodup_feed userId db))).imp fun {first second} => ?_
  rintro ⟨newer | ⟨same, le⟩, ne⟩
  · exact .inl newer
  · exact .inr ⟨same, lt_of_le_of_ne le ne.symm⟩

/-- The comments of the mentions of a user are distinct. -/
theorem nodup_mentioning (stored : MentionsStored db) (userId : ℕ) :
    ((db.commentMentions.filter fun row => row.mentionedUserId = userId).map
      (·.commentId)).Nodup := by
  rw [List.nodup_iff_count_le_one]
  intro commentId
  have once := List.nodup_iff_count_le_one.mp (stored.once commentId) userId
  simp only [mentionedIn, List.count, List.countP_map, List.countP_filter] at once ⊢
  refine le_trans (le_of_eq (List.countP_congr fun row _ => ?_)) once
  simp [and_comm]

/-- **The total is the length of the feed.** -/
theorem length_feed (stored : MentionsStored db) (userId : ℕ) :
    (feed userId db).length = countMentions userId db := by
  have perm : ((feed userId db).map (·.id)).Perm
      ((db.commentMentions.filter fun row => row.mentionedUserId = userId).map
        (·.commentId)) := by
    refine (List.perm_ext_iff_of_nodup (nodup_feed userId db)
      (nodup_mentioning stored userId)).mpr fun id => ?_
    simp only [List.mem_map, mem_feed, List.mem_filter, mentions, List.any_eq_true,
      Bool.and_eq_true, decide_eq_true_eq]
    constructor
    · rintro ⟨comment, ⟨-, row, mention, here, named⟩, rfl⟩
      exact ⟨row, ⟨mention, named⟩, here⟩
    · rintro ⟨row, ⟨mention, named⟩, rfl⟩
      obtain ⟨comment, found⟩ := Option.isSome_iff_exists.mp (stored.comment row mention)
      obtain ⟨member, key⟩ := Table.get?_eq_some_iff.mp found
      exact ⟨comment, ⟨member, row, mention, key.symm, named⟩, key⟩
  have lengths := perm.length_eq
  rwa [List.length_map, List.length_map] at lengths

end CommentsRepository

namespace CommentsService

/-- **Rounding the offset does not matter for the rows**: it is exact, or it is
beyond every table. -/
theorem page_pageOffset {α : Type} {rows : List α} (fits : rows.length ≤ MAX_ROWS) (number : ℕ)
    {size : ℕ} (positive : 1 ≤ size) :
    page size (pageOffset number size) rows = page size ((number - 1) * size) rows := by
  have short : rows.length < 2 ^ 53 := fits.trans_lt (by decide)
  have least : number - 1 ≤ (number - 1) * size := Nat.le_mul_of_pos_right _ positive
  by_cases exact : (number - 1) * size < 2 ^ 53
  · rw [pageOffset, nearestNumber_of_lt (least.trans_lt exact), nearestNumber_of_lt exact]
  · have beyond : 2 ^ 53 ≤ nearestNumber (number - 1) * size := by
      by_cases small : number - 1 < 2 ^ 53
      · rw [nearestNumber_of_lt small]
        exact not_lt.mp exact
      · exact (two_pow_le_nearestNumber (not_lt.mp small)).trans
          (Nat.le_mul_of_pos_right _ positive)
    have offset : 2 ^ 53 ≤ pageOffset number size := two_pow_le_nearestNumber beyond
    rw [page_eq_nil (by omega), page_eq_nil (by omega)]

/-- The offset of a page is below 2⁶³ up to half a unit of the doubles there. -/
theorem pageOffset_lt_iff (number size : ℕ) :
    pageOffset number size < 2 ^ 63 ↔ nearestNumber (number - 1) * size + 512 < 2 ^ 63 :=
  nearestNumber_lt_iff _ 9

variable [Postgres]

/-- A page that is answered. -/
theorem run_findCommentsMentioning {userId number size : ℕ} {state : Db × ℕ}
    (answered : outOfRange (Query.findCommentsMentioning userId size
      (pageOffset number size)).numbers = none) :
    (findCommentsMentioning userId number size).run (execUnder .ranges) state =
      (.ok
        { rows := CommentsRepository.findCommentsMentioning userId size (pageOffset number size)
            state.1
          total := CommentsRepository.countMentions userId state.1 }, state.1, state.2 + 2) := by
  have counted : outOfRange (Query.countMentions userId).numbers = none := by
    rw [outOfRange_eq_none_iff] at answered ⊢
    intro number member
    exact answered number (by simp_all [Query.numbers, bigints])
  rw [findCommentsMentioning, run_select_ranges, answered]
  simp only
  rw [run_select_ranges, counted]
  rfl

/-- **Which pages are answered.** -/
theorem findCommentsMentioning_answered_iff {db : Db} (stored : MentionsStored db)
    (fits : db.commentMentions.length ≤ MAX_ROWS) (userId number : ℕ) {size : ℕ}
    (positive : 1 ≤ size) :
    ((findCommentsMentioning userId number size).run (execUnder .ranges) (db, 0)).1 =
        .ok
          { rows := page size ((number - 1) * size) (CommentsRepository.feed userId db)
            total := (CommentsRepository.feed userId db).length } ↔
      userId < 2 ^ 63 ∧ size < 2 ^ 63 ∧ nearestNumber (number - 1) * size + 512 < 2 ^ 63 := by
  have inRange : outOfRange (Query.findCommentsMentioning userId size
      (pageOffset number size)).numbers = none ↔
      userId < 2 ^ 63 ∧ size < 2 ^ 63 ∧ nearestNumber (number - 1) * size + 512 < 2 ^ 63 := by
    rw [outOfRange_eq_none_iff, ← pageOffset_lt_iff]
    simp [Query.numbers, bigints, IntegerType.limit]
  rw [← inRange]
  constructor
  · intro ok
    by_contra refused
    obtain ⟨error, failed⟩ := Option.ne_none_iff_exists'.mp refused
    rw [findCommentsMentioning, run_select_ranges, failed] at ok
    cases ok
  · intro answered
    have short : (CommentsRepository.feed userId db).length ≤ MAX_ROWS := by
      rw [CommentsRepository.length_feed stored]
      exact (List.length_filter_le _ _).trans fits
    rw [run_findCommentsMentioning answered, CommentsRepository.findCommentsMentioning_eq,
      page_pageOffset short number positive, CommentsRepository.length_feed stored]

end CommentsService

/-! ### The feed -/

open CommentsRepository CommentsService

/-- **The pages partition the feed**, and a page is answered unless a number it
sends is out of range. -/
theorem mention_pages_partition [Postgres] {db : Db} (stored : MentionsStored db)
    (fits : db.commentMentions.length ≤ MAX_ROWS) (userId : ℕ) :
    (∀ comment, comment ∈ feed userId db ↔
      comment ∈ db.comments.rows ∧ mentions db userId comment = true) ∧
    (feed userId db).Pairwise (fun first second =>
      second.createdAt < first.createdAt ∨
        first.createdAt = second.createdAt ∧ second.id < first.id) ∧
    ∀ size, 1 ≤ size →
      ((List.range (pageCount size (feed userId db).length)).flatMap fun number =>
        page size (number * size) (feed userId db)) = feed userId db ∧
      (∀ number, 1 ≤ number → number < pageCount size (feed userId db).length →
        (page size ((number - 1) * size) (feed userId db)).length = size) ∧
      (∀ number, pageCount size (feed userId db).length < number →
        page size ((number - 1) * size) (feed userId db) = []) ∧
      (∀ number, 1 ≤ number → number ≤ pageCount size (feed userId db).length →
        nearestNumber (number - 1) * size + 512 < 2 ^ 63) ∧
      ∀ number, 1 ≤ number →
        (((CommentsService.findCommentsMentioning userId number size).run (execUnder .ranges)
            (db, 0)).1 =
          .ok
            { rows := page size ((number - 1) * size) (feed userId db)
              total := (feed userId db).length } ↔
          userId < 2 ^ 63 ∧ size < 2 ^ 63 ∧
            nearestNumber (number - 1) * size + 512 < 2 ^ 63) := by
  refine ⟨fun _ => mem_feed, feed_decreasing userId db, fun size positive => ?_⟩
  refine ⟨flatMap_page_pageCount positive, ?_, ?_, ?_, ?_⟩
  · intro number first before
    exact length_page_of_lt (by rwa [Nat.sub_add_cancel first])
  · intro number past
    exact page_eq_nil_of_le positive (by omega)
  · intro number first upTo
    -- The offset of a page with a row is the number of a row, so it is exact.
    have begins : (number - 1) * size + 1 ≤ (feed userId db).length :=
      succ_mul_le_of_lt_pageCount (by omega)
    have short : (feed userId db).length ≤ MAX_ROWS := by
      rw [length_feed stored]
      exact (List.length_filter_le _ _).trans fits
    have small : MAX_ROWS + 512 < 2 ^ 53 := by decide
    have least : number - 1 ≤ (number - 1) * size := Nat.le_mul_of_pos_right _ positive
    rw [nearestNumber_of_lt (by omega)]
    omega
  · intro number _
    exact findCommentsMentioning_answered_iff stored fits userId number positive

section Sample

open Sample

/-- One page, and a later one that is refused instead of being empty: its offset is 2⁶³. -/
theorem later_page_refused :
    pageCount 1 (feed 1 twoComments).length = 1 ∧ nearestNumber (2 ^ 63) = 2 ^ 63 ∧
      ((CommentsService.findCommentsMentioning 1 (2 ^ 63) 1).run (execUnder .ranges)
        (twoComments, 0)).1 = .error (.database .numericValueOutOfRange) := by
  refine ⟨?_, ?_, ?_⟩
  · decide +kernel
  · decide +kernel
  · have offset : pageOffset (2 ^ 63) 1 = 2 ^ 63 := by decide +kernel
    rw [CommentsService.findCommentsMentioning, run_select_ranges, offset]
    rfl

/-- The only page is answered. -/
theorem only_page_answered :
    ((CommentsService.findCommentsMentioning 1 1 1).run (execUnder .ranges) (twoComments, 0)).1 =
      .ok
        { rows := page 1 ((1 - 1) * 1) (feed 1 twoComments)
          total := (feed 1 twoComments).length } := by
  have sound : MentionsStored twoComments := mentionsStored_serveAll _
  have fits : twoComments.commentMentions.length ≤ MAX_ROWS := by decide +kernel
  obtain ⟨-, -, pages⟩ := mention_pages_partition sound fits 1
  exact ((pages 1 le_rfl).2.2.2.2 1 le_rfl).mpr (by decide +kernel)

end Sample

end IssueFlow
