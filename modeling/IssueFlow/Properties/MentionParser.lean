import IssueFlow.Services.Comments
import IssueFlow.Text.Pattern
import Mathlib.Data.List.Infix

/-!
# What the mention parser recognises

The parser searches a text again and again for its pattern, from the end of the
last match on. What it finds is what a reader finds who looks at every position:
a username behind each at sign. A username contains no at sign, so nothing is
missed where the search is resumed.

## Main definitions

* `mentionPattern` — `/@([a-zA-Z0-9_]+)/`
* `CreateUserDto.acceptsUsername` — the names users can register
* `leadingMention`, `mentionedRuns` — the usernames behind the at signs, position by position
* `IsRun` — a maximal run of username characters

## Main results

* `search_mentionPattern` — `execMention` is a search for the pattern
* `parseMentions_eq` — the names in order of their first occurrence, each once
* `mentionedRuns_append` — a mention between two texts
* `parseMentions_exact` — what the parser returns, on every text
-/

namespace IssueFlow

open Text

/-- `/@([a-zA-Z0-9_]+)/` -/
def mentionPattern : Pattern Char := .seq (.one fun c => c = '@') (.group (.some isUsernameChar))

/-- `@Length(3, 64)` and `@Matches(/^[a-zA-Z0-9_]+$/)` -/
def CreateUserDto.acceptsUsername (username : String) : Bool :=
  3 ≤ username.length && username.length ≤ 64 &&
    (Pattern.some isUsernameChar).test username.toList

/-- The parser's search is the search for its pattern. -/
theorem search_mentionPattern (cs : List Char) :
    mentionPattern.search cs = (execMention cs).map fun found => ([found.1], found.2) := by
  induction cs with
  | nil => rfl
  | cons c cs ih =>
      have here : (mentionPattern.results (c :: cs)).head? =
          if c = '@' && !(cs.takeWhile isUsernameChar).isEmpty then
            some ([cs.takeWhile isUsernameChar], cs.dropWhile isUsernameChar)
          else none := by
        rw [mentionPattern, Pattern.results_seq_one_cons]
        cases decide (c = '@') with
        | false => rfl
        | true =>
            rw [if_pos rfl, Pattern.head?_results_group, Pattern.head?_results_some]
            cases (cs.takeWhile isUsernameChar).isEmpty with
            | true => rfl
            | false =>
                simp only [Bool.false_eq_true, if_false, Option.map_some, Pattern.take_dropWhile]
                rfl
      rw [Pattern.search, here, execMention]
      split_ifs
      · rfl
      · exact ih

/-! ### Position by position -/

/-- A maximal run of username characters. -/
structure IsRun (run after : List Char) : Prop where
  nonempty : run ≠ []
  all : ∀ c ∈ run, isUsernameChar c
  maximal : ∀ c ∈ after.head?, isUsernameChar c = false

/-- The run behind the at sign a text starts with. -/
def leadingMention : List Char → Option (List Char)
  | [] => none
  | c :: cs =>
      if c = '@' && !(cs.takeWhile isUsernameChar).isEmpty then some (cs.takeWhile isUsernameChar)
      else none

/-- The runs behind at signs, position by position. -/
def mentionedRuns (cs : List Char) : List (List Char) := cs.tails.filterMap leadingMention

/-- The names that are mentioned, in the order of the text. -/
def mentionedNames (cs : List Char) : List String :=
  (mentionedRuns cs).map fun run => (String.ofList run).toLower

@[simp] theorem mentionedRuns_nil : mentionedRuns [] = [] := rfl

theorem mentionedRuns_cons (c : Char) (cs : List Char) :
    mentionedRuns (c :: cs) = (leadingMention (c :: cs)).toList ++ mentionedRuns cs := by
  rw [mentionedRuns, List.tails_cons, List.filterMap_cons]
  cases leadingMention (c :: cs) <;> rfl

theorem isUsernameChar_at : isUsernameChar '@' = false := by decide

theorem IsRun.takeWhile {run after : List Char} (isRun : IsRun run after) :
    (run ++ after).takeWhile isUsernameChar = run := by
  have stops : after.takeWhile isUsernameChar = [] := by
    cases after with
    | nil => rfl
    | cons c after => rw [List.takeWhile_cons, isRun.maximal c rfl, if_neg Bool.false_ne_true]
  rw [List.takeWhile_append_of_pos isRun.all, stops, List.append_nil]

theorem leadingMention_eq_some_iff {cs run : List Char} :
    leadingMention cs = some run ↔ ∃ after, cs = '@' :: (run ++ after) ∧ IsRun run after := by
  constructor
  · intro found
    cases cs with
    | nil => cases found
    | cons c cs =>
        rw [leadingMention] at found
        split_ifs at found with behind
        obtain rfl := Option.some.inj found
        obtain ⟨sign, some⟩ := Bool.and_eq_true_iff.mp behind
        refine ⟨cs.dropWhile isUsernameChar, ?_, ?_, ?_, ?_⟩
        · rw [List.takeWhile_append_dropWhile, of_decide_eq_true sign]
        · simpa using some
        · intro c member
          exact List.mem_takeWhile_imp member
        · intro c first
          have stopped := List.head?_dropWhile_not isUsernameChar cs
          rw [first] at stopped
          exact stopped
  · rintro ⟨after, rfl, isRun⟩
    have nonempty : run.isEmpty = false := by simpa using isRun.nonempty
    rw [leadingMention, isRun.takeWhile, nonempty]
    rfl

/-- Which runs are found: those behind an at sign, anywhere. -/
theorem mem_mentionedRuns_iff {cs run : List Char} :
    run ∈ mentionedRuns cs ↔ ∃ before after, cs = before ++ '@' :: (run ++ after) ∧
      IsRun run after := by
  simp only [mentionedRuns, List.mem_filterMap, List.mem_tails, leadingMention_eq_some_iff]
  constructor
  · rintro ⟨_, ⟨before, rfl⟩, after, rfl, isRun⟩
    exact ⟨before, after, rfl, isRun⟩
  · rintro ⟨before, after, rfl, isRun⟩
    exact ⟨_, ⟨before, rfl⟩, after, rfl, isRun⟩

/-- There is no at sign inside a run. -/
theorem mentionedRuns_run_append {run : List Char} (all : ∀ c ∈ run, isUsernameChar c)
    (cs : List Char) : mentionedRuns (run ++ cs) = mentionedRuns cs := by
  induction run with
  | nil => rfl
  | cons c run ih =>
      obtain ⟨accepted, all⟩ := List.forall_mem_cons.mp all
      have other : c ≠ '@' := by
        rintro rfl
        rw [isUsernameChar_at] at accepted
        cases accepted
      have silent : leadingMention (c :: (run ++ cs)) = none := by
        rw [leadingMention, decide_eq_false other]
        rfl
      rw [List.cons_append, mentionedRuns_cons, silent]
      exact ih all

/-! ### The loop -/

theorem mentionedRuns_of_execMention_none {cs : List Char} (missed : execMention cs = none) :
    mentionedRuns cs = [] := by
  induction cs with
  | nil => rfl
  | cons c cs ih =>
      rw [execMention] at missed
      split_ifs at missed with here
      have silent : leadingMention (c :: cs) = none := by rw [leadingMention, if_neg here]
      rw [mentionedRuns_cons, silent]
      exact ih missed

/-- The search is resumed behind the run it has found, where nothing is missed. -/
theorem mentionedRuns_of_execMention_some {cs name rest : List Char}
    (found : execMention cs = some (name, rest)) :
    mentionedRuns cs = name :: mentionedRuns rest := by
  induction cs with
  | nil => cases found
  | cons c cs ih =>
      rw [execMention] at found
      rw [mentionedRuns_cons, leadingMention]
      split_ifs at found ⊢ with here
      · obtain ⟨rfl, rfl⟩ := Prod.mk.inj (Option.some.inj found)
        have all : ∀ c ∈ cs.takeWhile isUsernameChar, isUsernameChar c :=
          fun c member => List.mem_takeWhile_imp member
        have resumed := mentionedRuns_run_append all (cs.dropWhile isUsernameChar)
        rw [List.takeWhile_append_dropWhile] at resumed
        rw [resumed]
        rfl
      · exact ih found

/-- The loop adds the names that are new, in order. -/
theorem collectMentions_eq (seen : List String) (cs : List Char) :
    collectMentions seen cs =
      seen ++ ((mentionedNames cs).filter fun name => name ∉ seen).eraseDups := by
  induction seen, cs using collectMentions.induct with
  | case1 seen cs missed =>
      rw [collectMentions]
      split
      · rw [mentionedNames, mentionedRuns_of_execMention_none missed]
        simp
      · next found => cases missed.symm.trans found
  | case2 seen cs name rest found shorter username ih =>
      rw [collectMentions]
      split
      · next missed => cases found.symm.trans missed
      · next other remaining found' =>
        obtain ⟨rfl, rfl⟩ := Prod.mk.inj (Option.some.inj (found.symm.trans found'))
        -- The names are those of the match and of the text behind it.
        have names : mentionedNames cs = username :: mentionedNames rest := by
          rw [mentionedNames, mentionedRuns_of_execMention_some found]
          rfl
        refine ih.trans ?_
        rw [names]
        by_cases known : username ∈ seen
        · simp only [dif_pos known]
          rw [List.filter_cons_of_neg (by simpa using known)]
        · -- A new name is no longer new in the rest.
          have others : (mentionedNames rest).filter (fun name => name ∉ seen ++ [username]) =
              ((mentionedNames rest).filter fun name => name ∉ seen).filter
                fun name => !name == username := by
            rw [List.filter_filter]
            apply List.filter_congr
            intro name _
            simp [not_or, Bool.and_comm, beq_eq_decide]
          simp only [dif_neg known]
          rw [others, List.filter_cons_of_pos (by simpa using known),
            List.eraseDups_cons, List.append_assoc, List.singleton_append]

/-- **The names are returned in order of their first occurrence**, each once. -/
theorem parseMentions_eq (content : String) :
    parseMentions content = (mentionedNames content.toList).eraseDups := by
  rw [parseMentions, collectMentions_eq]
  simp

/-- No name is collected twice. -/
theorem nodup_collectMentions {seen : List String} {cs : List Char} (distinct : seen.Nodup) :
    (collectMentions seen cs).Nodup := by
  induction seen, cs using collectMentions.induct with
  | case1 seen cs missed =>
      rw [collectMentions]
      split
      · exact distinct
      · next found => cases missed.symm.trans found
  | case2 seen cs name rest found shorter username ih =>
      rw [collectMentions]
      split
      · exact distinct
      · next other remaining found' =>
        obtain ⟨rfl, rfl⟩ := Prod.mk.inj (Option.some.inj (found.symm.trans found'))
        apply ih
        split_ifs with known
        · exact distinct
        · exact List.nodup_append.mpr ⟨distinct, List.nodup_singleton _, by
            rintro first member second single rfl
            exact known (List.mem_singleton.mp single ▸ member)⟩

theorem mem_parseMentions_iff {content name : String} :
    name ∈ parseMentions content ↔
      ∃ run ∈ mentionedRuns content.toList, (String.ofList run).toLower = name := by
  rw [parseMentions_eq, List.mem_eraseDups, mentionedNames, List.mem_map]

/-! ### A mention between two texts -/

/-- What stands before an at sign is read as if the text ended there. -/
theorem leadingMention_append_at (c : Char) (cs rest : List Char) :
    leadingMention (c :: (cs ++ '@' :: rest)) = leadingMention (c :: cs) := by
  have same : (cs ++ '@' :: rest).takeWhile isUsernameChar = cs.takeWhile isUsernameChar := by
    have stops : ('@' :: rest).takeWhile isUsernameChar = [] := by
      rw [List.takeWhile_cons, isUsernameChar_at, if_neg Bool.false_ne_true]
    rw [List.takeWhile_append, stops, List.append_nil]
    split_ifs with whole
    · exact (List.takeWhile_sublist _).eq_of_length whole |>.symm
    · rfl
  rw [leadingMention, leadingMention, same]

/-- **A mention between two texts** is found beside those of the texts, and
nothing else is. -/
theorem mentionedRuns_append {run after : List Char} (before : List Char)
    (isRun : IsRun run after) :
    mentionedRuns (before ++ '@' :: (run ++ after)) =
      mentionedRuns before ++ run :: mentionedRuns after := by
  induction before with
  | nil =>
      have here : leadingMention ('@' :: (run ++ after)) = some run :=
        leadingMention_eq_some_iff.mpr ⟨after, rfl, isRun⟩
      rw [List.nil_append, mentionedRuns_cons, here, mentionedRuns_run_append isRun.all]
      rfl
  | cons c before ih =>
      rw [List.cons_append, mentionedRuns_cons, leadingMention_append_at, ih, mentionedRuns_cons,
        List.append_assoc]

/-- The usernames that can be registered are runs. -/
theorem isRun_of_acceptsUsername {username : String} {after : List Char}
    (accepted : CreateUserDto.acceptsUsername username)
    (ends : ∀ c ∈ after.head?, isUsernameChar c = false) : IsRun username.toList after := by
  obtain ⟨-, named⟩ := Bool.and_eq_true_iff.mp accepted
  obtain ⟨nonempty, all⟩ := Pattern.test_some_iff.mp named
  exact ⟨nonempty, all, ends⟩

/-! ### Every text -/

/-- **The parser returns exactly the mentions**: each maximal run of username
characters behind an at sign, in lower case, in the order of the text and
without repetition. A mention put between two texts adds the name and nothing
else. -/
theorem parseMentions_exact :
    (∀ content, parseMentions content = (mentionedNames content.toList).eraseDups ∧
      (parseMentions content).Nodup ∧
      ∀ name, name ∈ parseMentions content ↔ ∃ before run after,
        content.toList = before ++ '@' :: (run ++ after) ∧ IsRun run after ∧
          name = (String.ofList run).toLower) ∧
    ∀ p u q : String, CreateUserDto.acceptsUsername u →
      (∀ c ∈ q.toList.head?, isUsernameChar c = false) →
      u.toLower ∈ parseMentions (p ++ "@" ++ u ++ q) ∧
        ∀ name ∈ parseMentions (p ++ "@" ++ u ++ q),
          name = u.toLower ∨ name ∈ parseMentions p ∨ name ∈ parseMentions q := by
  constructor
  · intro content
    refine ⟨parseMentions_eq content, nodup_collectMentions List.nodup_nil, fun name => ?_⟩
    rw [mem_parseMentions_iff]
    constructor
    · rintro ⟨run, member, rfl⟩
      obtain ⟨before, after, split, isRun⟩ := mem_mentionedRuns_iff.mp member
      exact ⟨before, run, after, split, isRun, rfl⟩
    · rintro ⟨before, run, after, split, isRun, rfl⟩
      exact ⟨run, mem_mentionedRuns_iff.mpr ⟨before, after, split, isRun⟩, rfl⟩
  · intro p u q accepted ends
    have joined : (p ++ "@" ++ u ++ q).toList = p.toList ++ '@' :: (u.toList ++ q.toList) := by
      simp
    -- The runs of the joined text are those of its two parts and the new one.
    have runs := mentionedRuns_append p.toList (isRun_of_acceptsUsername accepted ends)
    rw [← joined] at runs
    simp only [mem_parseMentions_iff, runs]
    constructor
    · exact ⟨u.toList, List.mem_append_right _ List.mem_cons_self, by rw [String.ofList_toList]⟩
    · rintro _ ⟨run, member, rfl⟩
      rcases List.mem_append.mp member with before | later
      · exact .inr (.inl ⟨run, before, rfl⟩)
      · rcases List.mem_cons.mp later with rfl | after
        · exact .inl (by rw [String.ofList_toList])
        · exact .inr (.inr ⟨run, after, rfl⟩)

/-- A mention right behind others. -/
theorem JDoe_mentioned :
    "JDoe".toLower ∈ parseMentions ("@a@b cc" ++ "@" ++ "JDoe" ++ "!") ∧
      ∀ name ∈ parseMentions ("@a@b cc" ++ "@" ++ "JDoe" ++ "!"),
        name = "JDoe".toLower ∨ name ∈ parseMentions "@a@b cc" ∨ name ∈ parseMentions "!" := by
  refine parseMentions_exact.2 "@a@b cc" "JDoe" "!" (by decide +kernel) ?_
  rintro _ ⟨⟩
  decide

end IssueFlow
