import Mathlib.Tactic.Common

/-!
# A state told by its log

Every step of a machine adds entries to a log. A projection reads from an entry
what has become of the part of the state that it is about, so that the entries
replayed from the beginning tell what that part looks like now. A part whose
beginning was never logged stays unknown.

## Main definitions

* `Projection` — what is seen of a state, and what an entry tells of it
* `Projection.rebuild` — entries replayed
* `Projection.Tells` — entries that tell how one state has become another

## Main results

* `Projection.Tells.trans` — entries of consecutive steps
* `Projection.Sound.step` — a sound log stays sound
* `Projection.rebuild_filter` — only the entries about a part matter for it
-/

namespace IssueFlow.Semantics

/-- What is seen of a state under each key, and what an entry makes of what is
known about it. -/
structure Projection (σ ε κ ν : Type*) where
  view : σ → κ → Option ν
  tell : κ → Option ν → ε → Option ν

namespace Projection

variable {σ ε κ ν : Type*} (P : Projection σ ε κ ν)

/-- What is known after some entries. -/
def rebuild (key : κ) (known : Option ν) (entries : List ε) : Option ν :=
  entries.foldl (P.tell key) known

/-- The entry says nothing about a key. -/
def Silent (key : κ) (entry : ε) : Prop := ∀ known, P.tell key known entry = known

variable {P} {key : κ} {known : Option ν} {entry : ε} {entries later : List ε}
  {before middle after : σ}

@[simp] theorem rebuild_nil : P.rebuild key known [] = known := rfl

@[simp] theorem rebuild_cons :
    P.rebuild key known (entry :: entries) = P.rebuild key (P.tell key known entry) entries := rfl

theorem rebuild_append :
    P.rebuild key known (entries ++ later) = P.rebuild key (P.rebuild key known entries) later :=
  List.foldl_append

/-- Entries that are no news. -/
theorem rebuild_eq_self (nothing : ∀ entry ∈ entries, P.tell key known entry = known) :
    P.rebuild key known entries = known := by
  induction entries with
  | nil => rfl
  | cons entry entries ih =>
      rw [rebuild_cons, nothing entry List.mem_cons_self]
      exact ih fun other member => nothing other (List.mem_cons_of_mem _ member)

/-- Entries about other keys are no news. -/
theorem rebuild_of_silent (silent : ∀ entry ∈ entries, P.Silent key entry) :
    P.rebuild key known entries = known :=
  rebuild_eq_self fun entry member => silent entry member known

/-- **Only the entries about a key matter for it.** -/
theorem rebuild_filter (p : ε → Bool)
    (silent : ∀ entry ∈ entries, p entry = false → P.Silent key entry) :
    P.rebuild key known (entries.filter p) = P.rebuild key known entries := by
  induction entries generalizing known with
  | nil => rfl
  | cons entry entries ih =>
      have rest := fun other member => silent other (List.mem_cons_of_mem entry member)
      cases about : p entry with
      | true =>
          rw [List.filter_cons_of_pos about, rebuild_cons, rebuild_cons]
          exact ih rest
      | false =>
          rw [List.filter_cons_of_neg (Bool.eq_false_iff.mp about), rebuild_cons,
            silent entry List.mem_cons_self about]
          exact ih rest

/-- The entries tell how one state has become another: what was seen before is
led to what is seen after, and what becomes known is what is seen. -/
structure Tells (P : Projection σ ε κ ν) (entries : List ε) (before after : σ) : Prop where
  stored : ∀ {key seen}, P.view before key = some seen →
    ∃ seen', P.view after key = some seen' ∧ P.rebuild key (some seen) entries = some seen'
  fresh : ∀ {key seen}, P.rebuild key none entries = some seen → P.view after key = some seen

namespace Tells

/-- Nothing that was seen has changed, and the entries say nothing. -/
theorem of_silent (silent : ∀ key, ∀ entry ∈ entries, P.Silent key entry)
    (same : ∀ {key seen}, P.view before key = some seen → P.view after key = some seen) :
    P.Tells entries before after where
  stored found := ⟨_, same found, rebuild_of_silent (silent _)⟩
  fresh told := by
    rw [rebuild_of_silent (silent _)] at told
    cases told

theorem trans (first : P.Tells entries before middle) (second : P.Tells later middle after) :
    P.Tells (entries ++ later) before after where
  stored found := by
    obtain ⟨seen, here, told⟩ := first.stored found
    rw [rebuild_append, told]
    exact second.stored here
  fresh {key seen} told := by
    rw [rebuild_append] at told
    cases known : P.rebuild key none entries with
    | none =>
        rw [known] at told
        exact second.fresh told
    | some seen' =>
        -- What the first entries have told is what is seen in the middle.
        obtain ⟨last, found, again⟩ := second.stored (first.fresh known)
        rw [known, again] at told
        rw [found, told]

end Tells

/-- What the log tells of a state is what is seen of it. -/
def Sound (P : Projection σ ε κ ν) (log : List ε) (state : σ) : Prop :=
  ∀ {key seen}, P.rebuild key none log = some seen → P.view state key = some seen

/-- An empty log tells nothing. -/
theorem Sound.nil (state : σ) : P.Sound [] state := fun told => nomatch told

/-- **A sound log stays sound.** -/
theorem Sound.step {log : List ε} (sound : P.Sound log before)
    (tells : P.Tells entries before after) : P.Sound (log ++ entries) after := by
  intro key seen told
  rw [rebuild_append] at told
  cases known : P.rebuild key none log with
  | none =>
      rw [known] at told
      exact tells.fresh told
  | some old =>
      obtain ⟨new, found, again⟩ := tells.stored (sound known)
      rw [known, again] at told
      rw [found, told]

end Projection

end IssueFlow.Semantics
