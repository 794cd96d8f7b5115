import Mathlib.Logic.Relation
import Mathlib.Order.WellFoundedSet

/-!
# Acyclic relations

A relation is acyclic when no element leads back to itself. An edge whose head
does not lead to its tail may be added, edges may always be removed, and in a
finite nonempty set some element has no edge into the set.

## Main definitions

* `Acyclic` — no element leads back to itself
* `ClosesCycle` — an edge that would lie on a cycle

## Main results

* `Acyclic.insert` — adding an edge
* `not_reaches_of_closed` — a set closed under edges cannot be left
* `Acyclic.exists_minimal` — an element without edges into a finite set
-/

namespace IssueFlow.Graph

open Relation

variable {α : Type*} {r s : α → α → Prop} {a b tail head : α}

/-- No element leads back to itself. -/
def Acyclic (r : α → α → Prop) : Prop := ∀ a, ¬ TransGen r a a

/-- Removing edges keeps a relation acyclic. -/
theorem Acyclic.mono (acyclic : Acyclic r) (sub : ∀ a b, s a b → r a b) : Acyclic s :=
  fun a cycle => acyclic a (TransGen.mono sub a a cycle)

theorem acyclic_of_empty (empty : ∀ a b, ¬ r a b) : Acyclic r := by
  intro a cycle
  obtain ⟨b, edge, -⟩ := TransGen.head'_iff.mp cycle
  exact empty a b edge

/-- A set that is closed under edges cannot be left. -/
theorem not_reaches_of_closed {known : Set α} (closed : ∀ a ∈ known, ∀ b, r a b → b ∈ known)
    (start : a ∈ known) (outside : b ∉ known) : ¬ ReflTransGen r a b := by
  intro path
  have inside : b ∈ known := by
    clear outside
    induction path with
    | refl => exact start
    | tail _ edge inside => exact closed _ inside _ edge
  exact outside inside

/-- A path through the edge `tail → head` reaches `tail` without it. -/
private theorem reaches_tail (path : ReflTransGen (fun a b => r a b ∨ a = tail ∧ b = head) a b) :
    ReflTransGen r a b ∨ ReflTransGen r a tail := by
  induction path with
  | refl => exact .inl .refl
  | tail _ edge ih =>
      rcases ih with direct | through
      · rcases edge with old | ⟨rfl, rfl⟩
        · exact .inl (direct.tail old)
        · exact .inr direct
      · exact .inr through

/-- Would the edge `tail → head` lie on a cycle? With the edge added, its head
leads back to its tail. -/
def ClosesCycle (r : α → α → Prop) (tail head : α) : Prop :=
  ReflTransGen (fun a b => r a b ∨ a = tail ∧ b = head) head tail

/-- A cycle through a new edge comes back to its tail without it. -/
theorem closesCycle_iff : ClosesCycle r tail head ↔ ReflTransGen r head tail := by
  constructor
  · intro cycle
    exact (reaches_tail cycle).elim id id
  · intro back
    exact ReflTransGen.mono (fun _ _ old => .inl old) _ _ back

/-- **Adding an edge** whose head does not lead to its tail keeps a relation
acyclic. -/
theorem Acyclic.insert (acyclic : Acyclic r) (separated : ¬ ReflTransGen r head tail) :
    Acyclic fun a b => r a b ∨ a = tail ∧ b = head := by
  intro a cycle
  -- If the cycle uses the new edge, what follows it leads back to the tail.
  have uses_new : ∀ {c}, TransGen (fun a b => r a b ∨ a = tail ∧ b = head) a c →
      TransGen r a c ∨ ReflTransGen (fun a b => r a b ∨ a = tail ∧ b = head) head c ∧
        ReflTransGen r a tail := by
    intro c path
    induction path with
    | single edge =>
        rcases edge with old | ⟨rfl, rfl⟩
        · exact .inl (.single old)
        · exact .inr ⟨.refl, .refl⟩
    | tail _ edge ih =>
        rcases ih with direct | ⟨onward, toTail⟩
        · rcases edge with old | ⟨rfl, rfl⟩
          · exact .inl (direct.tail old)
          · exact .inr ⟨.refl, direct.to_reflTransGen⟩
        · exact .inr ⟨onward.tail edge, toTail⟩
  rcases uses_new cycle with old | ⟨onward, toTail⟩
  · exact acyclic a old
  · rcases reaches_tail onward with back | back
    · exact separated (back.trans toTail)
    · exact separated back

/-- **A minimal element.** In a finite nonempty set some element has no edge
into the set. -/
theorem Acyclic.exists_minimal (acyclic : Acyclic r) (s : Finset α) (nonempty : s.Nonempty) :
    ∃ a ∈ s, ∀ b, r a b → b ∉ s := by
  let before : α → α → Prop := fun a b => TransGen r b a
  have : IsStrictOrder α before :=
    { irrefl := fun a => acyclic a
      trans := fun a b c first second => second.trans first }
  have wellFounded : (s : Set α).WellFoundedOn before := s.finite_toSet.wellFoundedOn
  obtain ⟨⟨a, member⟩, -, minimal⟩ :=
    wellFounded.has_min Set.univ ⟨⟨_, nonempty.choose_spec⟩, trivial⟩
  exact ⟨a, member, fun b edge inside => minimal ⟨b, inside⟩ trivial (.single edge)⟩

end IssueFlow.Graph
