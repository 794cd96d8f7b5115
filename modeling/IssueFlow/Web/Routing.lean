import Mathlib.Data.List.Basic
import Mathlib.Data.List.Forall2
import Mathlib.Data.List.Pairwise
import Mathlib.Data.List.Perm.Basic
import Mathlib.Data.List.Zip
import Mathlib.Tactic.Common

/-!
# Routing

A router tries its routes in the order in which they were registered and takes
the first one that matches. A segment of a route is a literal or a parameter, so
that two routes may match the same path; then the order decides. In a table that
lists the more specific of two such routes first, the route that is taken is the
most specific one, and tables without a path in common may be registered in any
order.

## Main definitions

* `Segment`, `Pattern.match?` — patterns, and what the parameters of one capture
* `Pattern.build` — the path with given values for the parameters
* `Pattern.Refines`, `Pattern.Apart` — one pattern is more specific; none matches both
* `Route`, `dispatch` — the first route that matches
* `Specific` — tables that list the more specific routes first
* `Plain` — a value that is no literal of a table

## Main results

* `Specific.refines_of_dispatch` — the route that is taken is the most specific one
* `Specific.dispatch_build` — a path that is built from a route is dispatched to it
* `dispatch_flatten_of_perm` — the order of tables that are apart does not matter
-/

namespace IssueFlow.Web

/-- A segment of a route; literals are compared after some normalization. -/
inductive Segment (τ : Type)
  | literal (text : τ)
  | param
  deriving DecidableEq, Repr

abbrev Pattern (τ : Type) := List (Segment τ)

variable {α τ ν η : Type} [DecidableEq τ] {normalize : α → τ}

namespace Segment

def admits (normalize : α → τ) : Segment τ → α → Bool
  | .literal text, given => normalize given = text
  | .param, _ => true

/-- The value of a parameter. -/
def captures : Segment τ → α → List α
  | .literal _, _ => []
  | .param, given => [given]

/-- Two different literals. -/
def clashes : Segment τ → Segment τ → Bool
  | .literal text, .literal other => text ≠ other
  | _, _ => false

variable {first second : Segment τ} {given : α}

omit [DecidableEq τ] in
theorem clashes_comm [DecidableEq τ] : first.clashes second = second.clashes first := by
  cases first <;> cases second <;> simp [clashes, eq_comm]

/-- Different literals do not admit the same text. -/
theorem not_admits_of_clashes (clash : first.clashes second = true)
    (admitted : first.admits normalize given = true) : second.admits normalize given = false := by
  cases first with
  | param => cases clash
  | literal text =>
      cases second with
      | param => cases clash
      | literal other =>
          obtain rfl : normalize given = text := of_decide_eq_true admitted
          exact decide_eq_false (of_decide_eq_true clash)

end Segment

namespace Pattern

/-- What the parameters of a pattern capture, if it matches a path. -/
def match? (normalize : α → τ) : Pattern τ → List α → Option (List α)
  | [], [] => some []
  | segment :: pattern, given :: path =>
      if segment.admits normalize given then
        (match? normalize pattern path).map (segment.captures given ++ ·)
      else none
  | _, _ => none

/-- A pattern matches a path of its length whose segments it admits. -/
theorem isSome_match?_iff {pattern : Pattern τ} {path : List α} :
    (pattern.match? normalize path).isSome ↔
      List.Forall₂ (fun segment given => segment.admits normalize given = true) pattern path := by
  induction pattern generalizing path with
  | nil => cases path <;> simp [match?]
  | cons segment pattern ih =>
      cases path with
      | nil => simp [match?]
      | cons given path =>
          rw [List.forall₂_cons, ← ih, match?]
          split_ifs with admitted <;> simp [admitted]

/-- The number of parameters. -/
def arity (pattern : Pattern τ) : ℕ := pattern.count .param

/-- The path with these values for the parameters; a literal is spelled out. -/
def build (spell : τ → α) : Pattern τ → List α → List α
  | [], _ => []
  | .literal text :: pattern, values => spell text :: build spell pattern values
  | .param :: pattern, value :: values => value :: build spell pattern values
  | .param :: _, [] => []

/-- The path that is built from a pattern matches it. -/
theorem match?_build {spell : τ → α} {pattern : Pattern τ} {values : List α}
    (spelled : ∀ text, .literal text ∈ pattern → normalize (spell text) = text)
    (enough : values.length = pattern.arity) :
    pattern.match? normalize (pattern.build spell values) = some values := by
  induction pattern generalizing values with
  | nil =>
      obtain rfl := List.length_eq_zero_iff.mp enough
      rfl
  | cons segment pattern ih =>
      have tail (values : List α) (enough : values.length = arity pattern) :
          match? normalize pattern (build spell pattern values) = some values :=
        ih (fun text member => spelled text (List.mem_cons_of_mem _ member)) enough
      cases segment with
      | literal text =>
          have rest := tail values (by simpa [arity] using enough)
          have admitted : (Segment.literal text).admits normalize (spell text) = true :=
            decide_eq_true (spelled text List.mem_cons_self)
          rw [build, match?, if_pos admitted, rest]
          rfl
      | param =>
          cases values with
          | nil => simp [arity] at enough
          | cons value values =>
              have rest := tail values (by simpa [arity] using enough)
              have admitted : (Segment.param : Segment τ).admits normalize value = true := rfl
              rw [build, match?, if_pos admitted, rest]
              rfl

/-- Every segment of the first pattern is the same in the second one, or a
parameter there. -/
def Refines (first second : Pattern τ) : Prop :=
  List.Forall₂ (fun segment other => segment = other ∨ other = .param) first second

instance (first second : Pattern τ) : Decidable (first.Refines second) :=
  inferInstanceAs (Decidable (List.Forall₂ _ _ _))

/-- The patterns differ in length or in a literal. -/
def Apart (first second : Pattern τ) : Prop :=
  first.length ≠ second.length ∨ ∃ pair ∈ first.zip second, pair.1.clashes pair.2 = true

instance (first second : Pattern τ) : Decidable (first.Apart second) :=
  inferInstanceAs (Decidable (_ ∨ _))

variable {first second : Pattern τ} {path : List α}

theorem Apart.symm (apart : first.Apart second) : second.Apart first := by
  rcases apart with length | ⟨⟨segment, other⟩, member, clash⟩
  · exact .inl length.symm
  · refine .inr ⟨(other, segment), ?_, Segment.clashes_comm.trans clash⟩
    rw [← List.zip_swap]
    exact List.mem_map.mpr ⟨_, member, rfl⟩

/-- **Patterns that are apart** match no path in common. -/
theorem Apart.match?_eq_none (apart : first.Apart second)
    (matched : (first.match? normalize path).isSome) : second.match? normalize path = none := by
  rw [← Option.not_isSome_iff_eq_none, isSome_match?_iff]
  rw [isSome_match?_iff] at matched
  intro both
  rcases apart with length | ⟨⟨segment, other⟩, member, clash⟩
  · exact length (matched.length_eq.trans both.length_eq.symm)
  · obtain ⟨n, bound, here⟩ := List.mem_iff_getElem.mp member
    rw [List.length_zip, Nat.lt_min] at bound
    have inPath : n < path.length := matched.length_eq ▸ bound.1
    rw [List.getElem_zip, Prod.mk.injEq] at here
    obtain ⟨rfl, rfl⟩ := here
    -- Both segments would have to admit the segment of the path at this place.
    have admitted := matched.get bound.1 inPath
    have admitted' := both.get bound.2 inPath
    cases (Segment.not_admits_of_clashes clash admitted).symm.trans admitted'

end Pattern

/-! ### Tables of routes -/

/-- A route: its method, its pattern and who handles it. -/
structure Route (ν τ η : Type) where
  verb : ν
  pattern : Pattern τ
  handler : η
  deriving DecidableEq, Repr

variable [DecidableEq ν]

namespace Route

/-- What the route captures, if it matches a request. -/
def match? (normalize : α → τ) (verb : ν) (path : List α) (route : Route ν τ η) :
    Option (List α) :=
  if route.verb = verb then route.pattern.match? normalize path else none

/-- No request matches both routes. -/
def Apart (first second : Route ν τ η) : Prop :=
  first.verb ≠ second.verb ∨ first.pattern.Apart second.pattern

instance (first second : Route ν τ η) : Decidable (first.Apart second) :=
  inferInstanceAs (Decidable (_ ∨ _))

variable {first second : Route ν τ η} {verb : ν} {path : List α}

omit [DecidableEq ν] in
theorem Apart.symm (apart : first.Apart second) : second.Apart first :=
  apart.imp Ne.symm Pattern.Apart.symm

theorem Apart.match?_eq_none (apart : first.Apart second)
    (matched : (first.match? normalize verb path).isSome) :
    second.match? normalize verb path = none := by
  unfold match? at matched ⊢
  by_cases mine : first.verb = verb
  · rw [if_pos mine] at matched
    split_ifs with other
    · rcases apart with verbs | patterns
      · exact absurd (mine.trans other.symm) verbs
      · exact patterns.match?_eq_none matched
    · rfl
  · rw [if_neg mine] at matched
    cases matched

end Route

/-- The first route that matches, and what it captures. -/
def dispatch (normalize : α → τ) (routes : List (Route ν τ η)) (verb : ν) (path : List α) :
    Option (Route ν τ η × List α) :=
  routes.findSome? fun route => (route.match? normalize verb path).map (route, ·)

section Dispatch

variable {routes first second : List (Route ν τ η)} {verb : ν} {path : List α}

theorem dispatch_append :
    dispatch normalize (first ++ second) verb path =
      (dispatch normalize first verb path).or (dispatch normalize second verb path) :=
  List.findSome?_append

/-- Nothing is dispatched exactly if no route matches. -/
theorem dispatch_eq_none_iff :
    dispatch normalize routes verb path = none ↔
      ∀ route ∈ routes, route.match? normalize verb path = none := by
  simp [dispatch, List.findSome?_eq_none_iff]

/-- What is dispatched is a route that matches. -/
theorem match?_of_dispatch {route : Route ν τ η} {captured : List α}
    (dispatched : dispatch normalize routes verb path = some (route, captured)) :
    route ∈ routes ∧ route.match? normalize verb path = some captured := by
  obtain ⟨found, member, same⟩ := List.exists_of_findSome?_eq_some dispatched
  obtain ⟨_, matched, same⟩ := Option.map_eq_some_iff.mp same
  obtain ⟨rfl, rfl⟩ := Prod.mk.inj same
  exact ⟨member, matched⟩

/-- Every route is more specific than the later ones, or no request matches both. -/
def Specific (routes : List (Route ν τ η)) : Prop :=
  routes.Pairwise fun route later => route.Apart later ∨ route.pattern.Refines later.pattern

instance (routes : List (Route ν τ η)) : Decidable (Specific routes) :=
  inferInstanceAs (Decidable (routes.Pairwise _))

/-- **The most specific route is taken.** Every other route that matches is a
generalization of it. -/
theorem Specific.refines_of_dispatch (specific : Specific routes) {route : Route ν τ η}
    {captured : List α}
    (dispatched : dispatch normalize routes verb path = some (route, captured)) :
    ∀ other ∈ routes, (other.match? normalize verb path).isSome →
      other = route ∨ route.pattern.Refines other.pattern := by
  induction routes with
  | nil => cases dispatched
  | cons first routes ih =>
      obtain ⟨earlier, specific⟩ := List.pairwise_cons.mp specific
      intro other member matched
      rw [dispatch, List.findSome?_cons] at dispatched
      cases here : first.match? normalize verb path with
      | none =>
          rw [here] at dispatched
          rcases List.mem_cons.mp member with rfl | later
          · rw [here] at matched
            cases matched
          · exact ih specific dispatched other later matched
      | some value =>
          -- The first route matches, so it is the one that is taken.
          rw [here] at dispatched
          obtain ⟨rfl, -⟩ := Prod.mk.inj (Option.some.inj dispatched)
          rcases List.mem_cons.mp member with rfl | later
          · exact .inl rfl
          · refine (earlier other later).resolve_left (fun apart => ?_) |> .inr
            rw [apart.match?_eq_none (by rw [here]; rfl)] at matched
            cases matched

/-- No two routes have the same method and pattern. -/
def Distinct (routes : List (Route ν τ η)) : Prop :=
  routes.Pairwise fun route later => route.verb ≠ later.verb ∨ route.pattern ≠ later.pattern

instance (routes : List (Route ν τ η)) : Decidable (Distinct routes) :=
  inferInstanceAs (Decidable (routes.Pairwise _))

omit [DecidableEq τ] [DecidableEq ν] in
theorem Distinct.eq (distinct : Distinct routes) {route other : Route ν τ η}
    (member : route ∈ routes) (otherMember : other ∈ routes) (verbs : route.verb = other.verb)
    (patterns : route.pattern = other.pattern) : route = other := by
  by_contra different
  have symmetric : Std.Symm fun route later : Route ν τ η =>
      route.verb ≠ later.verb ∨ route.pattern ≠ later.pattern :=
    ⟨fun _ _ => Or.imp Ne.symm Ne.symm⟩
  rcases distinct.forall member otherMember different with verbs' | patterns'
  · exact verbs' verbs
  · exact patterns' patterns

/-- The value is no literal of a route. -/
def Plain (normalize : α → τ) (routes : List (Route ν τ η)) (value : α) : Prop :=
  ∀ route ∈ routes, ∀ text, .literal text ∈ route.pattern → normalize value ≠ text

omit [DecidableEq ν] in
/-- A more specific pattern that matches a path is the same one, when the
parameters have captured no literal. -/
theorem Pattern.Refines.eq_of_plain {pattern other : Pattern τ} (refines : other.Refines pattern)
    (matched : (other.match? normalize path).isSome) {captured : List α}
    (captures : pattern.match? normalize path = some captured)
    (plain : ∀ value ∈ captured, ∀ text, .literal text ∈ other → normalize value ≠ text) :
    other = pattern := by
  induction refines generalizing path captured with
  | nil => rfl
  | @cons segment general _ pattern same _ ih =>
      cases path with
      | nil => cases captures
      | cons given path =>
          rw [Pattern.match?] at matched captures
          have admitted : segment.admits normalize given = true := by
            by_contra not
            rw [if_neg not] at matched
            cases matched
          rw [if_pos admitted, Option.isSome_map] at matched
          split_ifs at captures
          obtain ⟨values, tail, rfl⟩ := Option.map_eq_some_iff.mp captures
          have rest := ih matched tail fun value member text literal =>
            plain value (List.mem_append_right _ member) text (List.mem_cons_of_mem _ literal)
          rcases same with rfl | rfl
          · rw [rest]
          · cases segment with
            | param => rw [rest]
            | literal text =>
                -- The parameter has captured a segment that the literal admits.
                have captured : given ∈ (Segment.param : Segment τ).captures given ++ values :=
                  List.mem_append_left _ List.mem_cons_self
                exact absurd (of_decide_eq_true admitted)
                  (plain given captured text List.mem_cons_self)

/-- **A path that is built from a route** with plain values is dispatched to this
route, and the values are captured. -/
theorem Specific.dispatch_build (specific : Specific routes) (distinct : Distinct routes)
    {spell : τ → α} {route : Route ν τ η} (member : route ∈ routes)
    (spelled : ∀ text, .literal text ∈ route.pattern → normalize (spell text) = text)
    {values : List α} (enough : values.length = route.pattern.arity)
    (plain : ∀ value ∈ values, Plain normalize routes value) :
    dispatch normalize routes route.verb (route.pattern.build spell values) =
      some (route, values) := by
  have matched : route.match? normalize route.verb (route.pattern.build spell values) =
      some values := by
    rw [Route.match?, if_pos rfl]
    exact Pattern.match?_build spelled enough
  cases found : dispatch normalize routes route.verb (route.pattern.build spell values) with
  | none =>
      rw [dispatch_eq_none_iff.mp found route member] at matched
      cases matched
  | some taken =>
      obtain ⟨other, captured⟩ := taken
      obtain ⟨otherMember, otherMatched⟩ := match?_of_dispatch found
      suffices same : route = other by
        subst same
        rw [matched] at otherMatched
        rw [Option.some.inj otherMatched]
      refine (specific.refines_of_dispatch found route member (by rw [matched]; rfl)).elim id ?_
      intro refines
      rw [Route.match?] at matched otherMatched
      split_ifs at otherMatched with verbs
      rw [if_pos rfl] at matched
      refine (distinct.eq otherMember member verbs ?_).symm
      exact refines.eq_of_plain (by rw [otherMatched]; rfl) matched
        fun value captured text literal =>
          plain value captured other otherMember text literal

/-- No request matches a route of each table. -/
def TablesApart (first second : List (Route ν τ η)) : Prop :=
  ∀ route ∈ first, ∀ other ∈ second, route.Apart other

instance (first second : List (Route ν τ η)) : Decidable (TablesApart first second) :=
  inferInstanceAs (Decidable (∀ route ∈ first, ∀ other ∈ second, _))

omit [DecidableEq ν] in
theorem TablesApart.symm (apart : TablesApart first second) : TablesApart second first :=
  fun route member other otherMember => (apart other otherMember route member).symm

/-- Tables that are apart may change places. -/
theorem TablesApart.dispatch_or (apart : TablesApart first second) :
    (dispatch normalize first verb path).or (dispatch normalize second verb path) =
      (dispatch normalize second verb path).or (dispatch normalize first verb path) := by
  cases found : dispatch normalize first verb path with
  | none => cases dispatch normalize second verb path <;> rfl
  | some taken =>
      obtain ⟨member, matched⟩ := match?_of_dispatch found
      have none : dispatch normalize second verb path = none := by
        rw [dispatch_eq_none_iff]
        exact fun other otherMember =>
          (apart _ member other otherMember).match?_eq_none (by rw [matched]; rfl)
      rw [none]
      rfl

/-- **The order of tables that are apart does not matter.** -/
theorem dispatch_flatten_of_perm {tables order : List (List (Route ν τ η))}
    (perm : order.Perm tables) (apart : tables.Pairwise TablesApart) :
    dispatch normalize order.flatten verb path = dispatch normalize tables.flatten verb path := by
  induction perm with
  | nil => rfl
  | cons table _ ih =>
      rw [List.flatten_cons, List.flatten_cons, dispatch_append, dispatch_append,
        ih (List.pairwise_cons.mp apart).2]
  | swap first second tables =>
      obtain ⟨here, -⟩ := List.pairwise_cons.mp apart
      simp only [List.flatten_cons, dispatch_append, ← Option.or_assoc]
      rw [(here second List.mem_cons_self).dispatch_or]
  | trans first _ ih ih' =>
      have middle := (‹List.Perm _ _›.pairwise_iff fun apart => TablesApart.symm apart).mpr apart
      exact (ih middle).trans (ih' apart)

end Dispatch

end IssueFlow.Web
