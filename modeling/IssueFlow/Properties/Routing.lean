import IssueFlow.Http.Routes

/-!
# Routing

A literal of a route may be taken for a parameter of another one: `GET
/tickets/export` is also of the form `GET /tickets/:ticketId`. Within a
controller the more specific routes are declared first, and the routes of two
controllers have no path in common. So the order in which the modules register
their controllers does not matter, a request is handled by the most specific
route, and no route is shadowed by another one.

## Main definitions

* `appRoutes` — the routes of all controllers

## Main results

* `routing_order_free` — routing, for every order of the controllers
* `routing_reversed` — the controllers in the opposite order
-/

namespace IssueFlow

open Web

/-- The routes of all controllers. -/
def appRoutes : List AppRoute := (controllers.map Controller.routes).flatten

/-! ### The table -/

theorem appRoutes_specific : Specific appRoutes := by decide +kernel

theorem appRoutes_distinct : Distinct appRoutes := by decide +kernel

theorem controllers_apart : (controllers.map Controller.routes).Pairwise TablesApart := by
  decide +kernel

/-- A literal is in lower case and no number. -/
def IsPlainLiteral : Segment RawText → Prop
  | .literal (.other text) => text.toLower = text
  | .literal (.natural _) => False
  | .param => True

instance : DecidablePred IsPlainLiteral
  | .literal (.other text) => inferInstanceAs (Decidable (text.toLower = text))
  | .literal (.natural _) => .isFalse id
  | .param => .isTrue trivial

theorem appRoutes_plain : ∀ route ∈ appRoutes, ∀ part ∈ route.pattern, IsPlainLiteral part := by
  decide +kernel

theorem fold_literal {route : AppRoute} (member : route ∈ appRoutes) (text : RawText)
    (literal : .literal text ∈ route.pattern) : text.fold = text := by
  have plain := appRoutes_plain route member _ literal
  cases text with
  | natural n => exact plain.elim
  | other text => exact congrArg RawText.other plain

/-- No literal is a number. -/
theorem plain_natural (n : ℕ) : Plain RawText.fold appRoutes (.natural n) := by
  intro route member text literal
  have plain := appRoutes_plain route member _ literal
  cases text with
  | natural n => exact plain.elim
  | other text => exact nofun

/-- The order of the controllers does not matter. -/
theorem route?_of_perm {order : List Controller} (perm : order.Perm controllers) (verb : Verb)
    (path : List RawText) : route? order verb path = dispatch RawText.fold appRoutes verb path :=
  dispatch_flatten_of_perm (perm.map Controller.routes) controllers_apart

/-- **Routing.** In whatever order the controllers are registered, a request is
handled by the most specific of the routes that match it, and by none only if no
route matches; and a path that is built from a route and numbers is handled by
this route, which captures the numbers. -/
theorem routing_order_free {order : List Controller} (perm : order.Perm controllers) :
    (∀ (verb : Verb) (path : List RawText),
      (route? order verb path = none ↔
        ∀ route ∈ appRoutes, route.match? RawText.fold verb path = none) ∧
      ∀ route captured, route? order verb path = some (route, captured) →
        route ∈ appRoutes ∧ route.match? RawText.fold verb path = some captured ∧
          ∀ other ∈ appRoutes, (other.match? RawText.fold verb path).isSome →
            other = route ∨ route.pattern.Refines other.pattern) ∧
    ∀ route ∈ appRoutes, ∀ ids : List ℕ, ids.length = route.pattern.arity →
      route? order route.verb (route.pattern.build id (ids.map .natural)) =
        some (route, ids.map .natural) := by
  refine ⟨fun verb path => ?_, fun route member ids enough => ?_⟩
  · rw [route?_of_perm perm]
    refine ⟨dispatch_eq_none_iff, fun route captured dispatched => ?_⟩
    obtain ⟨member, matched⟩ := match?_of_dispatch dispatched
    exact ⟨member, matched, appRoutes_specific.refines_of_dispatch dispatched⟩
  · rw [route?_of_perm perm]
    apply appRoutes_specific.dispatch_build appRoutes_distinct member (fold_literal member)
    · rw [List.length_map, enough]
    · intro value given
      obtain ⟨n, -, rfl⟩ := List.mem_map.mp given
      exact plain_natural n

/-- The controllers in the opposite order. -/
theorem routing_reversed :
    route? controllers.reverse .get [.other "Tickets", .other "EXPORT"] =
        some (⟨.get, [segment "tickets", segment "export"], .guarded .exportCsv⟩, []) ∧
      ∀ route ∈ appRoutes, ∀ ids : List ℕ, ids.length = route.pattern.arity →
        route? controllers.reverse route.verb (route.pattern.build id (ids.map .natural)) =
          some (route, ids.map .natural) :=
  ⟨by decide +kernel, (routing_order_free (List.reverse_perm controllers)).2⟩

end IssueFlow
