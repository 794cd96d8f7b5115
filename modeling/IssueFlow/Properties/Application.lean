import IssueFlow.Http.Access

/-!
# The application refines the services

Requests over HTTP are handled together: routed, guarded, validated and passed
to the services, while the statements of all of them are interleaved in any way.
For the database this is an interleaving of requests of the services alone. A
request that the guard of tokens refuses never reaches the services, one that
only reads leaves no trace, and every other one is answered as the services
answer it.

## Main definitions

* `serviceRequests` — the requests of the services among requests over HTTP

## Main results

* `http_refines_services` — every run of the application is a run of the services
-/

namespace IssueFlow

open Store Semantics JavaScript

variable {β ι : Type} [ClassValidator] [ValidationPipe β] [ParseIntPipe]

/-- Does the request do more than read, once it is let through? -/
def IsServiceRequest (expiresInSeconds : ℕ) (requests : ι → HttpRequest β) (thread : ι) : Prop :=
  ((requests thread).request? expiresInSeconds).isSome

/-- The requests of the services. -/
def serviceRequests (expiresInSeconds : ℕ) (requests : ι → HttpRequest β)
    (thread : {thread // IsServiceRequest expiresInSeconds requests thread}) : Request :=
  ((requests thread).request? expiresInSeconds).get thread.2

variable [Postgres] [Bcrypt] [Unicode] [CsvStringify] [DecidableEq ι]

/-- **Every run of the application is a run of the services**, on the same
database and with the same answers; a request that was refused has not started
there. -/
theorem http_refines_services (db : Db) (expiresInSeconds : ℕ) (requests : ι → HttpRequest β)
    (fuel : ι → ℕ) (turns : List (Turn ι ℕ)) :
    ∃ turns' : List (Turn {thread // IsServiceRequest expiresInSeconds requests thread} ℕ),
      let app := Application.run db expiresInSeconds requests fuel turns
      let services := System.run db (serviceRequests expiresInSeconds requests)
        (fun thread => fuel thread) turns'
      services.state = app.state ∧ ∀ thread result', app.programs thread.1 = .done result' →
        (∃ result, services.programs thread = .done result ∧ answered result = result') ∨
          IsRefusal result' ∧ services.programs thread =
            (serviceRequests expiresInSeconds requests thread).program (fuel thread) := by
  have start : Config.Refines serviceStatements answered IsRefusal
      (fun thread : {thread // IsServiceRequest expiresInSeconds requests thread} =>
        (serviceRequests expiresInSeconds requests thread).program (fuel thread))
      (Application.start db expiresInSeconds requests fuel)
      (System.start db (serviceRequests expiresInSeconds requests) fun thread => fuel thread) := by
    refine Config.refines_start (fun thread => ?_) fun thread reads => ?_
    · exact HttpRequest.behind (Option.some_get thread.2).symm
    · exact HttpRequest.isQuiet (by simpa [IsServiceRequest] using reads)
  obtain ⟨turns', refines⟩ := start.play turns
  exact ⟨turns', refines.state, fun thread result' ended => refines.ended ended⟩

end IssueFlow
