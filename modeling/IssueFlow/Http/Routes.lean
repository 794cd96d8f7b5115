import IssueFlow.Database.Schema
import IssueFlow.Web.Routing

/-!
# The routes of the controllers

Every controller with its path and the paths of its methods, in the order in
which the source declares them. A public method is called without a token; all
others are guarded, some of them by roles as well.

## Main definitions

* `Endpoint`, `Endpoint.roles` — the guarded methods, and the roles they are for
* `Handler` — a public or a guarded method
* `Controller`, `controllers` — the controllers and their routes
-/

namespace IssueFlow

open Web

/-- The methods that some route uses, and any other one. A `HEAD` is a `get`:
Express serves it by the same routes. -/
inductive Verb
  | get
  | post
  | patch
  | delete
  | other
  deriving DecidableEq, Repr

/-- A text of a request line, by what `Number` makes of it. -/
inductive RawText
  | natural (n : ℕ)
  | other (text : String)
  deriving DecidableEq, Repr

/-- Literals of a route are compared without regard to case. -/
def RawText.fold : RawText → RawText
  | natural n => natural n
  | other text => other text.toLower

/-- The methods marked `@Public()`. -/
inductive PublicEndpoint
  | getHello
  | health
  | createUser
  | login
  deriving DecidableEq, Repr

/-- The methods that need a token. -/
inductive Endpoint
  | findAuditLogs
  | findAllUsers
  | findUser
  | updateUser
  | removeUser
  | logout
  | me
  | findAllProjects
  | findDeletedProjects
  | findProject
  | createProject
  | updateProject
  | removeProject
  | restoreProject
  | exportCsv
  | importCsv
  | findDeletedTickets
  | findAllTickets
  | findTicket
  | createTicket
  | updateTicket
  | removeTicket
  | restoreTicket
  | addDependency
  | listDependencies
  | removeDependency
  | getWorkload
  | findAllComments
  | createComment
  | updateComment
  | removeComment
  | findMentions
  | runEscalation
  | uploadAttachment
  | listAttachments
  | removeAttachment
  deriving DecidableEq, Repr

/-- `@UseGuards(RolesGuard)` with `@Roles(…)`. -/
def Endpoint.roles : Endpoint → Option (List UserRole)
  | findDeletedProjects | restoreProject | findDeletedTickets | restoreTicket | runEscalation =>
      some [.admin]
  | _ => none

inductive Handler
  | unguarded (endpoint : PublicEndpoint)
  | guarded (endpoint : Endpoint)
  deriving DecidableEq, Repr

abbrev AppRoute := Route Verb RawText Handler

/-- A segment of a path that is given as it is. -/
def segment (text : String) : Segment RawText := .literal (.other text)

/-- A controller: its path and its methods. -/
structure Controller where
  path : Pattern RawText
  methods : List (Verb × Pattern RawText × Handler)

/-- The path of a method is appended to the path of its controller. -/
def Controller.routes (controller : Controller) : List AppRoute :=
  controller.methods.map fun (verb, path, handler) => ⟨verb, controller.path ++ path, handler⟩

def AppController : Controller where
  path := []
  methods :=
    [(.get, [], .unguarded .getHello),
      (.get, [segment "health"], .unguarded .health)]

def AuditController : Controller where
  path := [segment "audit-logs"]
  methods := [(.get, [], .guarded .findAuditLogs)]

def UsersController : Controller where
  path := [segment "users"]
  methods :=
    [(.get, [], .guarded .findAllUsers),
      (.get, [.param], .guarded .findUser),
      (.post, [], .unguarded .createUser),
      (.post, [segment "update", .param], .guarded .updateUser),
      (.delete, [.param], .guarded .removeUser)]

def AuthController : Controller where
  path := [segment "auth"]
  methods :=
    [(.post, [segment "login"], .unguarded .login),
      (.post, [segment "logout"], .guarded .logout),
      (.get, [segment "me"], .guarded .me)]

def ProjectsController : Controller where
  path := [segment "projects"]
  methods :=
    [(.get, [], .guarded .findAllProjects),
      (.get, [segment "deleted"], .guarded .findDeletedProjects),
      (.get, [.param], .guarded .findProject),
      (.post, [], .guarded .createProject),
      (.patch, [.param], .guarded .updateProject),
      (.delete, [.param], .guarded .removeProject),
      (.post, [.param, segment "restore"], .guarded .restoreProject)]

def TicketsController : Controller where
  path := [segment "tickets"]
  methods :=
    [(.get, [segment "export"], .guarded .exportCsv),
      (.post, [segment "import"], .guarded .importCsv),
      (.get, [segment "deleted"], .guarded .findDeletedTickets),
      (.get, [], .guarded .findAllTickets),
      (.get, [.param], .guarded .findTicket),
      (.post, [], .guarded .createTicket),
      (.patch, [.param], .guarded .updateTicket),
      (.delete, [.param], .guarded .removeTicket),
      (.post, [.param, segment "restore"], .guarded .restoreTicket)]

def DependenciesController : Controller where
  path := [segment "tickets", .param, segment "dependencies"]
  methods :=
    [(.post, [], .guarded .addDependency),
      (.get, [], .guarded .listDependencies),
      (.delete, [.param], .guarded .removeDependency)]

def WorkloadController : Controller where
  path := [segment "projects", .param, segment "workload"]
  methods := [(.get, [], .guarded .getWorkload)]

def CommentsController : Controller where
  path := [segment "tickets", .param, segment "comments"]
  methods :=
    [(.get, [], .guarded .findAllComments),
      (.post, [], .guarded .createComment),
      (.patch, [.param], .guarded .updateComment),
      (.delete, [.param], .guarded .removeComment)]

def UserMentionsController : Controller where
  path := [segment "users", .param, segment "mentions"]
  methods := [(.get, [], .guarded .findMentions)]

def SchedulerController : Controller where
  path := [segment "admin", segment "escalation"]
  methods := [(.post, [segment "run"], .guarded .runEscalation)]

def AttachmentsController : Controller where
  path := [segment "tickets", .param, segment "attachments"]
  methods :=
    [(.post, [], .guarded .uploadAttachment),
      (.get, [], .guarded .listAttachments),
      (.delete, [.param], .guarded .removeAttachment)]

/-- The controllers of all modules. -/
def controllers : List Controller :=
  [AppController, AuditController, UsersController, AuthController, ProjectsController,
    TicketsController, DependenciesController, WorkloadController, CommentsController,
    UserMentionsController, SchedulerController, AttachmentsController]

/-- The route of a request, when the controllers are registered in some order. -/
def route? (order : List Controller) (verb : Verb) (path : List RawText) :
    Option (AppRoute × List RawText) :=
  dispatch RawText.fold (order.map Controller.routes).flatten verb path

end IssueFlow
