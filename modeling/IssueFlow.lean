import IssueFlow.Balance.LeastLoaded
import IssueFlow.Database.Assignees
import IssueFlow.Database.Columns
import IssueFlow.Database.Denylist
import IssueFlow.Database.Faults
import IssueFlow.Database.Mentions
import IssueFlow.Database.Migrate
import IssueFlow.Database.Pool
import IssueFlow.Database.Ranges
import IssueFlow.Database.Records
import IssueFlow.Database.Schema
import IssueFlow.Database.Service
import IssueFlow.Database.Transitions
import IssueFlow.Database.UserTransitions
import IssueFlow.Graph.Acyclic
import IssueFlow.Http.Access
import IssueFlow.Http.Application
import IssueFlow.Http.Blind
import IssueFlow.Http.Routes
import IssueFlow.Properties.AccessControl
import IssueFlow.Properties.Application
import IssueFlow.Properties.AttachmentFiles
import IssueFlow.Properties.AuditCompleteness
import IssueFlow.Properties.AuditDiffs
import IssueFlow.Properties.AuditTrail
import IssueFlow.Properties.AuditTransitions
import IssueFlow.Properties.AutoAssignment
import IssueFlow.Properties.BlockerCheck
import IssueFlow.Properties.ColumnConstraints
import IssueFlow.Properties.CommentTransactions
import IssueFlow.Properties.CsvAndPost
import IssueFlow.Properties.CsvRoundTrip
import IssueFlow.Properties.CsvRowIsolation
import IssueFlow.Properties.CycleCheck
import IssueFlow.Properties.DependencyGraph
import IssueFlow.Properties.ErrorsStoreNothing
import IssueFlow.Properties.Escalation
import IssueFlow.Properties.EscalationCycles
import IssueFlow.Properties.FailedUploads
import IssueFlow.Properties.FrozenTicket
import IssueFlow.Properties.HiddenTicket
import IssueFlow.Properties.Lifecycle
import IssueFlow.Properties.Login
import IssueFlow.Properties.Logout
import IssueFlow.Properties.MentionLoading
import IssueFlow.Properties.MentionPages
import IssueFlow.Properties.MentionParser
import IssueFlow.Properties.Migrations
import IssueFlow.Properties.NoDeadlock
import IssueFlow.Properties.Noninterference
import IssueFlow.Properties.NumberRanges
import IssueFlow.Properties.OptimisticLock
import IssueFlow.Properties.OverdueFlag
import IssueFlow.Properties.ProjectDependencies
import IssueFlow.Properties.ResolvedBlockers
import IssueFlow.Properties.Routing
import IssueFlow.Properties.Serializability
import IssueFlow.Properties.StoredMentions
import IssueFlow.Properties.TicketPatch
import IssueFlow.Properties.TokenLifetime
import IssueFlow.Properties.TrailReplay
import IssueFlow.Properties.UpdateEntries
import IssueFlow.Properties.VersionIdentity
import IssueFlow.Properties.Workload
import IssueFlow.Repositories.Comments
import IssueFlow.Repositories.Dependencies
import IssueFlow.Repositories.Projects
import IssueFlow.Repositories.Tickets
import IssueFlow.Repositories.Users
import IssueFlow.Semantics.Embedding
import IssueFlow.Semantics.Interleaving
import IssueFlow.Semantics.Projection
import IssueFlow.Semantics.Sequence
import IssueFlow.Semantics.Serializability
import IssueFlow.Semantics.Session
import IssueFlow.Semantics.Simulation
import IssueFlow.Semantics.Versioning
import IssueFlow.Services.AttachmentFiles
import IssueFlow.Services.Audit
import IssueFlow.Services.Auth
import IssueFlow.Services.Comments
import IssueFlow.Services.CsvExport
import IssueFlow.Services.CsvImport
import IssueFlow.Services.Dependencies
import IssueFlow.Services.Escalation
import IssueFlow.Services.Projects
import IssueFlow.Services.Tickets
import IssueFlow.Services.TokenLifetime
import IssueFlow.System.Attribution
import IssueFlow.System.AuditBlind
import IssueFlow.System.CsvRows
import IssueFlow.System.Cycles
import IssueFlow.System.HashBlind
import IssueFlow.System.LastVersion
import IssueFlow.System.Outlines
import IssueFlow.System.Passwords
import IssueFlow.System.Reads
import IssueFlow.System.Requests
import IssueFlow.System.Revisions
import IssueFlow.System.Sequential
import IssueFlow.System.Sessions
import IssueFlow.System.Shapes
import IssueFlow.System.TicketTrail
import IssueFlow.Text.Doubles
import IssueFlow.Text.JavaScript
import IssueFlow.Web.Routing
