import PhoneTree.Action
import PhoneTree.Call.History
import PhoneTree.Call.Json
import PhoneTree.Call.Params
import PhoneTree.Call.Recording
import PhoneTree.Call.Session
import PhoneTree.Call.Status
import PhoneTree.Call.Turn
import PhoneTree.CallError
import PhoneTree.Database.Row
import PhoneTree.Database.Statement
import PhoneTree.Database.Store
import PhoneTree.Database.Table
import PhoneTree.Dialogue
import PhoneTree.Document.Datum
import PhoneTree.Document.Record
import PhoneTree.Failure
import PhoneTree.Flow.Context
import PhoneTree.Flow.Markup
import PhoneTree.Flow.Routes
import PhoneTree.Flow.Step
import PhoneTree.Http.Address
import PhoneTree.Http.Endpoint
import PhoneTree.Http.Router
import PhoneTree.Id
import PhoneTree.Job
import PhoneTree.Job.Schedule
import PhoneTree.Json.Field
import PhoneTree.Json.Reader
import PhoneTree.Json.Value
import PhoneTree.Json.Writer
import PhoneTree.Main
import PhoneTree.Memory.AudioFolder
import PhoneTree.Memory.Faults
import PhoneTree.Memory.Store
import PhoneTree.Memory.World
import PhoneTree.PhoneNumber
import PhoneTree.Proofs.Answers
import PhoneTree.Proofs.CallService
import PhoneTree.Proofs.Callbacks
import PhoneTree.Proofs.Command
import PhoneTree.Proofs.CommandConduct
import PhoneTree.Proofs.CommandFootprint
import PhoneTree.Proofs.CommandGrowth
import PhoneTree.Proofs.Conduct
import PhoneTree.Proofs.Copies
import PhoneTree.Proofs.Dialogue
import PhoneTree.Proofs.Exchange
import PhoneTree.Proofs.FlowSteps
import PhoneTree.Proofs.Footprint
import PhoneTree.Proofs.Intact
import PhoneTree.Proofs.LifecycleHooks
import PhoneTree.Proofs.OpenWorld
import PhoneTree.Proofs.Pool
import PhoneTree.Proofs.Revision
import PhoneTree.Proofs.SessionService
import PhoneTree.Proofs.SessionUpdates
import PhoneTree.Proofs.SettledTurns
import PhoneTree.Proofs.SilentCaller
import PhoneTree.Proofs.StaticDocument
import PhoneTree.Proofs.StaticTree
import PhoneTree.Proofs.StatusRace
import PhoneTree.Proofs.TreeSafety
import PhoneTree.Proofs.TurnConduct
import PhoneTree.Proofs.TurnWrites
import PhoneTree.Proofs.WebhookPaths
import PhoneTree.Proofs.WebhookService
import PhoneTree.Provider.Client
import PhoneTree.Provider.Message
import PhoneTree.Report.Answer
import PhoneTree.Report.Call
import PhoneTree.Report.Error
import PhoneTree.Report.Label
import PhoneTree.Report.Settings
import PhoneTree.Report.Startup
import PhoneTree.Report.Tree
import PhoneTree.Script.Call
import PhoneTree.Script.Database
import PhoneTree.Script.Declaration
import PhoneTree.Script.Error
import PhoneTree.Script.Expression
import PhoneTree.Script.Markup
import PhoneTree.Script.Provider
import PhoneTree.Script.Surroundings
import PhoneTree.Server.LogFilter
import PhoneTree.Server.Offline
import PhoneTree.Server.Startup
import PhoneTree.Service.Call
import PhoneTree.Service.Caller
import PhoneTree.Service.Jobs
import PhoneTree.Service.Outgoing
import PhoneTree.Service.Recording
import PhoneTree.Service.Session
import PhoneTree.Settings.Basic
import PhoneTree.Settings.Document
import PhoneTree.Settings.Environment
import PhoneTree.Settings.SocketAddress
import PhoneTree.Text.Base64
import PhoneTree.Text.Blank
import PhoneTree.Text.CaseTable
import PhoneTree.Text.Decimal
import PhoneTree.Text.Hex
import PhoneTree.Text.Invisible
import PhoneTree.Text.Lowercase
import PhoneTree.Text.Outline
import PhoneTree.Text.Percent
import PhoneTree.Text.Quoted
import PhoneTree.Text.Ranges
import PhoneTree.Text.Scientific
import PhoneTree.Text.Utf8
import PhoneTree.Timestamp
import PhoneTree.Tree.Definition
import PhoneTree.Tree.Document
import PhoneTree.Tree.Error
import PhoneTree.Tree.Folder
import PhoneTree.Tree.Gather
import PhoneTree.Tree.Menu
import PhoneTree.Tree.Message
import PhoneTree.Tree.Outline
import PhoneTree.Tree.Prompt
import PhoneTree.Tree.Registry
import PhoneTree.Yaml.Cursor
import PhoneTree.Yaml.Node
import PhoneTree.Yaml.Scalar
import PhoneTree.Yaml.Token
import PhoneTree.Proofs.Routing
import PhoneTree.Proofs.Ties
import PhoneTree.Proofs.CommandTies
import PhoneTree.Proofs.Coherence
import PhoneTree.Proofs.References
import PhoneTree.Proofs.Isolation
import PhoneTree.Proofs.FollowUp
import PhoneTree.Proofs.WebhookWalk
import PhoneTree.Proofs.Receiving
import PhoneTree.Proofs.Reception
import PhoneTree.Proofs.Arrival
import PhoneTree.Proofs.InboundRace
import PhoneTree.Proofs.CallLength
import PhoneTree.Proofs.StepView
import PhoneTree.Proofs.MarkupReading
import PhoneTree.Proofs.WellFormed
import PhoneTree.Proofs.StoredRows
import PhoneTree.Proofs.TimeoutWindow
import PhoneTree.Proofs.LateTimeouts
import PhoneTree.Proofs.StepShape
import PhoneTree.Proofs.Redelivery
import PhoneTree.Proofs.Stepless
import PhoneTree.Proofs.FailedSteps
import PhoneTree.Proofs.StatusUpdates
import PhoneTree.Proofs.MessageShape
import PhoneTree.Proofs.Retries
import PhoneTree.Proofs.RecordedTurns
import PhoneTree.Proofs.StoredSessions
import PhoneTree.Proofs.Disturbances
import PhoneTree.Proofs.CanonicalNumbers
import PhoneTree.Proofs.CallerRequests
import PhoneTree.Proofs.CallerIdentity
import PhoneTree.Proofs.ForeignNumbers
import PhoneTree.Proofs.FirstVisits
import PhoneTree.Proofs.Transcript
import PhoneTree.Proofs.MessageOrder
import PhoneTree.Proofs.KeypadNumbers
import PhoneTree.Proofs.MessageBatch
import PhoneTree.Proofs.AttachedAudio
