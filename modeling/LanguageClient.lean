import LanguageClient.Binary64
import LanguageClient.Call
import LanguageClient.Capabilities
import LanguageClient.ClientError
import LanguageClient.CodeLens
import LanguageClient.CompileStatus
import LanguageClient.Connection
import LanguageClient.Decimal.Shortest
import LanguageClient.DocumentSync
import LanguageClient.DomainName.Basic
import LanguageClient.DomainName.Composition
import LanguageClient.DomainName.Direction
import LanguageClient.DomainName.Joining
import LanguageClient.DomainName.Mapping
import LanguageClient.DomainName.Marks
import LanguageClient.DomainName.Punycode
import LanguageClient.Editor.Basic
import LanguageClient.Editor.Document
import LanguageClient.Editor.Event
import LanguageClient.Editor.EventHub
import LanguageClient.ExportFormat
import LanguageClient.Focus
import LanguageClient.Json.Basic
import LanguageClient.Json.Decode
import LanguageClient.Json.DecodeError
import LanguageClient.Json.Number
import LanguageClient.Json.Numeral
import LanguageClient.Json.Parser
import LanguageClient.Json.Printer
import LanguageClient.Path
import LanguageClient.Position
import LanguageClient.Preview
import LanguageClient.Proofs.Actions
import LanguageClient.Proofs.Attendance
import LanguageClient.Proofs.Classification
import LanguageClient.Proofs.CleanEnds
import LanguageClient.Proofs.ConfigurationPulls
import LanguageClient.Proofs.ConnectionCalls
import LanguageClient.Proofs.DocumentIdentity
import LanguageClient.Proofs.DueEvents
import LanguageClient.Proofs.EventAnnouncements
import LanguageClient.Proofs.EventDelivery
import LanguageClient.Proofs.EventHubLaws
import LanguageClient.Proofs.ExchangeTurns
import LanguageClient.Proofs.Expansion
import LanguageClient.Proofs.FocusTracking
import LanguageClient.Proofs.FrameBoundaries
import LanguageClient.Proofs.Framing
import LanguageClient.Proofs.HeaderBlocks
import LanguageClient.Proofs.HeaderLines
import LanguageClient.Proofs.HeldResources
import LanguageClient.Proofs.Histories
import LanguageClient.Proofs.IdleSessions
import LanguageClient.Proofs.JsonText
import LanguageClient.Proofs.KeyedLists
import LanguageClient.Proofs.LoopEvents
import LanguageClient.Proofs.LoopOrder
import LanguageClient.Proofs.MainFile
import LanguageClient.Proofs.Members
import LanguageClient.Proofs.MessageBody
import LanguageClient.Proofs.Milestones
import LanguageClient.Proofs.Numerals
import LanguageClient.Proofs.PlainValues
import LanguageClient.Proofs.PreviewAccount
import LanguageClient.Proofs.PreviewLaunch
import LanguageClient.Proofs.PreviewTeardown
import LanguageClient.Proofs.RequestMatching
import LanguageClient.Proofs.ServerMessages
import LanguageClient.Proofs.SessionCalls
import LanguageClient.Proofs.SessionLaws
import LanguageClient.Proofs.SessionLifecycle
import LanguageClient.Proofs.SessionRuns
import LanguageClient.Proofs.SettingsFrame
import LanguageClient.Proofs.StartAndStop
import LanguageClient.Proofs.StartUpTraffic
import LanguageClient.Proofs.TaskAccounts
import LanguageClient.Proofs.TransportRestarts
import LanguageClient.Proofs.Utf8
import LanguageClient.Proofs.WordTotals
import LanguageClient.Proofs.WriteOrder
import LanguageClient.Rehearsal.Conversation
import LanguageClient.Rehearsal.Description
import LanguageClient.Rehearsal.Log
import LanguageClient.Rehearsal.Play
import LanguageClient.Rehearsal.Script
import LanguageClient.Rehearsal.ServerProcess
import LanguageClient.Rehearsal.Stage
import LanguageClient.Rehearsal.Values
import LanguageClient.Rpc.Body
import LanguageClient.Rpc.Error
import LanguageClient.Rpc.Frame
import LanguageClient.Rpc.Message
import LanguageClient.Server.Binary
import LanguageClient.Server.FileSystem
import LanguageClient.ServerNotification
import LanguageClient.Session.Commands
import LanguageClient.Session.Inbound
import LanguageClient.Session.Lifecycle
import LanguageClient.Session.Loop
import LanguageClient.Session.Operation
import LanguageClient.Session.State
import LanguageClient.Settings.Basic
import LanguageClient.Settings.Placeholder
import LanguageClient.Settings.Policy
import LanguageClient.Settings.Pull
import LanguageClient.Settings.Resolved
import LanguageClient.Settings.Variables
import LanguageClient.TaskRegistry
import LanguageClient.Text.Blank
import LanguageClient.Text.CodeRange
import LanguageClient.Text.Duration
import LanguageClient.Text.Printable
import LanguageClient.Text.Quoted
import LanguageClient.Text.Split
import LanguageClient.Text.Utf8
import LanguageClient.Transport.Event
import LanguageClient.Transport.Exchange
import LanguageClient.Transport.Local
import LanguageClient.Uri.Basic
import LanguageClient.Uri.Fault
import LanguageClient.Uri.FilePath
import LanguageClient.Uri.Host
import LanguageClient.Uri.Percent
import LanguageClient.Uri.Reference
import LanguageClient.Proofs.FileUris
import LanguageClient.Proofs.CommandConduct
import LanguageClient.Proofs.WorkspaceRoot
import LanguageClient.Proofs.Payloads
import LanguageClient.Proofs.FileVariables
import LanguageClient.Proofs.SettingsReading
