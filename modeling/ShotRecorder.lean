import ShotRecorder.Command.Request
import ShotRecorder.Command.Run
import ShotRecorder.Command.Words
import ShotRecorder.Complaint
import ShotRecorder.Decimal.Binary
import ShotRecorder.Decimal.Reading
import ShotRecorder.Decimal.Shortest
import ShotRecorder.Decimal.Text
import ShotRecorder.Dispatch
import ShotRecorder.Event.Basic
import ShotRecorder.Event.File
import ShotRecorder.Event.Reading
import ShotRecorder.Event.Schema
import ShotRecorder.Fault
import ShotRecorder.Folder
import ShotRecorder.Http.Body
import ShotRecorder.Http.Location
import ShotRecorder.Http.Message
import ShotRecorder.Http.Origin
import ShotRecorder.Http.Server
import ShotRecorder.Http.Service
import ShotRecorder.Hub.Account
import ShotRecorder.Hub.Basic
import ShotRecorder.Hub.Perform
import ShotRecorder.Json.Basic
import ShotRecorder.Json.Reader
import ShotRecorder.Json.Shown
import ShotRecorder.Json.Texts
import ShotRecorder.Json.Writer
import ShotRecorder.Level
import ShotRecorder.Listing.Basic
import ShotRecorder.Listing.Request
import ShotRecorder.Logger
import ShotRecorder.Main
import ShotRecorder.Registry
import ShotRecorder.Replay
import ShotRecorder.Report
import ShotRecorder.Session
import ShotRecorder.Settings.Basic
import ShotRecorder.Settings.Configuration
import ShotRecorder.Settings.Reading
import ShotRecorder.Settings.VariableFile
import ShotRecorder.Shot.Basic
import ShotRecorder.Shot.Log
import ShotRecorder.Terminal.Action
import ShotRecorder.Terminal.Cells
import ShotRecorder.Terminal.Cells.Table
import ShotRecorder.Terminal.Emoji
import ShotRecorder.Terminal.Emoji.Names
import ShotRecorder.Terminal.Frame
import ShotRecorder.Terminal.Markup
import ShotRecorder.Terminal.Style
import ShotRecorder.Terminal.Wrap
import ShotRecorder.Text.Blank
import ShotRecorder.Text.Capital
import ShotRecorder.Text.Digits
import ShotRecorder.Text.Encoding
import ShotRecorder.Text.Halves
import ShotRecorder.Text.Integer
import ShotRecorder.Text.Lines
import ShotRecorder.Text.Numeral
import ShotRecorder.Text.Parts
import ShotRecorder.Text.Printable
import ShotRecorder.Text.Quoted
import ShotRecorder.Text.Small
import ShotRecorder.Timer.Basic
import ShotRecorder.Timer.Clock
import ShotRecorder.Timer.Loop
import ShotRecorder.Timer.Manual
import ShotRecorder.Proofs.Keeping
import ShotRecorder.Proofs.Matching
import ShotRecorder.Proofs.Aspects
import ShotRecorder.Proofs.Accounts
import ShotRecorder.Proofs.ArrivalOrder
import ShotRecorder.Proofs.Segments
import ShotRecorder.Proofs.Deliveries
import ShotRecorder.Proofs.PendingRefresh
import ShotRecorder.Proofs.Operations
import ShotRecorder.Proofs.Armed
import ShotRecorder.Proofs.Conservation
import ShotRecorder.Proofs.Pacing
import ShotRecorder.Proofs.Onlookers
import ShotRecorder.Proofs.Rounding
import ShotRecorder.Proofs.BinarySums
import ShotRecorder.Proofs.ForwardClocks
import ShotRecorder.Proofs.Replays
import ShotRecorder.Proofs.Listings
import ShotRecorder.Proofs.EventReading
import ShotRecorder.Proofs.Batches
import ShotRecorder.Proofs.Dependable
import ShotRecorder.Proofs.SentResults
import ShotRecorder.Proofs.AcceptedStream
import ShotRecorder.Proofs.FrozenShots
import ShotRecorder.Proofs.LoadedSettings
import ShotRecorder.Proofs.StringSpelling
import ShotRecorder.Proofs.NumberSpelling
import ShotRecorder.Proofs.Spelling
import ShotRecorder.Proofs.LineSpelling
import ShotRecorder.Proofs.FileLines
import ShotRecorder.Proofs.EventFiles
import ShotRecorder.Proofs.WrittenEvents
import ShotRecorder.Proofs.BothForms
import ShotRecorder.Proofs.RefreshStatus
import ShotRecorder.Proofs.TimerTrouble
import ShotRecorder.Proofs.Isolation
import ShotRecorder.Proofs.Interchange
import ShotRecorder.Proofs.Attention
import ShotRecorder.Proofs.RegistryHistory
import ShotRecorder.Proofs.Ledger
import ShotRecorder.Proofs.Registrations
import ShotRecorder.Proofs.MidDelivery
import ShotRecorder.Proofs.Attachment
import ShotRecorder.Proofs.ReadBack
import ShotRecorder.Proofs.FreeSpelling
import ShotRecorder.Proofs.SavedShots
import ShotRecorder.Proofs.MadeEvents
import ShotRecorder.Proofs.LevelReading
import ShotRecorder.Proofs.LoggerCalls
import ShotRecorder.Proofs.SettingsHubs
import ShotRecorder.Proofs.EscapedTexts
import ShotRecorder.Proofs.ReplayScreens
import ShotRecorder.Proofs.FrontEnds
