import DevBridge.Lib.AutoTable
import DevBridge.Lib.F64
import DevBridge.Lib.Decimal
import DevBridge.Lib.Table
import DevBridge.Lib.Chunks
import DevBridge.Lib.Tokens
import DevBridge.Lib.Transition
import DevBridge.Lib.UrlQuery
import DevBridge.Lib.Volume
import DevBridge.Lib.Files
import DevBridge.Lib.Scripted
import DevBridge.Lib.BigEndian
import DevBridge.Lib.Cursor
import DevBridge.Lib.Scan
import DevBridge.Lib.Quoted
import DevBridge.Json
import DevBridge.Text
import DevBridge.Api
import DevBridge.AckParams
import DevBridge.Journal.Row
import DevBridge.Journal.Store
import DevBridge.Journal.Ops
import DevBridge.Journal.Effects
import DevBridge.Journal.Runs
import DevBridge.Source.Executor
import DevBridge.Source.World
import DevBridge.Source.Control
import DevBridge.Source.Lan
import DevBridge.Source.Tasks
import DevBridge.Source.Step
import DevBridge.Source.Work
import DevBridge.Source.Shape
import DevBridge.Source.Jobs
import DevBridge.Source.AtMostOnce
import DevBridge.Source.Calls
import DevBridge.Source.Acks
import DevBridge.Source.NotReceived
import DevBridge.Source.Talk
import DevBridge.Portos.Payload
import DevBridge.Portos.Outcome
import DevBridge.Portos.Executor
import DevBridge.Portos.Calls
import DevBridge.Portos.Failed
import DevBridge.LanCert.Store
import DevBridge.LanCert.Calls
import DevBridge.LanCert.Renewals
import DevBridge.LanCert.Issuer
import DevBridge.LanCert.Orders
import DevBridge.Labels.Ledger
import DevBridge.Labels.Source
import DevBridge.Labels.History
import DevBridge.Labels.Calls
import DevBridge.Labels.AtMostOnce
import DevBridge.Labels.Acks
import DevBridge.Labels.Verdicts
import DevBridge.Labels.Bitmap
import DevBridge.Labels.Layout
import DevBridge.Labels.Tspl
import DevBridge.Server.Storage
import DevBridge.Server.World
import DevBridge.Server.Step
import DevBridge.Server.Flow
import DevBridge.Server.Moves
import DevBridge.Server.Finished
import DevBridge.Server.Places
import DevBridge.Server.Paired
import DevBridge.Server.Unpaired
import DevBridge.Server.Copies
import DevBridge.Server.Streamed
import DevBridge.Server.Retries
import DevBridge.Server.IppServer
import DevBridge.Server.Routes
import DevBridge.Server.Addressed
import DevBridge.Server.Streams
import DevBridge.Server.WakeUps
import DevBridge.Server.PairingGate
import DevBridge.Server.Presence
import DevBridge.Server.Reconnects
import DevBridge.Print.Task
import DevBridge.Print.World
import DevBridge.Print.Copies
import DevBridge.Print.Sound
import DevBridge.Print.Once
import DevBridge.Print.Payload
import DevBridge.Print.InFlight
import DevBridge.Print.SendPages
import DevBridge.Source.LanSubmits
import DevBridge.Tim.Card
import DevBridge.Tim.Purchase
import DevBridge.Tim.Session
import DevBridge.Tim.Protocol
import DevBridge.Tim.Reports
import DevBridge.Tim.World
import DevBridge.Tim.Ops
import DevBridge.Tim.Calls
import DevBridge.Tim.Executor
import DevBridge.Tim.Aside
import DevBridge.Tim.Moves
import DevBridge.Print.RasterMerge
import DevBridge.Print.IppCodec
import DevBridge.Print.PdfPages
import DevBridge.Print.PowerShell
import DevBridge.Server.Reconciler
import DevBridge.Journal.Obligations
import DevBridge.Portos.PrintText
import DevBridge.Tim.Slips
import DevBridge.Tray.Tracker
import DevBridge.Tray.Isolation
import DevBridge.Server.Approval
import DevBridge.Server.Approved
import DevBridge.Tim.Logs
import DevBridge.Tim.LogStore
import DevBridge.Tim.LogsKept
import DevBridge.LanApi.Keys
import DevBridge.LanApi.Routes
import DevBridge.LanApi.Isolation
import DevBridge.Tim.Runs
import DevBridge.Lib.Grammar
import DevBridge.Portos.Checked
import DevBridge.Portos.Checker
import DevBridge.Portos.Grammar
import DevBridge.Portos.Reported
import DevBridge.Portos.OneReceipt
import DevBridge.Lib.Locks
import DevBridge.Tim.Errands
import DevBridge.Tim.Locks
import DevBridge.Tim.Contacts
import DevBridge.Tim.Jobs
import DevBridge.Tim.Reversals
import DevBridge.Tim.Reversed
import DevBridge.Lib.Leases
import DevBridge.Tim.Balances
import DevBridge.Tim.SafetyBalance
import DevBridge.Tim.Settlement
import DevBridge.Tim.Channels
import DevBridge.Tim.Tells
import DevBridge.Tim.Agreement
