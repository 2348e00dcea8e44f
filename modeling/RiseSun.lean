import RiseSun.Lib.Bytes
import RiseSun.Lib.Proc
import RiseSun.Lib.Socket
import RiseSun.Lib.Stream
import RiseSun.Lib.UpTo
import RiseSun.Lib.Markers
import RiseSun.Lib.PyText
import RiseSun.Lib.PyFloat
import RiseSun.Lib.Binary64
import RiseSun.Lib.Lines
import RiseSun.Lib.Calendar
import RiseSun.Lib.Crc
import RiseSun.Lib.Machine
import RiseSun.Lib.RowCache
import RiseSun.Lib.Table
import RiseSun.Lib.FirstWrite
import RiseSun.Lib.Follower
import RiseSun.Lib.Retry
import RiseSun.Lib.Simulation
import RiseSun.Lib.Peer
import RiseSun.Lib.SlidingWindow
import RiseSun.Lib.Paging
import RiseSun.Lib.UnitOfWork
import RiseSun.Lib.SharedDatabase
import RiseSun.Gateway.Errors
import RiseSun.Gateway.Datatypes
import RiseSun.Gateway.Dlms
import RiseSun.Gateway.Hdlc
import RiseSun.Gateway.Checksum
import RiseSun.Gateway.FrameGrammar
import RiseSun.Gateway.Transport
import RiseSun.Gateway.HdlcDlms
import RiseSun.Gateway.Meter
import RiseSun.Gateway.Registers
import RiseSun.Gateway.Batch
import RiseSun.Gateway.ObisSpelling
import RiseSun.Gateway.AbsoluteDeadline
import RiseSun.Gateway.RequestNumbering
import RiseSun.Gateway.CallHomePort
import RiseSun.Gateway.PoolOwnership
import RiseSun.Gateway.SerialLimit
import RiseSun.Gateway.Dialogue
import RiseSun.Gateway.Correlation
import RiseSun.Gateway.ProfileRow
import RiseSun.Gateway.RowCodec
import RiseSun.Gateway.LoadProfile
import RiseSun.Gateway.Filter
import RiseSun.Gateway.FrameStream
import RiseSun.Gateway.Reassembly
import RiseSun.Gateway.ReceivedRows
import RiseSun.Gateway.Exchange
import RiseSun.Gateway.RoundTrips
import RiseSun.Gateway.ValueLayout
import RiseSun.Gateway.ProfileFailures
import RiseSun.Gateway.MalformedAnswers
import RiseSun.Gateway.FreshConnection
import RiseSun.Gateway.FreshReadings
import RiseSun.Gateway.ReportValues
import RiseSun.Gateway.BackendClient
import RiseSun.Gateway.CallHome
import RiseSun.Gateway.ServedJobs
import RiseSun.Gateway.Connections
import RiseSun.Gateway.JobIsolation
import RiseSun.Gateway.ModeC
import RiseSun.Gateway.ModeCReadout
import RiseSun.Gateway.Operations
import RiseSun.Gateway.HeldReads
import RiseSun.Gateway.Emulator
import RiseSun.Gateway.Conversation
import RiseSun.Gateway.MeterCommands
import RiseSun.Gateway.MeterRuns
import RiseSun.Gateway.ProfileTalk
import RiseSun.Gateway.StagedFailures
import RiseSun.Gateway.RetriedCommands
import RiseSun.Backend.Users
import RiseSun.Backend.Escalation
import RiseSun.Backend.Jobs
import RiseSun.Backend.ClaimJobs
import RiseSun.Backend.EudbExport
import RiseSun.Backend.ExportExactness
import RiseSun.Backend.JobMachine
import RiseSun.Backend.JobRows
import RiseSun.Backend.Ownership
import RiseSun.Backend.Scheduler
import RiseSun.Backend.ScheduledReadings
import RiseSun.Backend.Sessions
import RiseSun.Backend.ScheduledRuns
import RiseSun.Backend.RelayOrder
import RiseSun.Backend.RunConsistency
import RiseSun.Backend.Batches
import RiseSun.Backend.BatchConsistency
import RiseSun.Backend.Idempotency
import RiseSun.Backend.RateLimit
import RiseSun.Backend.BillingPages
import RiseSun.Backend.JobCreation
import RiseSun.Backend.Worker
import RiseSun.Backend.WorkerContainment
import RiseSun.Backend.WorkerJournal
import RiseSun.Backend.ProfileStore
import RiseSun.Backend.Notifications
import RiseSun.Backend.OfflineDetector
import RiseSun.Backend.NotificationStream
import RiseSun.Backend.MeterDirectory
import RiseSun.Backend.MeterDiscovery
import RiseSun.System.ProfileJourney
