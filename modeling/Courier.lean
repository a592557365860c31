import Courier.Backpressure
import Courier.Binary64.Basic
import Courier.Binary64.Shortest
import Courier.Breaker
import Courier.Channel
import Courier.Checksum
import Courier.CodedError
import Courier.CommandLine.Arguments
import Courier.CommandLine.Run
import Courier.Config
import Courier.Context
import Courier.Duration
import Courier.ErrorCode
import Courier.Json.Codec
import Courier.Json.Error
import Courier.Json.Lexeme
import Courier.Json.Printer
import Courier.Json.Reader
import Courier.Json.Scan
import Courier.Json.Value
import Courier.LineReader
import Courier.Log
import Courier.Main
import Courier.Message
import Courier.Metrics
import Courier.Middleware
import Courier.Observation
import Courier.Payload
import Courier.Proofs.BackpressureSends
import Courier.Proofs.BreakerBooks
import Courier.Proofs.BreakerCalls
import Courier.Proofs.BreakerCancellation
import Courier.Proofs.BreakerFallbacks
import Courier.Proofs.BreakerLockout
import Courier.Proofs.BreakerSlots
import Courier.Proofs.BreakerTraffic
import Courier.Proofs.BreakerTripping
import Courier.Proofs.BreakerVerdicts
import Courier.Proofs.ChannelConservation
import Courier.Proofs.ChannelTasks
import Courier.Proofs.ChannelWakeups
import Courier.Proofs.ChecksumBursts
import Courier.Proofs.ChecksumTransfer
import Courier.Proofs.ClockWaits
import Courier.Proofs.ConfigSources
import Courier.Proofs.ConfigValidity
import Courier.Proofs.ContextTree
import Courier.Proofs.EnvelopeGrammar
import Courier.Proofs.Exchanges
import Courier.Proofs.FileCalls
import Courier.Proofs.FileClosing
import Courier.Proofs.FileDelivery
import Courier.Proofs.FileHandles
import Courier.Proofs.FileJournal
import Courier.Proofs.FileLocks
import Courier.Proofs.FileReading
import Courier.Proofs.HttpInbox
import Courier.Proofs.HttpListeners
import Courier.Proofs.JsonAcceptance
import Courier.Proofs.JsonDuplicates
import Courier.Proofs.JsonGrammar
import Courier.Proofs.JsonIntegers
import Courier.Proofs.JsonListings
import Courier.Proofs.JsonNesting
import Courier.Proofs.JsonObjects
import Courier.Proofs.JsonOrigins
import Courier.Proofs.JsonReadings
import Courier.Proofs.JsonRecords
import Courier.Proofs.JsonRemainders
import Courier.Proofs.JsonScanning
import Courier.Proofs.JsonStrings
import Courier.Proofs.JsonValues
import Courier.Proofs.JsonWriting
import Courier.Proofs.LineSplitting
import Courier.Proofs.LineTerminators
import Courier.Proofs.LineValidation
import Courier.Proofs.MessageHops
import Courier.Proofs.MessageLines
import Courier.Proofs.MessageRefusals
import Courier.Proofs.MessageRoundTrip
import Courier.Proofs.MiddlewareCalls
import Courier.Proofs.MiddlewareCounts
import Courier.Proofs.MiddlewareTransparency
import Courier.Proofs.PayloadRoundTrip
import Courier.Proofs.ReconnectingBackoff
import Courier.Proofs.ReconnectingCalls
import Courier.Proofs.ReconnectingCauses
import Courier.Proofs.ReconnectingClosing
import Courier.Proofs.ReconnectingData
import Courier.Proofs.ReconnectingFailures
import Courier.Proofs.ReconnectingLifeCycle
import Courier.Proofs.ReconnectingOwnership
import Courier.Proofs.ReconnectingPacing
import Courier.Proofs.ReconnectingReports
import Courier.Proofs.ReconnectingSections
import Courier.Proofs.ReconnectingSends
import Courier.Proofs.ReconnectingTasks
import Courier.Proofs.ReconnectingWaits
import Courier.Proofs.RelayDelivery
import Courier.Proofs.RetryAgreement
import Courier.Proofs.RetryExecution
import Courier.Proofs.RetryWaits
import Courier.Proofs.Runs
import Courier.Proofs.SpanReports
import Courier.Proofs.StreamReceiving
import Courier.Proofs.StreamWaiting
import Courier.Proofs.TextTrimming
import Courier.Proofs.TraceChains
import Courier.Proofs.TraceHeaders
import Courier.Proofs.TraceSafety
import Courier.Proofs.Utf8Decoding
import Courier.Proofs.ValidatedRelay
import Courier.Proofs.VersionNegotiation
import Courier.ProtocolError
import Courier.Reconnecting
import Courier.Relay
import Courier.Reporter
import Courier.Retry
import Courier.Scenario.Description
import Courier.Scenario.Report
import Courier.Simulation.Clock
import Courier.Simulation.Guarded
import Courier.Simulation.Repetition
import Courier.Simulation.Scheduler
import Courier.Simulation.Script
import Courier.Simulation.Task
import Courier.Simulation.World
import Courier.SocketAddress
import Courier.Text.Blank
import Courier.Text.Hidden
import Courier.Text.Quoted
import Courier.Text.Utf8
import Courier.Toml.Node
import Courier.Toml.Printer
import Courier.Toml.Reader
import Courier.Trace
import Courier.Transport.Endpoint
import Courier.Transport.Error
import Courier.Transport.File
import Courier.Transport.Http
import Courier.Transport.Lock
import Courier.Transport.Operation
import Courier.Transport.Stream
import Courier.Validation
import Courier.Version
