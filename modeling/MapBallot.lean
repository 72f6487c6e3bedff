import MapBallot.Alert.Envelope
import MapBallot.Alert.Frame
import MapBallot.Ascending
import MapBallot.Command
import MapBallot.Daemon.Console
import MapBallot.Daemon.Start
import MapBallot.Decimal.Shortest
import MapBallot.Environment
import MapBallot.Event
import MapBallot.Exclusion
import MapBallot.Files.Directory
import MapBallot.Files.Path
import MapBallot.Files.ReadFault
import MapBallot.GameMode
import MapBallot.History.Basic
import MapBallot.History.Record
import MapBallot.History.Tracker
import MapBallot.Identifier
import MapBallot.Json.Basic
import MapBallot.Json.Codec
import MapBallot.Json.Draft
import MapBallot.Json.Literal
import MapBallot.Json.Printer
import MapBallot.Json.Reader
import MapBallot.Json.Schema
import MapBallot.Layer
import MapBallot.Main
import MapBallot.Net.Address
import MapBallot.Net.DomainName
import MapBallot.Net.Host
import MapBallot.Net.NameForm
import MapBallot.Net.NameForm.Expansion
import MapBallot.Net.NameForm.Letter
import MapBallot.Net.NameForm.Refused
import MapBallot.Net.Punycode
import MapBallot.Net.Url
import MapBallot.Plan
import MapBallot.Preview.Arguments
import MapBallot.Preview.Run
import MapBallot.Proofs.Process
import MapBallot.Proofs.Swap.Course
import MapBallot.Random.ChaCha
import MapBallot.Random.CycleSeed
import MapBallot.Random.Stream
import MapBallot.Remote.Call
import MapBallot.Remote.Client
import MapBallot.Remote.Connection
import MapBallot.Remote.Envelope
import MapBallot.Remote.Program
import MapBallot.Remote.Settings
import MapBallot.Remote.Wait
import MapBallot.Scalar
import MapBallot.Score.Catalog
import MapBallot.Score.Decay
import MapBallot.Score.Policy
import MapBallot.Selection.Basic
import MapBallot.Selection.Draw
import MapBallot.Service.Basic
import MapBallot.Service.Config
import MapBallot.Service.Dispatch
import MapBallot.Swap.Cycle
import MapBallot.Swap.Exclusive
import MapBallot.Swap.Metrics
import MapBallot.Swap.Outcome
import MapBallot.Swap.State
import MapBallot.Text.Blank
import MapBallot.Text.Quoted
import MapBallot.Text.Unprintable
import MapBallot.Text.Unsigned
import MapBallot.Unicode.CombiningClass
import MapBallot.Unicode.Decomposition
import MapBallot.Unicode.Direction
import MapBallot.Unicode.Ideograph
import MapBallot.Unicode.Interval
import MapBallot.Unicode.Joining
import MapBallot.Unicode.Mark
import MapBallot.Unicode.Normal
import MapBallot.Weighting.Builtin
import MapBallot.Weighting.Document
import MapBallot.Weighting.Parameters
import MapBallot.Weighting.Store
import MapBallot.Proofs.Swap.CallOrder
import MapBallot.Proofs.Swap.Baseline
import MapBallot.Proofs.Swap.Offer
import MapBallot.Proofs.Swap.Bound
import MapBallot.Proofs.Swap.Consecutive
import MapBallot.Proofs.Swap.Shutdown
import MapBallot.Proofs.Exclusion
import MapBallot.Proofs.Remote.Wait
import MapBallot.Proofs.Score.Catalog
import MapBallot.Proofs.Selection.Draw
import MapBallot.Proofs.Selection.Lookup
import MapBallot.Proofs.Selection.Plan
import MapBallot.Proofs.Selection.Chosen
import MapBallot.Proofs.History.Tracker
import MapBallot.Proofs.Service.Cycle
import MapBallot.Proofs.Service.Dispatch
import MapBallot.Proofs.Weighting.Validation
import MapBallot.Proofs.Selection.Content
import MapBallot.Proofs.Weighting.Runs
import MapBallot.Proofs.Weighting.Reloads
import MapBallot.Proofs.Swap.Midway
import MapBallot.Proofs.Exclusion.Runs
import MapBallot.Proofs.History.Runs
import MapBallot.Proofs.Score.Rescoring
import MapBallot.Proofs.Service.Session
import MapBallot.Proofs.Swap.Exclusive
import MapBallot.Proofs.Service.Queries
import MapBallot.Proofs.Weighting.Form
import MapBallot.Proofs.Wire
import MapBallot.Proofs.Score.Direct
import MapBallot.Proofs.Remote.Answer
import MapBallot.Proofs.Remote.Dump
import MapBallot.Proofs.Daemon.LineByLine
import MapBallot.Proofs.Scalar.Positive
import MapBallot.Proofs.Scalar.Double
import MapBallot.Proofs.Selection.Words
import MapBallot.Proofs.Selection.Extension
import MapBallot.Proofs.Selection.Proportion
import MapBallot.Proofs.History.Recency
import MapBallot.Proofs.Score.Decay
import MapBallot.Proofs.Score.Eligibility
import MapBallot.Proofs.Score.Recovery
import MapBallot.Proofs.Exclusion.Stricter
import MapBallot.Proofs.History.Normal
import MapBallot.Proofs.Preview.HistoryFile
import MapBallot.Proofs.History.Distance
import MapBallot.Proofs.Text.Spaced
import MapBallot.Proofs.Text.Unsigned
import MapBallot.Proofs.Text.AnyCase
import MapBallot.Proofs.Command
import MapBallot.Proofs.Alert.Stream
import MapBallot.Proofs.Random.CycleSeed
