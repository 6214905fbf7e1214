import BusBridge.Character.Basic
import BusBridge.Character.Letter
import BusBridge.Character.Number
import BusBridge.Character.Upper
import BusBridge.CommandLine.Arguments
import BusBridge.CommandLine.Command
import BusBridge.CommandLine.Program
import BusBridge.CommandLine.Switch
import BusBridge.Configuration.Basic
import BusBridge.Configuration.Json
import BusBridge.Configuration.Validation
import BusBridge.Decimal.Binary
import BusBridge.Decimal.Layout
import BusBridge.Decimal.Nearest
import BusBridge.Decimal.Shortest
import BusBridge.Declaration.Basic
import BusBridge.Declaration.Construct
import BusBridge.Declaration.Json
import BusBridge.Digest.Sha256
import BusBridge.Engine.Basic
import BusBridge.Engine.Commit
import BusBridge.Engine.Json
import BusBridge.Engine.Pass
import BusBridge.Engine.Pipeline
import BusBridge.Failure
import BusBridge.Failure.Json
import BusBridge.Files.Basic
import BusBridge.Files.Operations
import BusBridge.Files.Path
import BusBridge.Java.DeclaredType
import BusBridge.Java.Escape
import BusBridge.Java.Fragment
import BusBridge.Java.Identifier
import BusBridge.Java.Layout
import BusBridge.Java.Syntax
import BusBridge.Java.Syntax.Json
import BusBridge.Java.TypeReference.Basic
import BusBridge.Java.TypeReference.Token
import BusBridge.Java.ValueType
import BusBridge.Json.Basic
import BusBridge.Json.Document
import BusBridge.Json.Printer
import BusBridge.Json.Reader
import BusBridge.Log.Gate
import BusBridge.Log.Level
import BusBridge.Log.Record
import BusBridge.Main
import BusBridge.Model.Basic
import BusBridge.Model.Build
import BusBridge.Model.Qualifier
import BusBridge.NameMap
import BusBridge.Proofs.Configuration
import BusBridge.Proofs.Declaration.ReadBack
import BusBridge.Proofs.Digest.Checksum
import BusBridge.Proofs.Engine.CommitGates
import BusBridge.Proofs.Engine.CommittedClass
import BusBridge.Proofs.Engine.Delivered
import BusBridge.Proofs.Engine.LoneCaller
import BusBridge.Proofs.Engine.Made
import BusBridge.Proofs.Engine.PassAgain
import BusBridge.Proofs.Engine.PassCalls
import BusBridge.Proofs.Engine.PassContent
import BusBridge.Proofs.Engine.PassIsolation
import BusBridge.Proofs.Engine.PassOrder
import BusBridge.Proofs.Engine.PassPace
import BusBridge.Proofs.Engine.PassPermits
import BusBridge.Proofs.Engine.PassReuse
import BusBridge.Proofs.Engine.PassRun
import BusBridge.Proofs.Engine.Pipeline
import BusBridge.Proofs.Engine.Publication
import BusBridge.Proofs.Engine.ScannedBean
import BusBridge.Proofs.Engine.Serving
import BusBridge.Proofs.Engine.Session
import BusBridge.Proofs.Engine.SharedClass
import BusBridge.Proofs.Engine.SharedCommit
import BusBridge.Proofs.Engine.Sizes
import BusBridge.Proofs.Engine.Variation
import BusBridge.Proofs.Engine.Yielding
import BusBridge.Proofs.Files.Gains
import BusBridge.Proofs.Files.Location
import BusBridge.Proofs.Files.Nested
import BusBridge.Proofs.Files.Operations
import BusBridge.Proofs.Files.Path
import BusBridge.Proofs.Files.Replacement
import BusBridge.Proofs.Java.Brackets
import BusBridge.Proofs.Java.DeclaredType
import BusBridge.Proofs.Java.Erasure
import BusBridge.Proofs.Java.Escape
import BusBridge.Proofs.Java.ExpressionLanguage
import BusBridge.Proofs.Java.Grammar
import BusBridge.Proofs.Java.Grouping
import BusBridge.Proofs.Java.Identifier
import BusBridge.Proofs.Java.Layout
import BusBridge.Proofs.Java.Lexeme
import BusBridge.Proofs.Java.NamePlaces
import BusBridge.Proofs.Java.PlainText
import BusBridge.Proofs.Java.ReferenceLanguage
import BusBridge.Proofs.Java.Scope
import BusBridge.Proofs.Java.SourceForm
import BusBridge.Proofs.Java.SourceLexemes
import BusBridge.Proofs.Java.Token
import BusBridge.Proofs.Java.TreeLiterals
import BusBridge.Proofs.Java.WhiteSpace
import BusBridge.Proofs.Json.ReadBack
import BusBridge.Proofs.Model.Build
import BusBridge.Proofs.Model.ParameterName
import BusBridge.Proofs.Model.Qualifier
import BusBridge.Proofs.NameMap
import BusBridge.Proofs.Outcome
import BusBridge.Proofs.Scan.Calls
import BusBridge.Proofs.Scan.Directory
import BusBridge.Proofs.Scan.Faults
import BusBridge.Proofs.Scan.Firsts
import BusBridge.Proofs.Scan.InMemory
import BusBridge.Proofs.Scan.Route
import BusBridge.Proofs.Scan.Shown
import BusBridge.Proofs.Scan.Survey
import BusBridge.Proofs.Scheduler.FirstStart
import BusBridge.Proofs.Scheduler.InFlight
import BusBridge.Proofs.Scheduler.Invariant
import BusBridge.Proofs.Scheduler.Job
import BusBridge.Proofs.Scheduler.OpenPool
import BusBridge.Proofs.Scheduler.Outcome
import BusBridge.Proofs.Scheduler.Progress
import BusBridge.Proofs.Scheduler.Queue
import BusBridge.Proofs.Scheduler.Reachable
import BusBridge.Proofs.Scheduler.Refusal
import BusBridge.Proofs.Scheduler.Setup
import BusBridge.Proofs.Scheduler.ShutDown
import BusBridge.Proofs.Scheduler.Transition
import BusBridge.Proofs.Store.CacheEntry
import BusBridge.Proofs.Store.CacheInterleaving
import BusBridge.Proofs.Store.CacheRun
import BusBridge.Proofs.Store.Sink
import BusBridge.Proofs.Store.SinkFiles
import BusBridge.Proofs.Store.SinkInterleaving
import BusBridge.Proofs.Synthesis.Address
import BusBridge.Proofs.Synthesis.Capture
import BusBridge.Proofs.Synthesis.Delivery
import BusBridge.Proofs.Synthesis.Evaluation
import BusBridge.Proofs.Synthesis.Loader
import BusBridge.Proofs.Synthesis.LoaderContent
import BusBridge.Proofs.Synthesis.LoaderRefusal
import BusBridge.Proofs.Synthesis.ObserverClass
import BusBridge.Proofs.Synthesis.ProxyNames
import BusBridge.Proofs.Synthesis.Subscription
import BusBridge.Proofs.Target
import BusBridge.Proofs.Text.ByteOrder
import BusBridge.Proofs.Text.Segments
import BusBridge.Proofs.Universe.Directory
import BusBridge.Proofs.Universe.Memory
import BusBridge.Proofs.Universe.Prefix
import BusBridge.Scan.Outcome
import BusBridge.Scan.Scanner
import BusBridge.Scheduler.Basic
import BusBridge.Scheduler.Job
import BusBridge.Scheduler.Pool
import BusBridge.Scheduler.Records
import BusBridge.Scheduler.Run
import BusBridge.Scheduler.Step
import BusBridge.Store.Cache
import BusBridge.Store.Failure
import BusBridge.Store.Sidecar
import BusBridge.Store.Sink
import BusBridge.Synthesis.Context
import BusBridge.Synthesis.Delivery
import BusBridge.Synthesis.Delivery.Json
import BusBridge.Synthesis.Loader
import BusBridge.Synthesis.Subscription
import BusBridge.Target
import BusBridge.Target.Json
import BusBridge.Text.Basic
import BusBridge.Text.Decoded
import BusBridge.Text.Quoted
import BusBridge.Toml.Reader
import BusBridge.Toml.Scalar
import BusBridge.Toml.Table
import BusBridge.Toml.Text
import BusBridge.Universe.Basic
import BusBridge.Universe.Directory
import BusBridge.Universe.Memory
