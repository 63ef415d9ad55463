import PseudoTerm.Account
import PseudoTerm.Batch.Report
import PseudoTerm.Bench.Answer
import PseudoTerm.Bench.Batch
import PseudoTerm.Bench.Cli
import PseudoTerm.Bench.Dispatch
import PseudoTerm.Bench.Limits
import PseudoTerm.Bench.Pty
import PseudoTerm.Bench.Pure
import PseudoTerm.Bench.Request
import PseudoTerm.Bench.Session
import PseudoTerm.Bench.Settings
import PseudoTerm.Bench.Stage
import PseudoTerm.Bench.Value
import PseudoTerm.Cli.Command
import PseudoTerm.Cli.Complete
import PseudoTerm.Cli.FlagSet
import PseudoTerm.Cli.Program
import PseudoTerm.Cli.Usage
import PseudoTerm.Config.Batch
import PseudoTerm.Config.File
import PseudoTerm.Config.Flags
import PseudoTerm.Config.Session
import PseudoTerm.Control.Channel
import PseudoTerm.Control.Command
import PseudoTerm.Control.Context
import PseudoTerm.Control.Handle
import PseudoTerm.Control.Memory
import PseudoTerm.Control.Pool
import PseudoTerm.Control.Writer
import PseudoTerm.Environment
import PseudoTerm.Errno
import PseudoTerm.Fault
import PseudoTerm.Logger
import PseudoTerm.Machine.Calls
import PseudoTerm.Machine.Interface
import PseudoTerm.Machine.Program
import PseudoTerm.Machine.Run
import PseudoTerm.Machine.Signal
import PseudoTerm.Machine.Tree
import PseudoTerm.Machine.World
import PseudoTerm.Main
import PseudoTerm.Path
import PseudoTerm.Programs.Basic
import PseudoTerm.Programs.Catalog
import PseudoTerm.Programs.Common
import PseudoTerm.Programs.Stty
import PseudoTerm.Programs.Text
import PseudoTerm.Pty.Device
import PseudoTerm.Pty.Helper
import PseudoTerm.Pty.Pair
import PseudoTerm.Registry
import PseudoTerm.Relay
import PseudoTerm.Session.Basic
import PseudoTerm.Session.Batch
import PseudoTerm.Session.Manager
import PseudoTerm.Session.Output
import PseudoTerm.Session.Service
import PseudoTerm.Setup.Status
import PseudoTerm.Setup.Step
import PseudoTerm.Shell.Arith
import PseudoTerm.Shell.Eval
import PseudoTerm.Shell.Expand
import PseudoTerm.Shell.Format
import PseudoTerm.Shell.Parse
import PseudoTerm.Shell.Pattern
import PseudoTerm.Shell.Redirect
import PseudoTerm.Shell.Start
import PseudoTerm.Shell.State
import PseudoTerm.Shell.Syntax
import PseudoTerm.Shell.Test
import PseudoTerm.Terminal.Line
import PseudoTerm.Terminal.Settings
import PseudoTerm.Terminal.Window
import PseudoTerm.Text.ByteCount
import PseudoTerm.Text.Decimal
import PseudoTerm.Text.Duration
import PseudoTerm.Text.Hex
import PseudoTerm.Text.Numeric
import PseudoTerm.Text.Quoted
import PseudoTerm.WorkerPool
import PseudoTerm.Yaml.Decode
import PseudoTerm.Yaml.Node
import PseudoTerm.Yaml.Parser
import PseudoTerm.Yaml.Reader
import PseudoTerm.Yaml.Resolve
import PseudoTerm.Yaml.Scanner
import PseudoTerm.Yaml.Token
import PseudoTerm.Proofs.StatusRecord
import PseudoTerm.Proofs.Runs
import PseudoTerm.Proofs.Environment
import PseudoTerm.Proofs.HelperStatus
import PseudoTerm.Proofs.SetupPaths
import PseudoTerm.Proofs.Threads
import PseudoTerm.Proofs.PairSteps
import PseudoTerm.Proofs.PairRuns
import PseudoTerm.Proofs.RegistryCalls
import PseudoTerm.Proofs.Team
import PseudoTerm.Proofs.PoolSteps
import PseudoTerm.Proofs.PoolBooks
import PseudoTerm.Proofs.PoolRuns
import PseudoTerm.Proofs.QuietCalls
import PseudoTerm.Proofs.Relaying
import PseudoTerm.Proofs.TerminalWrites
import PseudoTerm.Proofs.WriteLock
import PseudoTerm.Proofs.SessionEnvironment
import PseudoTerm.Proofs.LoginShell
import PseudoTerm.Proofs.BatchConfig
import PseudoTerm.Proofs.ByteScale
import PseudoTerm.Proofs.SessionDefaults
import PseudoTerm.Proofs.TerminalReads
import PseudoTerm.Proofs.WindowSize
import PseudoTerm.Proofs.PairLedger
import PseudoTerm.Proofs.PairHandOver
import PseudoTerm.Proofs.CloseOnce
import PseudoTerm.Proofs.DeadlineDiscipline
import PseudoTerm.Proofs.DeadlineRestore
import PseudoTerm.Proofs.ContextOperations
