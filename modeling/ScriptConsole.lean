import ScriptConsole.Buffer.Content
import ScriptConsole.Buffer.File
import ScriptConsole.Buffer.Shared
import ScriptConsole.Config
import ScriptConsole.Console.Arguments
import ScriptConsole.Console.Basic
import ScriptConsole.Console.Run
import ScriptConsole.Console.Start
import ScriptConsole.Duration
import ScriptConsole.Error
import ScriptConsole.Files.Path
import ScriptConsole.Files.Tree
import ScriptConsole.History
import ScriptConsole.Interpreter
import ScriptConsole.Json.Basic
import ScriptConsole.Json.Number
import ScriptConsole.Json.Reader
import ScriptConsole.Json.Record
import ScriptConsole.Main
import ScriptConsole.Proofs.Session.Outcome
import ScriptConsole.Proofs.System.Answers
import ScriptConsole.Rehearsal.Play
import ScriptConsole.Rehearsal.Program
import ScriptConsole.Rehearsal.Puppet
import ScriptConsole.Rehearsal.Recorder
import ScriptConsole.Rehearsal.Shell
import ScriptConsole.Rehearsal.Stage
import ScriptConsole.Rehearsal.Watch
import ScriptConsole.Script.Dialogue
import ScriptConsole.Script.Expression
import ScriptConsole.Script.Fault
import ScriptConsole.Script.Import
import ScriptConsole.Script.Interpreter
import ScriptConsole.Script.Program
import ScriptConsole.Script.Scope
import ScriptConsole.Script.Token
import ScriptConsole.Script.Value
import ScriptConsole.Session.Basic
import ScriptConsole.Session.Call
import ScriptConsole.Session.Deed
import ScriptConsole.Session.Input
import ScriptConsole.Session.Run
import ScriptConsole.Session.Turn
import ScriptConsole.Source
import ScriptConsole.Statement
import ScriptConsole.System.Basic
import ScriptConsole.System.Lane
import ScriptConsole.System.Schedule
import ScriptConsole.System.World
import ScriptConsole.Text.Blank
import ScriptConsole.Text.Decimal
import ScriptConsole.Text.Letter
import ScriptConsole.Text.Lines
import ScriptConsole.Text.Quoted
import ScriptConsole.Text.Utf8
import ScriptConsole.Transcript
import ScriptConsole.Url
import ScriptConsole.Url.Host
import ScriptConsole.Url.Percent
import ScriptConsole.Wire.Command
import ScriptConsole.Wire.Event
import ScriptConsole.Wire.Format
import ScriptConsole.Worker.Basic
import ScriptConsole.Worker.Bridge
import ScriptConsole.Worker.Serve
import ScriptConsole.Worker.Stream
import ScriptConsole.Worker.Supply
import ScriptConsole.Worker.Work
import ScriptConsole.Proofs.Script.Endings
import ScriptConsole.Proofs.Session.Reference
import ScriptConsole.Proofs.Session.Turns
import ScriptConsole.Proofs.Session.Lines
import ScriptConsole.Proofs.System.Scene
import ScriptConsole.Proofs.System.Sitting
import ScriptConsole.Proofs.Script.Blocks
import ScriptConsole.Proofs.Session.Writes
import ScriptConsole.Proofs.System.Faithful
import ScriptConsole.Proofs.System.Mirror
import ScriptConsole.Proofs.System.Rerun
import ScriptConsole.Proofs.Worker.Bridge
import ScriptConsole.Proofs.Worker.Replies
import ScriptConsole.Proofs.Script.Typing
import ScriptConsole.Proofs.Buffer.Register
import ScriptConsole.Proofs.Script.Comments
import ScriptConsole.Proofs.Console.Conversation
import ScriptConsole.Proofs.Session.Waiting
import ScriptConsole.Proofs.Session.Starting
import ScriptConsole.Proofs.Script.Cutting
import ScriptConsole.Proofs.Script.Loading
import ScriptConsole.Proofs.Statement.Recall
import ScriptConsole.Proofs.Script.Occurrence
import ScriptConsole.Proofs.Script.Sums
import ScriptConsole.Proofs.Buffer.Stored
import ScriptConsole.Proofs.Buffer.Reopened
import ScriptConsole.Proofs.Script.Rendering
import ScriptConsole.Proofs.History
import ScriptConsole.Proofs.Config
