import Transcode.Text.Basic
import Transcode.Text.CodeRange
import Transcode.Text.Word
import Transcode.Text.Number
import Transcode.Text.Printable
import Transcode.Text.Case
import Transcode.Text.Hex
import Transcode.Text.Quoted
import Transcode.Text.Split
import Transcode.Text.Lines
import Transcode.Text.SystemName
import Transcode.Text.Utf8
import Transcode.Decimal.Binary64
import Transcode.Decimal.Shortest
import Transcode.Entries
import Transcode.Value.Basic
import Transcode.Value.Shown
import Transcode.Value.Printer
import Transcode.Value.Reader
import Transcode.Shell.Words
import Transcode.Shell.Quote
import Transcode.Sorting
import Transcode.Preset.Axis
import Transcode.Preset.Error
import Transcode.Preset.Catalog
import Transcode.Preset.Container
import Transcode.Preset.Basic
import Transcode.Preset.Parser
import Transcode.Preset.Order
import Transcode.Preset.Sorting
import Transcode.Preset.Request
import Transcode.Encoder.Arguments
import Transcode.Encoder.Command
import Transcode.Files
import Transcode.Fault
import Transcode.Log.Level
import Transcode.Log.Record
import Transcode.Log.Logger
import Transcode.Log.Registry
import Transcode.Config.Basic
import Transcode.Config.Document
import Transcode.Session.Basic
import Transcode.Session.Logging
import Transcode.Session.Settings
import Transcode.Session.Presets
import Transcode.Session.Step
import Transcode.CommandLine.Switch
import Transcode.CommandLine.Layout
import Transcode.CommandLine.Help
import Transcode.CommandLine.Options
import Transcode.CommandLine.Run
import Transcode.Main
import Transcode.Proofs.Text.Pieces
import Transcode.Proofs.Text.Utf8
import Transcode.Proofs.Text.Printable
import Transcode.Proofs.Preset.Words
import Transcode.Proofs.Session.Presets
import Transcode.Proofs.Preset.Language
import Transcode.Proofs.Preset.Errors
import Transcode.Proofs.Preset.RoundTrip
import Transcode.Proofs.Shell.Reading
import Transcode.Proofs.Shell.RoundTrip
import Transcode.Proofs.Session.Actions
import Transcode.Proofs.Session.Logging
import Transcode.Proofs.Entries.Repeated
import Transcode.Proofs.Config.Settings
import Transcode.Proofs.CommandLine.Glued
import Transcode.Proofs.Session.Settings
import Transcode.Proofs.Encoder.Arguments
import Transcode.Proofs.Encoder.CustomArguments
import Transcode.Proofs.CommandLine.Printed
import Transcode.Proofs.Log.Changes
import Transcode.Proofs.Session.Changes
import Transcode.Proofs.Session.Handlers
import Transcode.Proofs.Value.Members
import Transcode.Proofs.Value.Escapes
import Transcode.Proofs.Value.Numerals
import Transcode.Proofs.Value.RoundTrip
import Transcode.Proofs.Value.Ascii
import Transcode.Proofs.Config.Precedence
import Transcode.Proofs.Files.Writing
import Transcode.Proofs.Log.Equipment
import Transcode.Proofs.Log.Decisions
import Transcode.Proofs.Session.Reload
import Transcode.Proofs.Config.Saving
import Transcode.Proofs.Config.Names
import Transcode.Proofs.CommandLine.LevelChoice
import Transcode.Proofs.Session.Alike
import Transcode.Proofs.Config.Agreement
import Transcode.Proofs.CommandLine.Independence
import Transcode.Proofs.Session.LogLines
import Transcode.Proofs.CommandLine.LogLines
import Transcode.Proofs.CommandLine.Separate
import Transcode.Proofs.Config.Refusals
import Transcode.Proofs.Config.FileAlone
import Transcode.Proofs.CommandLine.InvalidFile
import Transcode.Proofs.Session.LevelNames
import Transcode.Proofs.Log.Tree
import Transcode.Proofs.Log.Pairs
import Transcode.Proofs.Session.Mirrors
import Transcode.Proofs.Session.LogFile
import Transcode.Proofs.Encoder.Resubmission
import Transcode.Proofs.Text.LetterCase
import Transcode.Proofs.Preset.Names
import Transcode.Proofs.Encoder.Distinct
import Transcode.Proofs.CommandLine.OptionValues
import Transcode.Proofs.CommandLine.Outcomes
import Transcode.Proofs.CommandLine.FailedLoad
import Transcode.Proofs.Session.ProgramLevel
import Transcode.Proofs.Session.Rebuilding
import Transcode.Proofs.Log.Lineage
import Transcode.Proofs.Session.EffectiveLevel
import Transcode.Proofs.CommandLine.EffectiveLevel
import Transcode.Proofs.Preset.Suffixes
import Transcode.Proofs.Sorting
import Transcode.Proofs.Preset.Sorting
import Transcode.Proofs.Value.Numbers
import Transcode.Proofs.Value.Texts
import Transcode.Proofs.Value.Grammar
import Transcode.Proofs.Value.Recognition
import Transcode.Proofs.Config.Strangers
