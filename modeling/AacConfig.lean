import AacConfig.BitReader.Cursor
import AacConfig.BitReader.Request
import AacConfig.BitReader.View
import AacConfig.Command.Arrangement
import AacConfig.Command.Line
import AacConfig.Command.Run
import AacConfig.Command.Spelling
import AacConfig.DecoderConfig.Field
import AacConfig.DecoderConfig.WellFormed
import AacConfig.Log.Reading
import AacConfig.Main
import AacConfig.Proofs.Absorption
import AacConfig.Proofs.Accounts
import AacConfig.Proofs.Codes
import AacConfig.Proofs.CommandLine
import AacConfig.Proofs.CoreFlags
import AacConfig.Proofs.Cursor
import AacConfig.Proofs.ExitCode
import AacConfig.Proofs.Extent
import AacConfig.Proofs.FalseClaims
import AacConfig.Proofs.Footprint
import AacConfig.Proofs.Forgiving
import AacConfig.Proofs.Grammar
import AacConfig.Proofs.Growth
import AacConfig.Proofs.HexReading
import AacConfig.Proofs.Hexadecimal
import AacConfig.Proofs.Invariant
import AacConfig.Proofs.JsonReading
import AacConfig.Proofs.JsonText
import AacConfig.Proofs.Lines
import AacConfig.Proofs.Logging
import AacConfig.Proofs.Mode
import AacConfig.Proofs.Nesting
import AacConfig.Proofs.Numerals
import AacConfig.Proofs.Obstacles
import AacConfig.Proofs.Opening
import AacConfig.Proofs.Outcome
import AacConfig.Proofs.OutputFrequency
import AacConfig.Proofs.Padding
import AacConfig.Proofs.PartialRuns
import AacConfig.Proofs.Rearrangement
import AacConfig.Proofs.ReportReading
import AacConfig.Proofs.Reporting
import AacConfig.Proofs.Settling
import AacConfig.Proofs.Signalling
import AacConfig.Proofs.Sources
import AacConfig.Proofs.Streaming
import AacConfig.Proofs.SyncExtension
import AacConfig.Proofs.Tail
import AacConfig.Proofs.Telling
import AacConfig.Proofs.Truncation
import AacConfig.Proofs.Walks
import AacConfig.Proofs.Wording
import AacConfig.Proofs.Words
import AacConfig.Proofs.YamlReading
import AacConfig.Report.Schema
import AacConfig.Stream
import AacConfig.Stream.Plan
import AacConfig.Stream.Story
import AacConfig.Text.Hex.Rendering
