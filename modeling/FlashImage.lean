import FlashImage.Board.Basic
import FlashImage.Board.Document
import FlashImage.Board.Fault
import FlashImage.Board.Image
import FlashImage.Board.Layout
import FlashImage.Board.Library
import FlashImage.Bytes
import FlashImage.Codec.Basic
import FlashImage.Codec.Compressor
import FlashImage.Codec.Header
import FlashImage.Codec.Lz4.Block
import FlashImage.Codec.Lz4.Compress
import FlashImage.Codec.Lzma.Compress
import FlashImage.Codec.Lzma.Decompress
import FlashImage.Codec.Lzma.Model
import FlashImage.Codec.Lzma.RangeCoder
import FlashImage.Command.BoardSearch
import FlashImage.Command.Invocation
import FlashImage.Command.Manual
import FlashImage.Command.Options
import FlashImage.Command.Program
import FlashImage.Command.Report
import FlashImage.Command.Run
import FlashImage.Command.Session
import FlashImage.Error
import FlashImage.Files.Basic
import FlashImage.Files.Fault
import FlashImage.Files.Operation
import FlashImage.Files.Path
import FlashImage.Files.System
import FlashImage.Files.Walk
import FlashImage.Layout.Cycle
import FlashImage.Layout.Document
import FlashImage.Layout.Export
import FlashImage.Layout.File
import FlashImage.Layout.Tree
import FlashImage.Layout.Validation
import FlashImage.Main
import FlashImage.Number
import FlashImage.Region.Basic
import FlashImage.Region.Placement
import FlashImage.Region.Setting
import FlashImage.ResetVector
import FlashImage.Ron.Fault
import FlashImage.Ron.Lexeme
import FlashImage.Ron.Number
import FlashImage.Ron.Record
import FlashImage.Shell.Apart
import FlashImage.Shell.Arithmetic
import FlashImage.Shell.BuiltIn
import FlashImage.Shell.ByteText
import FlashImage.Shell.Command
import FlashImage.Shell.Compound
import FlashImage.Shell.Condition
import FlashImage.Shell.Control
import FlashImage.Shell.Edit.Basic
import FlashImage.Shell.Edit.Reader
import FlashImage.Shell.Edit.Run
import FlashImage.Shell.Expansion
import FlashImage.Shell.Field
import FlashImage.Shell.Input
import FlashImage.Shell.Launch
import FlashImage.Shell.Meaning
import FlashImage.Shell.Pattern
import FlashImage.Shell.Place
import FlashImage.Shell.Print
import FlashImage.Shell.Process
import FlashImage.Shell.Reader
import FlashImage.Shell.Real
import FlashImage.Shell.Records.Lexeme
import FlashImage.Shell.Records.Machine
import FlashImage.Shell.Records.Reader
import FlashImage.Shell.Records.Run
import FlashImage.Shell.Records.Script
import FlashImage.Shell.Records.Table
import FlashImage.Shell.Records.Value
import FlashImage.Shell.Redirect
import FlashImage.Shell.Regex.Basic
import FlashImage.Shell.Regex.Reader
import FlashImage.Shell.Run
import FlashImage.Shell.Script
import FlashImage.Shell.Session
import FlashImage.Shell.Setting
import FlashImage.Shell.Signal
import FlashImage.Shell.Simple
import FlashImage.Shell.Start
import FlashImage.Shell.State
import FlashImage.Shell.Utility.Basic
import FlashImage.Shell.Utility.Block
import FlashImage.Shell.Utility.Calculate
import FlashImage.Shell.Utility.Catalog
import FlashImage.Shell.Utility.Compare
import FlashImage.Shell.Utility.Content
import FlashImage.Shell.Utility.Digest
import FlashImage.Shell.Utility.Dump
import FlashImage.Shell.Utility.Entry
import FlashImage.Shell.Utility.Install
import FlashImage.Shell.Utility.Line
import FlashImage.Shell.Utility.Listing
import FlashImage.Shell.Utility.Match
import FlashImage.Shell.Utility.Message
import FlashImage.Shell.Utility.Moment
import FlashImage.Shell.Utility.Passing
import FlashImage.Shell.Utility.Permission
import FlashImage.Shell.Utility.Portion
import FlashImage.Shell.Utility.Search
import FlashImage.Shell.Utility.Sort
import FlashImage.Shell.Utility.Translate
import FlashImage.Shell.Utility.Tree
import FlashImage.Shell.Utility.WideDigest
import FlashImage.Shell.Word
import FlashImage.Shell.World
import FlashImage.Size
import FlashImage.Stitch.ArtifactStore
import FlashImage.Stitch.Job
import FlashImage.Stitch.Meaning
import FlashImage.Stitch.Output
import FlashImage.Stitch.Stitcher
import FlashImage.Text.Binary64
import FlashImage.Text.Blank
import FlashImage.Text.Case
import FlashImage.Text.Column
import FlashImage.Text.Invisible
import FlashImage.Text.Numeral
import FlashImage.Text.Quoted
import FlashImage.Toml.Blank
import FlashImage.Toml.Document
import FlashImage.Toml.Fault
import FlashImage.Toml.Key
import FlashImage.Toml.Quoted
import FlashImage.Toml.Scalar
import FlashImage.Toml.Table
import FlashImage.Toml.Value
import FlashImage.Workspace
import FlashImage.Proofs.Workspace
import FlashImage.Proofs.Codec.Header
import FlashImage.Proofs.Codec.Lz4.Format
import FlashImage.Proofs.Codec.Lz4.RoundTrip
import FlashImage.Proofs.Codec.Lz4.Search
import FlashImage.Proofs.Codec.Lzma.Encoder
import FlashImage.Proofs.Codec.Lzma.Interval
import FlashImage.Proofs.Codec.Lzma.RoundTrip
import FlashImage.Proofs.Codec.Table
import FlashImage.Proofs.Layout.Embedding
import FlashImage.Proofs.Layout.Search
import FlashImage.Proofs.Layout.WellFormed
import FlashImage.Proofs.Stitch.Calls
import FlashImage.Proofs.Stitch.Meaning
import FlashImage.Proofs.Stitch.Transparency
import FlashImage.Proofs.Layout.Slots
import FlashImage.Proofs.Stitch.Composition
import FlashImage.Proofs.Stitch.Failure
import FlashImage.Proofs.Layout.Placement
import FlashImage.Proofs.Stitch.Output
import FlashImage.Proofs.Board.Plan
import FlashImage.Proofs.Board.Image
import FlashImage.Proofs.Board.Isolation
import FlashImage.Proofs.Stitch.Determinism
import FlashImage.Proofs.Stitch.Permanence
import FlashImage.Proofs.Toml.Line
import FlashImage.Proofs.Toml.Numeral
import FlashImage.Proofs.Toml.Table
import FlashImage.Proofs.Layout.Export
import FlashImage.Proofs.Layout.RoundTrip
import FlashImage.Proofs.Files.Path
import FlashImage.Proofs.Files.Walk
import FlashImage.Proofs.Files.Change
import FlashImage.Proofs.Files.Fresh
import FlashImage.Proofs.Command.Session
import FlashImage.Proofs.Command.Tools
import FlashImage.Proofs.Command.Stages
import FlashImage.Proofs.Command.Failure
import FlashImage.Proofs.Stitch.Artifacts
import FlashImage.Proofs.Stitch.Stack
import FlashImage.Proofs.Stitch.Consistency
import FlashImage.Proofs.Stitch.Locality
import FlashImage.Proofs.Board.Acceptance
import FlashImage.Proofs.Stitch.Cause
import FlashImage.Proofs.Stitch.Fit
import FlashImage.Proofs.Board.Fit
import FlashImage.Proofs.Files.Directory
import FlashImage.Proofs.Files.Staging
import FlashImage.Proofs.Stitch.Writing
import FlashImage.Proofs.Stitch.Coverage
import FlashImage.Proofs.Board.Copies
import FlashImage.Proofs.Files.Removal
import FlashImage.Proofs.Board.ResetVector
import FlashImage.Proofs.Stitch.Work
import FlashImage.Proofs.Stitch.Economy
import FlashImage.Proofs.Text.Blank
import FlashImage.Proofs.Text.Numeral
import FlashImage.Proofs.Size
import FlashImage.Proofs.Stitch.Progress
import FlashImage.Proofs.Board.Features
import FlashImage.Proofs.Layout.Marks
import FlashImage.Proofs.Layout.Index
import FlashImage.Proofs.Shell
