import MusicFiling.Main
import MusicFiling.Proofs.CommandLine.Preview
import MusicFiling.Proofs.Console
import MusicFiling.Proofs.Csv
import MusicFiling.Proofs.Csv.Cut
import MusicFiling.Proofs.Destination
import MusicFiling.Proofs.Dictionary
import MusicFiling.Proofs.Dictionary.Names
import MusicFiling.Proofs.Discovery
import MusicFiling.Proofs.Disk.Arrival
import MusicFiling.Proofs.Disk.Contents
import MusicFiling.Proofs.Disk.Delivery
import MusicFiling.Proofs.Disk.Growth
import MusicFiling.Proofs.Disk.Listing
import MusicFiling.Proofs.Disk.Moving
import MusicFiling.Proofs.Disk.Opening
import MusicFiling.Proofs.Disk.Passable
import MusicFiling.Proofs.Disk.Reach
import MusicFiling.Proofs.Disk.Relocation
import MusicFiling.Proofs.Disk.Tree
import MusicFiling.Proofs.Disk.Walk
import MusicFiling.Proofs.Disk.WithText
import MusicFiling.Proofs.Disk.Within
import MusicFiling.Proofs.Journal
import MusicFiling.Proofs.Journal.Cut
import MusicFiling.Proofs.Journal.Sessions
import MusicFiling.Proofs.Lookup
import MusicFiling.Proofs.Organize.Batch
import MusicFiling.Proofs.Organize.Collisions
import MusicFiling.Proofs.Organize.Completion
import MusicFiling.Proofs.Organize.Confinement
import MusicFiling.Proofs.Organize.Copying
import MusicFiling.Proofs.Organize.Counting
import MusicFiling.Proofs.Organize.DryRun
import MusicFiling.Proofs.Organize.Leaves
import MusicFiling.Proofs.Organize.NeverOverwrites
import MusicFiling.Proofs.Organize.Outcomes
import MusicFiling.Proofs.Organize.Repeat
import MusicFiling.Proofs.Organize.Replay
import MusicFiling.Proofs.Organize.Reporting
import MusicFiling.Proofs.Organize.Stable
import MusicFiling.Proofs.Organize.Steps
import MusicFiling.Proofs.Organize.Stuck
import MusicFiling.Proofs.Organize.Transcript
import MusicFiling.Proofs.Organize.Turn
import MusicFiling.Proofs.Organize.Verbosity
import MusicFiling.Proofs.Path
import MusicFiling.Proofs.Path.Suffix
import MusicFiling.Proofs.Pattern.Acceptance
import MusicFiling.Proofs.Pattern.Characters
import MusicFiling.Proofs.Pattern.Composition
import MusicFiling.Proofs.Pattern.Grammar
import MusicFiling.Proofs.Pattern.Position
import MusicFiling.Proofs.Pattern.Reading
import MusicFiling.Proofs.Pattern.Rules
import MusicFiling.Proofs.Pattern.Shape
import MusicFiling.Proofs.Pattern.UpFrontCheck
import MusicFiling.Proofs.Probe
import MusicFiling.Proofs.Text.Case
import MusicFiling.Proofs.Text.Lines
import MusicFiling.Proofs.Text.Utf8
import MusicFiling.Proofs.Text.Utf8.Character
import MusicFiling.Proofs.Text.Utf8.Lenient
import MusicFiling.Proofs.Undo.Again
import MusicFiling.Proofs.Undo.Answers
import MusicFiling.Proofs.Undo.Inverse
import MusicFiling.Proofs.Undo.Rewinding
import MusicFiling.Proofs.Undo.Safety
import MusicFiling.Proofs.Undo.Steps
