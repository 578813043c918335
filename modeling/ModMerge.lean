import ModMerge.Text.Blank
import ModMerge.Text.Lines
import ModMerge.Text.DecimalDigit
import ModMerge.Text.WordChar
import ModMerge.Text.Printable
import ModMerge.Text.LowerCase
import ModMerge.Text.UpperCase
import ModMerge.Text.Quoted
import ModMerge.Text.Numeral
import ModMerge.Text.Utf8
import ModMerge.Text.FloatText
import ModMerge.Files.Tree
import ModMerge.EntityRange
import ModMerge.SpellEffect
import ModMerge.Directive
import ModMerge.Script.Context
import ModMerge.Script.Line
import ModMerge.Ids.IdSet
import ModMerge.Mod.Mapping
import ModMerge.Mod.KeptDefinition
import ModMerge.Mod.Survey
import ModMerge.Ids.Allocator
import ModMerge.Allocation.Basic
import ModMerge.Mod.Source
import ModMerge.Mod.File
import ModMerge.Merge.Body
import ModMerge.Allocation.Report
import ModMerge.Settings.Load
import ModMerge.Settings.PlainDocument
import ModMerge.Merge.Run
import ModMerge.Main
import ModMerge.Proofs.Files.Trees
import ModMerge.Proofs.Files.PathNames
import ModMerge.Proofs.Files.Saving
import ModMerge.Proofs.Ids.FreshIds
import ModMerge.Proofs.Allocation.Accounts
import ModMerge.Proofs.Mod.MappingEntries
import ModMerge.Proofs.Mod.MirroredLines
import ModMerge.Proofs.Mod.RenumberingSteps
import ModMerge.Proofs.Mod.Lockstep
import ModMerge.Proofs.Mod.LockstepLines
import ModMerge.Proofs.Mod.LockstepSpells
import ModMerge.Proofs.Mod.LockstepRuns
import ModMerge.Proofs.Mod.Rereading
import ModMerge.Proofs.Mod.SameMeaning
import ModMerge.Proofs.Merge.HeaderLines
import ModMerge.Proofs.Merge.BodyLines
import ModMerge.Proofs.Merge.MergedContent
import ModMerge.Proofs.Merge.Prepared
import ModMerge.Proofs.Merge.FailedMerge
import ModMerge.Proofs.Allocation.AssignedIds
import ModMerge.Proofs.Mod.Mirroring
import ModMerge.Proofs.Mod.MovedContent
import ModMerge.Proofs.Mod.Recording
import ModMerge.Proofs.Mod.Walks
import ModMerge.Proofs.Mod.Writing
import ModMerge.Proofs.Fold
import ModMerge.Proofs.Allocation.ExplicitPass
import ModMerge.Proofs.Allocation.ImplicitPass
import ModMerge.Proofs.Allocation.Steps
import ModMerge.Proofs.Script.DirectiveLines
import ModMerge.Proofs.Script.DirectiveTable
import ModMerge.Proofs.Script.PlainLines
import ModMerge.Proofs.Script.Reading
import ModMerge.Proofs.Script.WrittenLines
import ModMerge.Proofs.Text.CharClasses
import ModMerge.Proofs.Text.LowerCasing
import ModMerge.Proofs.Text.LineBreaks
import ModMerge.Proofs.Text.Trimming
import ModMerge.Proofs.Text.Numerals
import ModMerge.Proofs.Ids.MaximalRuns
import ModMerge.Proofs.Ids.SearchOrder
import ModMerge.Proofs.Allocation.MovedIds
import ModMerge.Proofs.Allocation.FinalIds
import ModMerge.Proofs.Allocation.SplitRuns
import ModMerge.Proofs.Allocation.Collisions
import ModMerge.Proofs.Allocation.Names
import ModMerge.Proofs.Allocation.UnclaimedIds
import ModMerge.Proofs.Allocation.SharedEdits
import ModMerge.Proofs.Allocation.TypeViews
import ModMerge.Proofs.Allocation.SeparateTypes
import ModMerge.Proofs.NameOrder
import ModMerge.Proofs.Merge.GivenOrder
import ModMerge.Proofs.Script.ArgumentNumbers
import ModMerge.Proofs.Mod.SurveyedLines
import ModMerge.Proofs.Mod.Drafts
import ModMerge.Proofs.Mod.Drafting
import ModMerge.Proofs.Mod.DraftedSpells
import ModMerge.Proofs.Mod.DraftedRuns
import ModMerge.Proofs.Mod.LineEdits
import ModMerge.Proofs.Mod.Transcripts
import ModMerge.Proofs.Mod.EditedLines
import ModMerge.Proofs.Mod.BlockSteps
import ModMerge.Proofs.Mod.SettledLines
import ModMerge.Proofs.Mod.SettledRuns
import ModMerge.Proofs.Mod.TidyLines
import ModMerge.Proofs.Mod.FixedPoint
import ModMerge.Proofs.Mod.NamedContent
import ModMerge.Proofs.Mod.AssignedLines
import ModMerge.Proofs.Mod.SpellRuns
import ModMerge.Proofs.Mod.DamageLines
import ModMerge.Proofs.Mod.SameRecords
import ModMerge.Proofs.Mod.SpellCollection
import ModMerge.Proofs.Mod.InnerLines
import ModMerge.Proofs.Mod.MeaningLines
import ModMerge.Proofs.Mod.SpellOrder
import ModMerge.Proofs.Ids.Requests
import ModMerge.Proofs.Ids.FirstFit
import ModMerge.Proofs.Ids.AvailableIds
import ModMerge.Proofs.Allocation.Demand
import ModMerge.Proofs.Mod.WrittenNumbers
import ModMerge.Proofs.Mod.ReadNumbers
import ModMerge.Proofs.Allocation.Room
import ModMerge.Proofs.Script.StateWalk
import ModMerge.Proofs.Mod.RefusedScripts
import ModMerge.Proofs.Script.CommentedLines
import ModMerge.Proofs.Mod.CommentedScripts
import ModMerge.Proofs.Merge.HeaderReading
import ModMerge.Proofs.Mod.FiniteMapping
import ModMerge.Proofs.Mod.FrozenDefinitions
import ModMerge.Proofs.Mod.KeptDefinitions
import ModMerge.Proofs.Allocation.ReportSections
import ModMerge.Proofs.Allocation.ReportedNumbers
import ModMerge.Proofs.Merge.SuccessfulMerge
import ModMerge.Proofs.CommandLine.DryRun
import ModMerge.Proofs.Settings.ModNames
import ModMerge.Proofs.Settings.SettingTexts
import ModMerge.Proofs.Ids.WrittenRanges
import ModMerge.Proofs.Files.WholeFiles
import ModMerge.Proofs.Merge.OutputPlace
import ModMerge.Proofs.Allocation.Reservations
import ModMerge.Proofs.Mod.SharedContexts
import ModMerge.Proofs.Script.SubstitutedNumbers
