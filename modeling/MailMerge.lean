import MailMerge.Main
import MailMerge.Session
import MailMerge.Proofs.Run.MailAccounting
import MailMerge.Proofs.Select.StableSelection
import MailMerge.Proofs.Template.Spelling
import MailMerge.Proofs.Select.PageWalk
import MailMerge.Proofs.Select.SuccessiveSorts
import MailMerge.Proofs.Select.AddedClause
import MailMerge.Proofs.Select.ProjectedTable
import MailMerge.Proofs.Template.Printing
import MailMerge.Proofs.Run.ReportedMail
import MailMerge.Proofs.Select.PatternExpression
import MailMerge.Proofs.Template.Fault
import MailMerge.Proofs.Run.Course
import MailMerge.Proofs.Run.Connections
import MailMerge.Proofs.Run.MailFaults
import MailMerge.Proofs.Mail.Layout
import MailMerge.Proofs.Options.Layering
import MailMerge.Proofs.Files.DirectoryEntries
import MailMerge.Proofs.Source.KeptTables
import MailMerge.Proofs.Source.TableNames
import MailMerge.Proofs.Template.Barrier
import MailMerge.Proofs.Template.FaultPlace
import MailMerge.Proofs.Template.Substitution
import MailMerge.Proofs.Options.WrittenArguments
import MailMerge.Proofs.MergedPairs
import MailMerge.Proofs.Select.BuiltCriteria
import MailMerge.Proofs.Select.PageShare
import MailMerge.Proofs.Select.Refusal
import MailMerge.Proofs.Run.ReportedRecords
import MailMerge.Proofs.Template.JoinedSource
import MailMerge.Proofs.Template.SeenColumns
import MailMerge.Proofs.Mail.SenderLines
import MailMerge.Proofs.Run.DryRun
import MailMerge.Proofs.Options.ColumnMaps
import MailMerge.Proofs.Table.PlacedRow
import MailMerge.Proofs.Template.CheckedText
import MailMerge.Proofs.Template.ByteReader
import MailMerge.Proofs.Template.ByteRecognisers
import MailMerge.Proofs.Template.ByteReading
