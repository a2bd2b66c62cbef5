import ClassAudit.Analyzer
import ClassAudit.Archive.Zip
import ClassAudit.Class.Registry
import ClassAudit.ClassFile.Load
import ClassAudit.CommandLine.Run
import ClassAudit.File.Scan
import ClassAudit.Main
import ClassAudit.Proofs.Change
import ClassAudit.Proofs.Cohesion
import ClassAudit.Proofs.Composition
import ClassAudit.Proofs.Consistency
import ClassAudit.Proofs.Delimitation
import ClassAudit.Proofs.Enumeration
import ClassAudit.Proofs.LineNumber
import ClassAudit.Proofs.Linkage
import ClassAudit.Proofs.Literal
import ClassAudit.Proofs.Override
import ClassAudit.Proofs.Position
import ClassAudit.Proofs.Refusal
import ClassAudit.Proofs.Resolution
import ClassAudit.Proofs.Spelling
import ClassAudit.Proofs.Strictness
import ClassAudit.Proofs.Trace
import ClassAudit.Proofs.Unpacked
import ClassAudit.Report.Log
import ClassAudit.Report.Plain
import ClassAudit.Settings.Document
import ClassAudit.Proofs.FirstPrint
import ClassAudit.Proofs.Delegation
import ClassAudit.Proofs.Regrouping
import ClassAudit.Proofs.ChainedPair
import ClassAudit.Proofs.QuerySignal
import ClassAudit.Proofs.SecretPattern
import ClassAudit.Proofs.DeadVariable
import ClassAudit.Proofs.Strategy
import ClassAudit.Proofs.Template
import ClassAudit.Proofs.Matching
import ClassAudit.Proofs.Tally
import ClassAudit.Proofs.Naming
import ClassAudit.Proofs.SwitchRange
import ClassAudit.Proofs.Disabling
import ClassAudit.Proofs.Rank
import ClassAudit.Proofs.ArgumentSlot
import ClassAudit.Proofs.SlotOverflow
import ClassAudit.Proofs.KeywordPattern
import ClassAudit.Proofs.SecretForm
