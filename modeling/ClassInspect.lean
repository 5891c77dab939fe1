import ClassInspect.Bytes.Field
import ClassInspect.ClassFile.Layout
import ClassInspect.Main
import ClassInspect.Proofs.Bytes.WordReader
import ClassInspect.Proofs.ClassFile.Continuation
import ClassInspect.Proofs.ClassFile.MethodSearch
import ClassInspect.Proofs.ClassFile.Payload
import ClassInspect.Proofs.ClassFile.Resolution
import ClassInspect.Proofs.ClassFile.SelfDelimiting
import ClassInspect.Proofs.ClassFile.Slots
import ClassInspect.Proofs.ClassFile.Summary
import ClassInspect.Proofs.Descriptor.Slots
import ClassInspect.Proofs.Dump
import ClassInspect.Proofs.Program.ClassDump
import ClassInspect.Proofs.Report.HiddenAttributes
import ClassInspect.Proofs.Report.LineFeeds
import ClassInspect.Proofs.Report.Lossless
import ClassInspect.Proofs.Report.PoolSection
import ClassInspect.Proofs.Report.Serialization
import ClassInspect.Proofs.Settings.Merge
import ClassInspect.Proofs.Settings.Substitution
import ClassInspect.Proofs.Text.Groups
import ClassInspect.Proofs.Text.PlainUtf8
