import CrsExport.Main
import CrsExport.Csv.Document
import CrsExport.Csv.Reader
import CrsExport.Proofs.Text.Words
import CrsExport.Proofs.Text.Utf8
import CrsExport.Proofs.Definition.Normal
import CrsExport.Proofs.Definition.Order
import CrsExport.Proofs.Definition.Keys
import CrsExport.Proofs.Csv.ReadBack
import CrsExport.Proofs.Csv.Answers
import CrsExport.Proofs.Csv.Buffer
import CrsExport.Proofs.Export.Range
import CrsExport.Proofs.Export.Scan
import CrsExport.Proofs.Export.Delivery
import CrsExport.Proofs.Export.Failure
import CrsExport.Proofs.Export.ReadBack
import CrsExport.Proofs.Export.Lines
import CrsExport.Proofs.Refiner.Checked
import CrsExport.Proofs.Refiner.Keys
import CrsExport.Proofs.Export.Counts
import CrsExport.Proofs.Run.Completed
import CrsExport.Proofs.Run.Summary
import CrsExport.Proofs.Export.Refined
import CrsExport.Proofs.CodeList.Spans
import CrsExport.Proofs.Refiner.Scope
import CrsExport.Proofs.Export.Parts
import CrsExport.Proofs.InitFile.Fates
import CrsExport.Proofs.InitFile.Reload
import CrsExport.Proofs.InitFile.Entry
import CrsExport.Proofs.FileStore.Writing
import CrsExport.Proofs.Run.Stages
import CrsExport.Proofs.Definition.Latest
import CrsExport.Proofs.Definition.Parameter
import CrsExport.Proofs.Definition.Sorted
import CrsExport.Proofs.Definition.Alike
import CrsExport.Proofs.Definition.Projection
import CrsExport.Proofs.Refiner.FinalOrder
import CrsExport.Proofs.Refiner.Additions
import CrsExport.Proofs.Definition.Edits
import CrsExport.Proofs.Refiner.Canonical
import CrsExport.Proofs.Export.Projection
import CrsExport.Proofs.Export.Events
import CrsExport.Proofs.Export.Partition
import CrsExport.Proofs.Run.Reruns
import CrsExport.Proofs.InitFile.Lines
import CrsExport.Proofs.InitFile.Loaded
import CrsExport.Proofs.InitFile.Listing
import CrsExport.Proofs.InitFile.Override
import CrsExport.Proofs.CodeList.Grammar
import CrsExport.Proofs.CodeList.Spelling
import CrsExport.Proofs.Refiner.Listed
import CrsExport.Proofs.Refiner.Faults
import CrsExport.Proofs.Text.Runs
import CrsExport.Proofs.Definition.Runs
import CrsExport.Proofs.Export.Progress
import CrsExport.Json
import CrsExport.Proofs.Log.Lines
import CrsExport.Proofs.Json.Strings
import CrsExport.Proofs.Json.Numbers
import CrsExport.Proofs.Json.Values
