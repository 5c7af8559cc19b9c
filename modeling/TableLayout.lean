import TableLayout.Main
import TableLayout.Proofs.Layout.Partition
import TableLayout.Proofs.Resolve.Agreement
import TableLayout.Proofs.Resolve.Deletion
import TableLayout.Proofs.Resolve.Diagnosis
import TableLayout.Proofs.Resolve.Lawful
import TableLayout.Proofs.Resolve.Log
import TableLayout.Proofs.Resolve.Outcome
import TableLayout.Proofs.Resolve.Pinned
import TableLayout.Proofs.Schema.Lawful
import TableLayout.Proofs.Schema.Misuse
import TableLayout.Proofs.Schema.RoundTrip
import TableLayout.Proofs.Settings.Deletion
import TableLayout.Proofs.Settings.Names
import TableLayout.Proofs.Settings.Normal
import TableLayout.SqlColumn
import TableLayout.Proofs.Key.KeyOutcome
import TableLayout.Proofs.Datum.Entries
import TableLayout.Proofs.Settings.Override
import TableLayout.Proofs.Datum.Json
import TableLayout.Proofs.Logging
import TableLayout.Proofs.RecordFile
import TableLayout.Proofs.Report
import TableLayout.Proofs.Resolve.Origin
import TableLayout.Proofs.CommandLine.Ending
import TableLayout.Proofs.Key.Mirror
import TableLayout.Proofs.Text.Word
import TableLayout.Proofs.Schema.Shorthand
import TableLayout.Proofs.Schema.Nested
import TableLayout.Proofs.Schema.FieldForm
import TableLayout.Proofs.Schema.EntryOrder
import TableLayout.Proofs.SqlColumn
import TableLayout.Proofs.Resolve.HeaderOrder
import TableLayout.Proofs.Resolve.Carrier
import TableLayout.Proofs.Resolve.NewField
import TableLayout.Proofs.Settings.Joined
import TableLayout.Proofs.Datum.Printed
import TableLayout.Proofs.Report.Complete
