import SqlCompose.Problem
import SqlCompose.Session
import SqlCompose.Proofs.Select.History
import SqlCompose.Proofs.Insert.Pairing
import SqlCompose.Proofs.Unambiguous
import SqlCompose.Proofs.Interleaving
import SqlCompose.Proofs.InStep
import SqlCompose.Proofs.Report
import SqlCompose.Proofs.Composition
import SqlCompose.Proofs.Select.ClosedSlots
import SqlCompose.Proofs.Terminator
import SqlCompose.Proofs.Json.Reader
import SqlCompose.Proofs.Json.Roundtrip
import SqlCompose.Proofs.Log.Entries
import SqlCompose.Proofs.Json.Visible
import SqlCompose.Proofs.Log.Lines
import SqlCompose.Proofs.Log.Names
import SqlCompose.Proofs.Log.Nested
import SqlCompose.Proofs.Log.Delivery
import SqlCompose.Proofs.Log.Configured
import SqlCompose.Proofs.Spelling
import SqlCompose.Proofs.Update.Refused
import SqlCompose.Proofs.Log.Transparent
import SqlCompose.Proofs.Log.Strict
import SqlCompose.Proofs.Log.Unfinished
import SqlCompose.Proofs.Log.Unconditional
import SqlCompose.Proofs.Log.Apart
import SqlCompose.Proofs.NormalForm
import SqlCompose.Proofs.Select.Supplied
