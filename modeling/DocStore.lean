import DocStore.FieldType.Virtual
import DocStore.Lock.Session
import DocStore.Main
import DocStore.Proofs.Collection
import DocStore.Proofs.Lock.Line
import DocStore.Proofs.Value.Path
import DocStore.Query.Step
import DocStore.Realm.Session
import DocStore.Write.Task
import DocStore.Proofs.FieldType.Validate
import DocStore.Proofs.Write.Plan
import DocStore.Proofs.Write.Protocol
import DocStore.Proofs.Write.Holder
import DocStore.Proofs.Write.Ledger
import DocStore.Proofs.Write.Alone
import DocStore.Proofs.Write.Serial
import DocStore.Proofs.Number.Bits
import DocStore.Proofs.Number.Round
import DocStore.Proofs.FieldType.Canonical
import DocStore.Proofs.Schema.Pass
import DocStore.Proofs.Number.Shortest
import DocStore.Proofs.Number.Text
import DocStore.Proofs.Schema.Setters
import DocStore.Proofs.Schema.Name
import DocStore.Proofs.Write.Stored
import DocStore.Proofs.Schema.Declare
import DocStore.Proofs.Write.Setters
import DocStore.Proofs.Schema.Frame
import DocStore.Proofs.Write.Update
import DocStore.Proofs.Lock.Step
import DocStore.Proofs.Lock.Crowd
import DocStore.Proofs.Lock.Turns
import DocStore.Proofs.Write.Load
import DocStore.Proofs.Calendar.Signed
import DocStore.Proofs.FieldType.Survival
import DocStore.Proofs.Schema.Text
import DocStore.Proofs.Write.Slots
import DocStore.Proofs.Write.Search
import DocStore.Proofs.Write.Replay
import DocStore.Proofs.Write.Events
import DocStore.Proofs.Query.Equal
import DocStore.Proofs.Json.Numeral
import DocStore.Proofs.Json.Text
import DocStore.Proofs.Json.Nesting
import DocStore.Proofs.Value.Keys
import DocStore.Proofs.Value.Text
import DocStore.Proofs.Database.File
import DocStore.Proofs.Realm.Load
import DocStore.Proofs.Realm.Edit
import DocStore.Proofs.Database.Edit
import DocStore.Proofs.CommandLine.Edit
import DocStore.Proofs.Realm.Registry
import DocStore.Proofs.Schema.Rename
import DocStore.Proofs.Schema.Place
import DocStore.Proofs.Write.Refused
import DocStore.Proofs.FieldType.Literal
import DocStore.Proofs.Write.Found
import DocStore.Proofs.Schema.Alike
import DocStore.Proofs.Schema.Abreast
import DocStore.Proofs.Schema.Mutation
import DocStore.Proofs.Write.Sequence
import DocStore.Proofs.Query.Order
import DocStore.Proofs.Query.Dotted
import DocStore.Proofs.Write.Spelling
import DocStore.Proofs.Schema.Refill
import DocStore.Proofs.Write.Prebuilt
import DocStore.Proofs.Schema.Guarded
import DocStore.Proofs.Number.Whole
import DocStore.Proofs.FieldType.Items
import DocStore.Proofs.Write.Selected
import DocStore.Proofs.Write.Upsert
import DocStore.Proofs.Realm.Report
import DocStore.Proofs.Value.Total
import DocStore.Proofs.FieldType.Form
import DocStore.Proofs.Query.Sort
import DocStore.Proofs.Document.Copies
import DocStore.Proofs.Document.Virtual
import DocStore.Proofs.Realm.Reference
import DocStore.Proofs.Realm.Population
import DocStore.Proofs.Realm.Current
import DocStore.Proofs.Realm.Names
import DocStore.Proofs.Realm.Stopped
import DocStore.Proofs.Value.Lens
import DocStore.Proofs.CommandLine.Spared
import DocStore.Proofs.Definition.Type
import DocStore.Proofs.Definition.Schema
import DocStore.Proofs.Realm.Missing
import DocStore.Proofs.Schema.Listing
import DocStore.Proofs.FieldType.Compare
import DocStore.Proofs.Calendar.Reread
import DocStore.Proofs.Query.Slice
