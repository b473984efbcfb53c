import SqlAccess.Content
import SqlAccess.Memory.Server
import SqlAccess.Postgres.ConnectionString
import SqlAccess.Postgres.Server
import SqlAccess.Proofs.Binding.FirstRefusal
import SqlAccess.Proofs.Cursor.FixedWidth
import SqlAccess.Proofs.Cursor.Identities
import SqlAccess.Proofs.Cursor.Labels
import SqlAccess.Proofs.Cursor.NullPolicy
import SqlAccess.Proofs.Cursor.Records
import SqlAccess.Proofs.Database.Positions
import SqlAccess.Proofs.Database.Reports
import SqlAccess.Proofs.Memory.Inserts
import SqlAccess.Proofs.Memory.Recording
import SqlAccess.Proofs.Number.Bytes
import SqlAccess.Proofs.Number.DecimalRange
import SqlAccess.Proofs.Number.DecimalValue
import SqlAccess.Proofs.Postgres.ExactNumbers
import SqlAccess.Proofs.Postgres.InterruptedRows
import SqlAccess.Proofs.Postgres.Messages
import SqlAccess.Proofs.Postgres.PlaceholderBoundaries
import SqlAccess.Proofs.Postgres.PlaceholderOrder
import SqlAccess.Proofs.Postgres.ResultRows
import SqlAccess.Proofs.Postgres.RoundTrip
import SqlAccess.Proofs.Registry.BinaryIntegers
import SqlAccess.Proofs.Registry.DefaultKinds
import SqlAccess.Proofs.Registry.Indistinguishable
import SqlAccess.Proofs.Registry.KindMismatch
import SqlAccess.Proofs.Registry.Outcomes
import SqlAccess.Proofs.Registry.Registration
import SqlAccess.Proofs.Session.Lifecycle
import SqlAccess.Proofs.Session.OpenStatements
import SqlAccess.Proofs.Session.SharedStreams
import SqlAccess.Proofs.Template.Boundary
import SqlAccess.Proofs.Template.Independence
import SqlAccess.Proofs.Template.MarkerList
import SqlAccess.Proofs.Template.PlainParameters
import SqlAccess.Proofs.Template.QuotedText
import SqlAccess.Proofs.Template.SkippedSlot
import SqlAccess.Registry.Converters
import SqlAccess.Registry.Standard
import SqlAccess.Session
