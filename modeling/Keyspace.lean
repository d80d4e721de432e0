import Keyspace.Main
import Keyspace.Proofs.SweepsInvisible
import Keyspace.Proofs.OneKind
import Keyspace.Proofs.ErrorMarker
import Keyspace.Proofs.Deadline
import Keyspace.Proofs.KeysOrder
import Keyspace.Proofs.Staleness
import Keyspace.Proofs.WellFormed
import Keyspace.Proofs.ReplyText
import Keyspace.Proofs.Layout
import Keyspace.Proofs.Numerals
import Keyspace.Proofs.Overlong
import Keyspace.Proofs.Frame
import Keyspace.Proofs.WrongKind
import Keyspace.Proofs.Commuting
import Keyspace.Proofs.SweepBeforeLine
import Keyspace.Proofs.FreshSession
import Keyspace.Proofs.KeysMatching
import Keyspace.Proofs.Removal
import Keyspace.Proofs.Slices
import Keyspace.Proofs.Deque
import Keyspace.Proofs.CaretNegation
import Keyspace.Proofs.Cadence
import Keyspace.Proofs.Members
import Keyspace.Proofs.Fields
import Keyspace.Proofs.TimeLeft
import Keyspace.Proofs.Deletion
import Keyspace.Proofs.Observers
import Keyspace.Proofs.CaseTables
import Keyspace.Proofs.Refusals
import Keyspace.Proofs.UsageHints
import Keyspace.Proofs.Decimals
import Keyspace.Proofs.SetOptions
import Keyspace.Proofs.Dialogue
