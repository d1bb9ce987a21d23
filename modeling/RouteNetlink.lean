import RouteNetlink.Address.Ethernet
import RouteNetlink.Address.Ip
import RouteNetlink.Attribute.Basic
import RouteNetlink.Attribute.CacheInfo
import RouteNetlink.Attribute.Counters
import RouteNetlink.Attribute.Decode
import RouteNetlink.Attribute.Encode
import RouteNetlink.Attribute.Form
import RouteNetlink.Attribute.Listing
import RouteNetlink.Attribute.Outline
import RouteNetlink.Attribute.Run
import RouteNetlink.Attribute.Schema
import RouteNetlink.Attribute.Value
import RouteNetlink.Bytes.Alignment
import RouteNetlink.Bytes.Cursor
import RouteNetlink.Bytes.Extent
import RouteNetlink.Bytes.Layout
import RouteNetlink.Bytes.LittleEndian
import RouteNetlink.Datum.Attribute
import RouteNetlink.Datum.Basic
import RouteNetlink.Datum.Fault
import RouteNetlink.Datum.Message
import RouteNetlink.Datum.Session
import RouteNetlink.Datum.Settings
import RouteNetlink.Fault.Basic
import RouteNetlink.Fault.OsError
import RouteNetlink.Kernel.Caller
import RouteNetlink.Kernel.Conversation
import RouteNetlink.Kernel.FileTree
import RouteNetlink.Kernel.Files
import RouteNetlink.Kernel.Machine
import RouteNetlink.Kernel.Reply
import RouteNetlink.Message.Accessors
import RouteNetlink.Message.Basic
import RouteNetlink.Message.Decode
import RouteNetlink.Message.Encode
import RouteNetlink.Message.Entity
import RouteNetlink.Message.Header
import RouteNetlink.Message.ReceiveBuffer
import RouteNetlink.Message.Schema
import RouteNetlink.Message.TransmitBuffer
import RouteNetlink.Named
import RouteNetlink.Pool.Basic
import RouteNetlink.Pool.Decode
import RouteNetlink.Pool.Held
import RouteNetlink.Pool.Shelf
import RouteNetlink.Proofs.Acknowledgement
import RouteNetlink.Proofs.Appending
import RouteNetlink.Proofs.Closing
import RouteNetlink.Proofs.Conformance
import RouteNetlink.Proofs.Conveyance
import RouteNetlink.Proofs.Custody
import RouteNetlink.Proofs.Delivery
import RouteNetlink.Proofs.Digits
import RouteNetlink.Proofs.DumpOrder
import RouteNetlink.Proofs.Dumping
import RouteNetlink.Proofs.Effects
import RouteNetlink.Proofs.Entries
import RouteNetlink.Proofs.Fates
import RouteNetlink.Proofs.Filling
import RouteNetlink.Proofs.FlagText
import RouteNetlink.Proofs.Flushing
import RouteNetlink.Proofs.Framing
import RouteNetlink.Proofs.Freshness
import RouteNetlink.Proofs.Grammar
import RouteNetlink.Proofs.Layout
import RouteNetlink.Proofs.Lending
import RouteNetlink.Proofs.Numbering
import RouteNetlink.Proofs.Occurrence
import RouteNetlink.Proofs.Office
import RouteNetlink.Proofs.OneLine
import RouteNetlink.Proofs.Origins
import RouteNetlink.Proofs.Outcome
import RouteNetlink.Proofs.Pace
import RouteNetlink.Proofs.Payload
import RouteNetlink.Proofs.Reassembly
import RouteNetlink.Proofs.Record
import RouteNetlink.Proofs.Recycling
import RouteNetlink.Proofs.Relevance
import RouteNetlink.Proofs.Rendering
import RouteNetlink.Proofs.Reserving
import RouteNetlink.Proofs.Resynchronization
import RouteNetlink.Proofs.RoundTrip
import RouteNetlink.Proofs.Rounds
import RouteNetlink.Proofs.Run
import RouteNetlink.Proofs.Spelling
import RouteNetlink.Proofs.Steps
import RouteNetlink.Proofs.Utf8
import RouteNetlink.Proofs.Wire
import RouteNetlink.Session.Basic
import RouteNetlink.Session.Desk
import RouteNetlink.Session.Ledger
import RouteNetlink.Session.Receive
import RouteNetlink.Session.Settings
import RouteNetlink.Session.Settle
import RouteNetlink.Session.Stream
import RouteNetlink.Session.Task
import RouteNetlink.Session.Transmit
import RouteNetlink.Session.Transport
import RouteNetlink.Text.CharRanges
import RouteNetlink.Text.ExtendingChars
import RouteNetlink.Text.FlagNames
import RouteNetlink.Text.Hex
import RouteNetlink.Text.IgnorableChars
import RouteNetlink.Text.Listing
import RouteNetlink.Text.Outline
import RouteNetlink.Text.UnprintableChars
import RouteNetlink.Text.Utf8
import RouteNetlink.Vocabulary.Basic
import RouteNetlink.Vocabulary.Family
import RouteNetlink.Vocabulary.Flags
import RouteNetlink.Vocabulary.Group
import RouteNetlink.Vocabulary.Link
import RouteNetlink.Vocabulary.RecordKind
import RouteNetlink.Vocabulary.Route
