import WebFetch.Address
import WebFetch.Bits
import WebFetch.CommandLine
import WebFetch.Cut
import WebFetch.Fetch.Basic
import WebFetch.Fetch.Exchange
import WebFetch.Frame.Basic
import WebFetch.Frame.Dump
import WebFetch.Frame.Payload
import WebFetch.Frame.Sequence
import WebFetch.Hpack.Block
import WebFetch.Hpack.DynamicTable
import WebFetch.Hpack.Error
import WebFetch.Hpack.Header
import WebFetch.Hpack.Huffman.Code
import WebFetch.Hpack.Huffman.Coding
import WebFetch.Hpack.Huffman.Tree
import WebFetch.Hpack.Huffman.Trie
import WebFetch.Hpack.Integer
import WebFetch.Hpack.StringLiteral
import WebFetch.Journal.Basic
import WebFetch.Main
import WebFetch.Message.Basic
import WebFetch.Message.Chunked
import WebFetch.Message.Framing
import WebFetch.Message.Head
import WebFetch.Message.Receiver
import WebFetch.Network.Basic
import WebFetch.Network.Connection
import WebFetch.Network.Tls
import WebFetch.Octets
import WebFetch.Octets.Builder
import WebFetch.Octets.HexDump
import WebFetch.Octets.Window
import WebFetch.Program
import WebFetch.Proofs.Bits
import WebFetch.Proofs.Cut
import WebFetch.Proofs.Fetch
import WebFetch.Proofs.Frame.Dump
import WebFetch.Proofs.Frame.RoundTrip
import WebFetch.Proofs.Frame.Sequence
import WebFetch.Proofs.Frame.Settings
import WebFetch.Proofs.Frame.Settings.RoundTrip
import WebFetch.Proofs.Frame.Words
import WebFetch.Proofs.Hpack.Block
import WebFetch.Proofs.Hpack.Composition
import WebFetch.Proofs.Hpack.DynamicTable
import WebFetch.Proofs.Hpack.Failure
import WebFetch.Proofs.Hpack.Integer
import WebFetch.Proofs.Hpack.Integer.Shortest
import WebFetch.Proofs.Hpack.Integer.Value
import WebFetch.Proofs.Hpack.Integer.Word
import WebFetch.Proofs.Hpack.Interpretation
import WebFetch.Proofs.Hpack.Kinds
import WebFetch.Proofs.Hpack.Maximum
import WebFetch.Proofs.Hpack.Reader
import WebFetch.Proofs.Hpack.StringLiteral
import WebFetch.Proofs.Huffman.Code
import WebFetch.Proofs.Huffman.Encoding
import WebFetch.Proofs.Huffman.Language
import WebFetch.Proofs.Huffman.Trie
import WebFetch.Proofs.Message.Chunked
import WebFetch.Proofs.Message.Chunked.Grammar
import WebFetch.Proofs.Message.Chunked.Turns
import WebFetch.Proofs.Message.Complete
import WebFetch.Proofs.Message.Framing
import WebFetch.Proofs.Message.Head
import WebFetch.Proofs.Message.History
import WebFetch.Proofs.Message.Limits
import WebFetch.Proofs.Message.Numbers
import WebFetch.Proofs.Message.Offsets
import WebFetch.Proofs.Message.Receiver
import WebFetch.Proofs.Message.Request
import WebFetch.Proofs.Message.Response
import WebFetch.Proofs.Octets
import WebFetch.Proofs.Octets.Builder
import WebFetch.Proofs.Octets.HexDump
import WebFetch.Proofs.Octets.Window
import WebFetch.Proofs.Program
import WebFetch.Proofs.Session.Actions
import WebFetch.Proofs.Session.Answers
import WebFetch.Proofs.Session.Block
import WebFetch.Proofs.Session.Consumption
import WebFetch.Proofs.Session.Contribution
import WebFetch.Proofs.Session.Conversation
import WebFetch.Proofs.Session.Course
import WebFetch.Proofs.Session.Credit
import WebFetch.Proofs.Session.Exchange
import WebFetch.Proofs.Session.Frames
import WebFetch.Proofs.Session.Lengths
import WebFetch.Proofs.Session.Misplaced
import WebFetch.Proofs.Session.Reassembly
import WebFetch.Proofs.Session.Refusal
import WebFetch.Proofs.Session.Reports
import WebFetch.Proofs.Session.Request
import WebFetch.Proofs.Session.Safety
import WebFetch.Proofs.Session.Serving
import WebFetch.Proofs.Session.Settling
import WebFetch.Proofs.Session.Status
import WebFetch.Proofs.Stream.Calls
import WebFetch.Proofs.Stream.Channel
import WebFetch.Proofs.Stream.Pending
import WebFetch.Proofs.Stream.Remaining
import WebFetch.Proofs.Text.Numeral
import WebFetch.Proofs.Text.Utf8
import WebFetch.Proofs.Text.Utf8.Validity
import WebFetch.Proofs.Url.Canonical
import WebFetch.Proofs.Url.Characters
import WebFetch.Proofs.Url.DotSegments
import WebFetch.Proofs.Url.Path
import WebFetch.Proofs.Url.Printing
import WebFetch.Sequenced
import WebFetch.Session.Basic
import WebFetch.Session.Exchange
import WebFetch.Session.Handshake
import WebFetch.Session.Request
import WebFetch.Session.Response
import WebFetch.Simulation.CommandLine.Basic
import WebFetch.Simulation.CommandLine.Help
import WebFetch.Simulation.CommandLine.Parser
import WebFetch.Simulation.Journal.Line
import WebFetch.Simulation.Journal.Rules
import WebFetch.Simulation.Network
import WebFetch.Simulation.Pattern.Bracket
import WebFetch.Simulation.Pattern.Escape
import WebFetch.Simulation.Pattern.Reading
import WebFetch.Simulation.Platform
import WebFetch.Simulation.Server
import WebFetch.Simulation.ServerName
import WebFetch.Simulation.Text.Alphanumeric
import WebFetch.Simulation.Text.Control
import WebFetch.Simulation.Text.Decimal
import WebFetch.Simulation.Tls
import WebFetch.Stream.Basic
import WebFetch.Stream.Error
import WebFetch.Text.Ascii
import WebFetch.Text.Blank
import WebFetch.Text.Numeral
import WebFetch.Text.Quoted
import WebFetch.Text.Unprinted
import WebFetch.Text.Utf8
import WebFetch.Url.Basic
import WebFetch.Url.Parser
import WebFetch.Url.Path
import WebFetch.Word
