import NeoFS.Lib.Grouping
import NeoFS.Lib.RoundRobin
import NeoFS.Lib.Except
import NeoFS.Lib.Reader
import NeoFS.Go.Basic
import NeoFS.Go.IO
import NeoFS.Go.Slice
import NeoFS.Refs
import NeoFS.Netmap.Types
import NeoFS.Netmap.Verify
import NeoFS.Netmap.Filter
import NeoFS.Netmap.Selector
import NeoFS.Netmap.SelectionBase
import NeoFS.Netmap.Selection
import NeoFS.Netmap.Placement
import NeoFS.Netmap.Query.Lexer
import NeoFS.Netmap.Query.Parser
import NeoFS.Netmap.Query.Decode
import NeoFS.Netmap.Query.Encode
import NeoFS.Netmap.Query.RoundTrip
import NeoFS.Netmap.FilterSemantics
import NeoFS.Crypto.Proto
import NeoFS.Crypto.Chain
import NeoFS.Session.Token
import NeoFS.Session.Delegation
import NeoFS.Session.Decode
import NeoFS.Lib.Varint
import NeoFS.Proto.Encoding
import NeoFS.Proto.Object
import NeoFS.Proto.Buffers
import NeoFS.Proto.Parsers
import NeoFS.Proto.SliceReads
import NeoFS.Proto.Scan
import NeoFS.Proto.Partition
import NeoFS.Proto.Fields
import NeoFS.Proto.Seekers
import NeoFS.Proto.Messages
import NeoFS.Proto.Grammar
import NeoFS.Proto.ScanSpec
import NeoFS.Client.Requests
import NeoFS.Client.PayloadReader
import NeoFS.Client.RangeLength
import NeoFS.Pool.SlidingWindow
import NeoFS.Client.ObjectList
import NeoFS.Client.ObjectPut
import NeoFS.Eacl.Validator
import NeoFS.Netmap.NetworkInfo
import NeoFS.Object.Relations
import NeoFS.Pool.Sampler
import NeoFS.Lib.Blocks
import NeoFS.Object.Slicer
import NeoFS.Object.SlicerBuffers
import NeoFS.Object.SlicerObjects
import NeoFS.Object.SlicerChain
import NeoFS.Object.SlicerRun
import NeoFS.Object.SlicerPut
import NeoFS.Object.SlicerSession
import NeoFS.Proto.ObjectMessages
import NeoFS.Proto.ObjectSchemes
