import Exosip.Transaction.Lifecycle
import Exosip.Transaction.Pending
import Exosip.Stack.Retransmission
import Exosip.Stack.Timeout
import Exosip.Machine.Quoted
import Exosip.Parser.GenericParam
import Exosip.Stack.Destination
import Exosip.Stack.Ixt
import Exosip.Stack.Matching
import Exosip.Machine.Framing
import Exosip.Tcp.Recv
import Exosip.Tcp.Framing
import Exosip.Sdp.Message
import Exosip.Sdp.Lines
import Exosip.Sdp.Values
import Exosip.Sdp.Accepted
import Exosip.Sdp.Accessor
import Exosip.Sdp.MediaBounds
import Exosip.Sdp.RoundTrip
import Exosip.Machine.Dict
import Exosip.Stack.Absorption
import Exosip.Stack.Hashtable
import Exosip.Machine.Queue
import Exosip.Port.Fifo
import Exosip.Parser.Body
import Exosip.Parser.Unfolding
import Exosip.Parser.Multipart
import Exosip.Parser.SingleBody
import Exosip.Parser.SipMessage
import Exosip.Parser.Serialise
import Exosip.Parser.AllOrNothing
import Exosip.Parser.Setters
import Exosip.Parser.Cache
import Exosip.Parser.Clone
import Exosip.Parser.ContentLength
import Exosip.Parser.Parse
import Exosip.Parser.Part
import Exosip.Parser.Scan
import Exosip.Parser.MimeRoundTrip
import Exosip.Parser.Head
import Exosip.Parser.RoundTrip
import Exosip.Dialog.Basic
import Exosip.Dialog.Matching
import Exosip.Parser.UriParts
import Exosip.Parser.UriRoundTrip
import Exosip.Dialog.Strings
import Exosip.Dialog.Request
import Exosip.Dialog.Response
import Exosip.Dialog.RouteSet
import Exosip.Auth.Realm
import Exosip.Machine.Slots
import Exosip.Auth.Digest
import Exosip.Auth.Credentials
import Exosip.Auth.NonceCount
import Exosip.Auth.Aka
import Exosip.Auth.Base64
import Exosip.Dispatch.Requests
import Exosip.Dispatch.Newrequest
import Exosip.Dispatch.Incoming
import Exosip.Dispatch.Ownership
import Exosip.Dispatch.Cseq
import Exosip.Dispatch.Cancel
import Exosip.Machine.Commit
import Exosip.Transaction.OneOutcome
import Exosip.Machine.Phase
import Exosip.Machine.Alloc
import Exosip.Parser.CloneBlocks
import Exosip.Transaction.Prolonged
import Exosip.Stack.Corresponds
import Exosip.Stack.RejectedInvite
import Exosip.Stack.NextHop
import Exosip.Stack.Creation
import Exosip.Call.Callbacks
import Exosip.Call.Established
import Exosip.Tcp.Agreement
import Exosip.Tcp.Accesses
import Exosip.Call.LocalCseq
import Exosip.Call.Identifiers
import Exosip.Call.Replaces
import Exosip.Automatic.Actions
import Exosip.Automatic.Bounded
import Exosip.Automatic.Failover
import Exosip.Call.Owners
import Exosip.Call.Release
import Exosip.Call.Dangling
import Exosip.Call.Lost200ok
import Exosip.Parser.Quote
import Exosip.Parser.Authenticate
import Exosip.Parser.Escape
import Exosip.Parser.UriSegments
import Exosip.Parser.ParamLists
import Exosip.Parser.NameAddr
import Exosip.Parser.CommaSplit
import Exosip.Parser.Credentials
import Exosip.Parser.AuthenticationInfo
import Exosip.Parser.ViaRoundTrip
import Exosip.Parser.Challenge
import Exosip.Parser.PartLines
import Exosip.Machine.Ownership
import Exosip.Transaction.Ownership
import Exosip.Parser.QuoteReads
import Exosip.Machine.Bytes
import Exosip.Machine.Walk
import Exosip.Parser.Enquote
import Exosip.Machine.Chain
import Exosip.Port.OsipList
import Exosip.Port.Sequence
import Exosip.Stack.SrvFailover
import Exosip.Automatic.RegisterBuild
import Exosip.Automatic.DialogWalk
import Exosip.Automatic.SessionTimer
import Exosip.Call.Identified
import Exosip.Call.ReleasePass
import Exosip.Call.Allocated
import Exosip.Machine.Duplex
import Exosip.Machine.Exchange
import Exosip.Transaction.Network
import Exosip.Transaction.Exchange
import Exosip.Tcp.Send
import Exosip.Machine.Blocks
import Exosip.Auth.Md5
import Exosip.Auth.Rijndael
import Exosip.Auth.Cipher
import Exosip.Auth.Milenage
import Exosip.Machine.Bubble
import Exosip.Stack.SrvAnswers
import Exosip.Dialog.Conversation
import Exosip.Stack.EventQueue
