import MessageIo.Lib.Framing
import MessageIo.Lib.Leb128
import MessageIo.Util.Encoding
import MessageIo.Util.Decoding
import MessageIo.Util.DecoderLaws
import MessageIo.Network.Basic
import MessageIo.Network.Adapter
import MessageIo.Network.Driver
import MessageIo.Adapters.Tcp
import MessageIo.Network.EventOrder
import MessageIo.Adapters.Ssl
import MessageIo.Adapters.Ws
import MessageIo.Network.Multiplexor
import MessageIo.Network.SendOrder
import MessageIo.Network.Callbacks
import MessageIo.Lib.Transition
import MessageIo.Node.Machine
import MessageIo.Node.Inversion
import MessageIo.Node.WakeUp
import MessageIo.Network.DriverSpec
import MessageIo.Node.Stop
import MessageIo.Node.Origin
import MessageIo.Node.NoPanic
import MessageIo.Node.Tokens
import MessageIo.Node.Ownership
import MessageIo.Network.Poll
import MessageIo.Network.RemoteSteps
import MessageIo.Node.Downcast
import MessageIo.Adapters.SslReady
import MessageIo.Adapters.WsStates
import MessageIo.Adapters.TcpEdges
import MessageIo.Lib.Attempt
import MessageIo.Lib.BigEndian
import MessageIo.Protocol.Frame
import MessageIo.Protocol.Codec
import MessageIo.Lib.Utf8
import MessageIo.Protocol.Message
import MessageIo.Protocol.Context
import MessageIo.Protocol.Writing
import MessageIo.Protocol.Reading
import MessageIo.Protocol.Grammar
import MessageIo.Protocol.Closing
import MessageIo.Protocol.Replies
import MessageIo.Protocol.RoundTrip
import MessageIo.Handshake.Machine
import MessageIo.Handshake.Progress
import MessageIo.Protocol.SizeLimit
import MessageIo.Network.Terminal
import MessageIo.Protocol.Packet
import MessageIo.Protocol.Checked
import MessageIo.Lib.Shared
import MessageIo.Network.Registry
import MessageIo.Node.Ready
import MessageIo.Node.Gone
import MessageIo.Node.ConnectSync
import MessageIo.Node.NothingBehind
import MessageIo.Adapters.SslAccept
import MessageIo.Adapters.SslConnect
import MessageIo.Protocol.Stranded
import MessageIo.Adapters.WsStranded
import MessageIo.Lib.NativeWord
import MessageIo.Protocol.Mask
import MessageIo.Protocol.Output
import MessageIo.Protocol.Chunking
import MessageIo.Handshake.Connect
import MessageIo.Protocol.CloseReason
import MessageIo.Handshake.Answering
import MessageIo.Node.Story
import MessageIo.Node.Delivery
import MessageIo.Node.Shutdown
import MessageIo.Protocol.Dialogue
import MessageIo.Protocol.Parting
import MessageIo.Adapters.WsConversation
