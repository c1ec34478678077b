import MediapipeLivelink.Framework.Digits
import MediapipeLivelink.Framework.Numerals
import MediapipeLivelink.Framework.Format
import MediapipeLivelink.Framework.Integers
import MediapipeLivelink.Framework.Exec
import MediapipeLivelink.Framework.Proc
import MediapipeLivelink.Framework.Monitor
import MediapipeLivelink.Framework.Stutter
import MediapipeLivelink.Framework.Channel
import MediapipeLivelink.Framework.Chunks
import MediapipeLivelink.Util.ValueToBuffer
import MediapipeLivelink.Util.CallSequence
import MediapipeLivelink.LiveLink.BlendShapes
import MediapipeLivelink.LiveLink.Packet
import MediapipeLivelink.Asio.SocketOps
import MediapipeLivelink.Asio.SocketService
import MediapipeLivelink.Asio.SyncSend
import MediapipeLivelink.Asio.OpenClose
import MediapipeLivelink.Asio.Descriptor
import MediapipeLivelink.Asio.Progress
import MediapipeLivelink.Asio.SocketObject
import MediapipeLivelink.Asio.Endpoint
import MediapipeLivelink.Asio.AddressText
import MediapipeLivelink.Asio.AddressRoundTrip
import MediapipeLivelink.Asio.ScopedAddress
import MediapipeLivelink.Program.World
import MediapipeLivelink.Program.BuildPacket
import MediapipeLivelink.Program.CaptureLoop
import MediapipeLivelink.Program.Main
import MediapipeLivelink.Program.Trace
import MediapipeLivelink.Program.Process
import MediapipeLivelink.Program.Rules
import MediapipeLivelink.Program.Simulation
import MediapipeLivelink.Lifecycle.Protocol
import MediapipeLivelink.Lifecycle.Run
import MediapipeLivelink.Transmission.Sender
import MediapipeLivelink.Transmission.Refinement
import MediapipeLivelink.Transmission.ExactlyOnce
import MediapipeLivelink.Transmission.SendBuffer
import MediapipeLivelink.Transmission.Heap
import MediapipeLivelink.Transmission.Exposure
import MediapipeLivelink.Transmission.Behaviour
import MediapipeLivelink.Transmission.Network
import MediapipeLivelink.Transmission.Acceptance
import MediapipeLivelink.Lifecycle.Abort
import MediapipeLivelink.Lifecycle.Termination
import MediapipeLivelink.Transmission.Delivery
