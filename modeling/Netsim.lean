import Netsim.Lib.Run
import Netsim.Lib.WhileLoop
import Netsim.Lib.Selection
import Netsim.Lib.Pass
import Netsim.Lib.Overwrite
import Netsim.Lib.Ieee
import Netsim.Lib.CircularBuffer
import Netsim.Core.Common
import Netsim.Core.PacketStream
import Netsim.Detector.Model
import Netsim.Detector.Framing
import Netsim.Detector.Capture
import Netsim.Detector.PacketIds
import Netsim.Lib.Streak
import Netsim.Detector.Silence
import Netsim.Detector.Continuous
import Netsim.Logger.Model
import Netsim.Lib.Multimap
import Netsim.Lib.Decimal
import Netsim.Lib.Delimited
import Netsim.Lib.Base64
import Netsim.Logger.Files
import Netsim.Logger.Closed
import Netsim.Jack.Model
import Netsim.Jack.Playback
import Netsim.Jack.ExactPlayback
import Netsim.Jack.Pending
import Netsim.Jack.Successive
import Netsim.Jack.StartTime
import Netsim.Jack.CompletePackets
import Netsim.Jack.Underrun
import Netsim.Jack.FrameLoop
import Netsim.Jack.SilentPorts
import Netsim.Tcp.Session
import Netsim.Tcp.Lines
import Netsim.Tcp.Listening
import Netsim.Tcp.Client
import Netsim.Tcp.WireProtocol
import Netsim.Tcp.Server
import Netsim.Udp.Model
import Netsim.Udp.Conservation
import Netsim.Udp.Responses
import Netsim.Lib.Registry
import Netsim.Manager.Model
import Netsim.Manager.Requests
import Netsim.Manager.Region
import Netsim.Manager.GpsLine
import Netsim.Lib.Fifo
import Netsim.Bridge.Model
import Netsim.Jack.CaptureQueue
import Netsim.Bridge.Delivery
import Netsim.Tool.Model
import Netsim.Tool.Sweep
import Netsim.Lib.OutputStream
import Netsim.Lib.KeyedStore
import Netsim.Bellhop.Environment
import Netsim.Bellhop.Model
import Netsim.Bellhop.Requests
import Netsim.Bellhop.Receivers
import Netsim.Bellhop.NodeReports
import Netsim.Bellhop.SoundSpeed
import Netsim.Tcp.Receive
import Netsim.Tcp.Lifetime
import Netsim.Tcp.Interleaving
import Netsim.Udp.Performance
import Netsim.Bellhop.Interpolation
import Netsim.Udp.TravelTime
import Netsim.Bellhop.Updates
import Netsim.Bellhop.Merge
import Netsim.Bellhop.Grid
import Netsim.Bellhop.Matrix
import Netsim.Lib.TextLines
import Netsim.Bellhop.Layout
import Netsim.Bellhop.Dimensions
import Netsim.Lib.Window
import Netsim.Detector.Window
import Netsim.Lib.Mailboxes
import Netsim.Pipeline.Model
import Netsim.Lib.Component
import Netsim.Pipeline.Delivery
import Netsim.Pipeline.Threads
import Netsim.Detector.InOrder
import Netsim.Jack.InOrder
import Netsim.Pipeline.EndToEnd
import Netsim.Pipeline.Logs
import Netsim.Manager.Routing
import Netsim.Network.Model
import Netsim.Network.Routing
import Netsim.Network.Answered
import Netsim.Lib.DelayQueue
import Netsim.Udp.Timing
import Netsim.Udp.InOrder
import Netsim.Tcp.Wire
import Netsim.Manager.Clients
import Netsim.Manager.Conversations
import Netsim.Lib.LittleEndian
import Netsim.Logger.Paths
import Netsim.Logger.Plot
import Netsim.Liaison.Model
import Netsim.Liaison.Painting
import Netsim.Jack.Continuous
import Netsim.Pipeline.Continuous
import Netsim.Pipeline.Loud
import Netsim.Lib.IeeeArithmetic
