import OpenC2X.Dcc.Threads
import OpenC2X.Dcc.PacketLedger
import OpenC2X.Dcc.TokenLedger
import OpenC2X.Dcc.GeoNetHeaders
import OpenC2X.Dcc.SendToHardwareViaMAC
import OpenC2X.Lib.Buffer
import OpenC2X.Dcc.ReceiveFromHardwareViaMAC
import OpenC2X.Dcc.Framing
import OpenC2X.Dcc.RingBuffer
import OpenC2X.Lib.PartialRun
import OpenC2X.Dcc.DccConfig
import OpenC2X.Lib.DeadlineTimer
import OpenC2X.Dcc.StateMachine
import OpenC2X.Dcc.ChannelStates
import OpenC2X.Dcc.ActiveStates
import OpenC2X.Dcc.Settling
import OpenC2X.Dcc.Limits
import OpenC2X.Dcc.TokenClock
import OpenC2X.Dcc.TokenPacing
import OpenC2X.Dcc.ConcurrentSends
import OpenC2X.Dcc.Replay
import OpenC2X.Dcc.SendOrder
import OpenC2X.Dcc.Disposal
import OpenC2X.Cam.CaService
import OpenC2X.Cam.Alarms
import OpenC2X.Cam.RepeatedTriggers
import OpenC2X.Cam.SpeedFreshness
import OpenC2X.Cam.Encoding
import OpenC2X.Cam.Lifetime
import OpenC2X.Common.Buffers
import OpenC2X.Lib.Cache
import OpenC2X.Ldm.Store
import OpenC2X.Ldm.CamStore
import OpenC2X.Ldm.DenmStore
import OpenC2X.Ldm.ConcurrentRequests
import OpenC2X.Ldm.RequestOrder
import OpenC2X.Ldm.Service
import OpenC2X.Ldm.DccInfoStore
import OpenC2X.Ldm.MalformedMessages
import OpenC2X.Ldm.Server
import OpenC2X.Common.GlobalConfig
import OpenC2X.Common.SimultaneousStart
import OpenC2X.Cam.SpeedUnit
import OpenC2X.Cam.HeadingMemory
import OpenC2X.Lib.Atan2
import OpenC2X.Cam.Heading
import OpenC2X.Common.Communication
import OpenC2X.Cam.Conversion
import OpenC2X.Denm.Conversion
import OpenC2X.Dcc.Netlink
import OpenC2X.Dcc.ChannelProber
import OpenC2X.Dcc.PktStatsCollector
import OpenC2X.Lib.HexNumber
import OpenC2X.Obd2.SerialPort
import OpenC2X.Cam.Distance
import OpenC2X.Lib.Json
import OpenC2X.Ldm.AccessCategories
import OpenC2X.Lib.JavaScript
import OpenC2X.HttpServer.RequestDccInfo
import OpenC2X.Common.Utils
import OpenC2X.Ldm.PrintedMessages
import OpenC2X.Common.LoggingUtility
import OpenC2X.Gps.GpsService
import OpenC2X.Common.MacAddress
import OpenC2X.Denm.GenerateDenm
import OpenC2X.Lib.Program
import OpenC2X.Scripts.LogReader
import OpenC2X.Lib.Merge
import OpenC2X.Lib.StableSort
import OpenC2X.Scripts.RecentLogs
import OpenC2X.Scripts.LogInterleaver
import OpenC2X.Scripts.MergedLog
import OpenC2X.Lib.LabelledRun
import OpenC2X.Lib.LossyBroadcast
import OpenC2X.Common.PackedEncoding
import OpenC2X.Dcc.Network
import OpenC2X.Ldm.Threads
import OpenC2X.Ldm.Answers
import OpenC2X.Lib.Multipart
import OpenC2X.System.Node
import OpenC2X.System.Exchange
import OpenC2X.System.CamExchange
import OpenC2X.Denm.PackedEncoding
import OpenC2X.System.DenmExchange
import OpenC2X.System.WebSite
import OpenC2X.System.ReceivedCams
import OpenC2X.System.DccInfos
import OpenC2X.Lib.RequestReply
import OpenC2X.System.HttpRequests
