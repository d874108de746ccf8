import TitanShare.Library.PassLoop
import TitanShare.Library.OffsetBuffer
import TitanShare.Library.FileTable
import TitanShare.Library.Outcome
import TitanShare.Library.Trace
import TitanShare.SessionManager
import TitanShare.Commands
import TitanShare.Library.Pacing
import TitanShare.Library.RollingWindow
import TitanShare.PinWindow
import TitanShare.AuthGate
import TitanShare.UploadStream
import TitanShare.UploadIntegrity
import TitanShare.UploadIsolation
import TitanShare.BruteForce
import TitanShare.Survival
import TitanShare.PushFraming
import TitanShare.RequestSafety
import TitanShare.Expulsion
import TitanShare.TcpServer
import TitanShare.DescriptorOwnership
import TitanShare.Likeness
import TitanShare.StreamMachine
import TitanShare.Segmentation
import TitanShare.Library.Unwinding
import TitanShare.AuthIsolation
import TitanShare.Library.PathText
import TitanShare.PathConfinement
import TitanShare.ReplyDelivery
import TitanShare.ClientTable
import TitanShare.Library.LengthPrefix
import TitanShare.MirrorReceiver
import TitanShare.DataHandler
import TitanShare.SessionState
import TitanShare.FinalAnswer
import TitanShare.UploadNames
import TitanShare.ListedFiles
import TitanShare.TransferStatus
import TitanShare.Library.Trimming
import TitanShare.AuthGrammar
import TitanShare.Library.Numerals
import TitanShare.UploadHeader
import TitanShare.RejectedUpload
import TitanShare.PersistedPin
import TitanShare.PushStreaming
import TitanShare.TlsFallback
import TitanShare.Library.Scheduled
import TitanShare.MirrorThreads
import TitanShare.MirrorLifecycle
import TitanShare.MirrorClosing
import TitanShare.BanDuration
import TitanShare.MemorySession
import TitanShare.ReadBuffer
import TitanShare.Library.Words
import TitanShare.SeatLookup
import TitanShare.Library.UsKeyboard
import TitanShare.VirtualInput
import TitanShare.ProcStat
import TitanShare.CpuUsage
import TitanShare.Library.FolderTree
import TitanShare.DroppedFiles
import TitanShare.Library.Attempts
import TitanShare.StalledPeer
import TitanShare.LegacySentinel
import TitanShare.JsonParser
import TitanShare.JsonRoundTrip
import TitanShare.JsonPrefix
import TitanShare.SessionFiles
import TitanShare.IpcPaths
import TitanShare.PairingWindow
import TitanShare.Library.Reader
import TitanShare.ReplyLines
import TitanShare.WireReading
import TitanShare.Exchanges
import TitanShare.CommandActions
import TitanShare.Library.InputDevice
import TitanShare.VirtualMouse
import TitanShare.MdnsAdvertiser
import TitanShare.MdnsObjects
import TitanShare.MdnsStop
import TitanShare.MdnsAnnouncements
import TitanShare.JsonReplies
import TitanShare.MirrorPipeline
import TitanShare.MirrorObjects
import TitanShare.DaemonMain
import TitanShare.DaemonMoves
import TitanShare.DaemonShutdown
import TitanShare.LogMutex
import TitanShare.PinLifetime
import TitanShare.ShutdownRace
import TitanShare.MemoryInfo
import TitanShare.ProcessOutput
