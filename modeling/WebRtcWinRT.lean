import WebRtcWinRT.UdpSocket
import WebRtcWinRT.SocketWorker
import WebRtcWinRT.SocketWorkerDispatch
import WebRtcWinRT.SocketWorkerCapacity
import WebRtcWinRT.SocketWorkerLedger
import WebRtcWinRT.SocketPool
import WebRtcWinRT.SocketPoolShutdown
import WebRtcWinRT.SocketPoolRoundRobin
import WebRtcWinRT.SocketPoolOwnership
import WebRtcWinRT.AttributeQueue
import WebRtcWinRT.StatsObserver
import WebRtcWinRT.StatsReports
import WebRtcWinRT.StatsReportsRun
import WebRtcWinRT.CaptureModeSelection
import WebRtcWinRT.CaptureLifecycle
import WebRtcWinRT.MediaStreamSource
import WebRtcWinRT.MediaStreamSourceRun
import WebRtcWinRT.MediaStreamList
