import Soundwave.SortedMap
import Soundwave.TransitionRuns
import Soundwave.SerialNumbers
import Soundwave.ByteCodec
import Soundwave.PcmSamples
import Soundwave.PcmRing
import Soundwave.PcmRingThreads
import Soundwave.PcmRingQueue
import Soundwave.AudioPackets
import Soundwave.JitterBuffer
import Soundwave.JitterLatency
import Soundwave.JitterTimeline
import Soundwave.JitterReordering
import Soundwave.InOrderDelivery
import Soundwave.ReceiverPipeline
import Soundwave.JitterTarget
import Soundwave.CaptureBlocks
import Soundwave.Packetizer
import Soundwave.PacketAudio
import Soundwave.AudioPath
import Soundwave.IdleResume
import Soundwave.ControlMessages
import Soundwave.ControlFraming
import Soundwave.VolumeProfiles
import Soundwave.ReceiverRegistry
import Soundwave.VolumeController
import Soundwave.OperationRules
import Soundwave.PlaybackGate
import Soundwave.ProfileDurability
import Soundwave.ProfileFormat
import Soundwave.ProfileReload
import Soundwave.FailedOperations
import Soundwave.GroupCommands
import Soundwave.PhoneLink
import Soundwave.PanelBarrier
import Soundwave.DeviceControl
import Soundwave.ToneProtocol
import Soundwave.ToneThreads
import Soundwave.SilenceDetector
import Soundwave.CaptureHub
import Soundwave.PairingUri
import Soundwave.CanonicalPairing
import Soundwave.FingerprintForms
import Soundwave.Throwing
import Soundwave.DeviceVolume
import Soundwave.DeviceWords
import Soundwave.HonestPhone
import Soundwave.VolumeEchoes
import Soundwave.CalibrationThread
import Soundwave.CalibrationLog
import Soundwave.CalibrationRun
import Soundwave.CalibrationCleanup
import Soundwave.CalibrationController
import Soundwave.DesktopController
import Soundwave.ManualSessions
import Soundwave.VolumeRounds
import Soundwave.AttendedReceivers
import Soundwave.UndisturbedTicks
import Soundwave.GroupSettling
import Soundwave.PairingHost
import Soundwave.MeasuredLists
import Soundwave.NameInput
import Soundwave.BoundedChannels
import Soundwave.Handshake
import Soundwave.SenderLoop
import Soundwave.LiveStream
import Soundwave.CaptureFanout
import Soundwave.AudioServer
import Soundwave.AudioService
import Soundwave.ServiceUpdates
import Soundwave.ServiceProgress
import Soundwave.PlaybackWorker
import Soundwave.ServerSessions
import Soundwave.ServerIdentity
import Soundwave.ThrowingTriples
import Soundwave.CalibrationOrder
import Soundwave.DeviceRequests
import Soundwave.RequestProgress
