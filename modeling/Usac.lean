import Usac.Library.Machine
import Usac.Firmware.CaptureSafety
import Usac.Firmware.ScheduleBinding
import Usac.Firmware.ReplayFidelity
import Usac.Firmware.Response
import Usac.Firmware.UsbInput
import Usac.Host.Frame
import Usac.Host.CaptureData
import Usac.Host.BridgeMessages
import Usac.Host.Messages
import Usac.Host.BridgeDeviceClient
import Usac.Host.CoreServer
import Usac.Bridge.Spool
import Usac.Bridge.Committability
import Usac.Host.ConfigV2
import Usac.Host.ApplyConfig
import Usac.Host.OptimisticConcurrency
import Usac.Host.CaptureStore
import Usac.Host.Acquisition
import Usac.Host.DeliveryOwnership
import Usac.Host.ReplayOwnership
import Usac.Link.Codec
import Usac.Link.Reconfiguration
import Usac.Link.Recoverability
import Usac.Host.StoreEffect
import Usac.Host.StoreRun
import Usac.Host.DecisionLog
import Usac.Host.DecisionHistory
import Usac.Host.Redelivery
import Usac.Host.SessionAccounting
import Usac.Host.SaveLast
import Usac.Firmware.ClockLatch
import Usac.Firmware.LeaseSafety
import Usac.Firmware.Retransmission
import Usac.Firmware.SameSession
import Usac.Firmware.SessionIsolation
import Usac.Bridge.Session
import Usac.Bridge.CommandOrder
import Usac.Bridge.SessionStep
import Usac.Bridge.DeliveryExclusivity
import Usac.Firmware.CaptureSegments
import Usac.Firmware.EventCapture
import Usac.Host.MessageLengths
import Usac.Link.CaptureFormat
import Usac.Firmware.Answer
import Usac.Link.Understanding
import Usac.Host.DeviceCalls
import Usac.Host.PendingDelivery
import Usac.Host.Executor
import Usac.Host.ExecutorService
import Usac.Host.SessionBinding
import Usac.Library.LockProgram
import Usac.Host.CoreLocks
import Usac.Firmware.Configurator
import Usac.Firmware.FailClosed
import Usac.Firmware.SafeStandby
import Usac.Host.AppliedBelief
import Usac.Host.PlanRestoration
import Usac.Host.StreamParser
import Usac.Host.StreamScan
import Usac.Host.FrameFormat
import Usac.Host.StreamAccounting
import Usac.Host.MessageCodecs
import Usac.Host.CompositeFormat
import Usac.Host.MessageFormat
import Usac.Host.CaptureDataFormat
import Usac.Host.MessageTable
import Usac.Host.LengthAgreement
import Usac.Firmware.FrameReception
import Usac.Host.ClientRequests
import Usac.Link.RequestReception
import Usac.Host.SimulatedDevice
import Usac.Link.ScheduleAgreement
import Usac.Link.SimulatorPair
import Usac.Link.SimulatorReport
import Usac.Link.SimulatorCommands
import Usac.Link.SimulatorRefinement
import Usac.Firmware.Refusal
import Usac.Firmware.CaptureTx
import Usac.Firmware.MainLoop
import Usac.Firmware.ScheduleArithmetic
import Usac.Host.ParameterReadback
import Usac.Host.AppliedReadback
import Usac.Firmware.BurstPlan
import Usac.Firmware.ParserBounds
import Usac.Link.BurstFit
import Usac.Firmware.Resynchronization
import Usac.Host.SessionThreads
import Usac.Host.SessionVerdict
import Usac.Firmware.SegmentedCrc
import Usac.Link.Digests
import Usac.Host.ContextRetention
import Usac.Bridge.SpoolFrame
import Usac.Host.ForgottenDecision
import Usac.Host.CapturePages
import Usac.Host.SafetyGates
import Usac.Bridge.HandoffSafety
import Usac.Bridge.HandoffRecords
import Usac.Firmware.AcquisitionRuns
import Usac.Link.LeasePunctuality
import Usac.Host.ArchiveFidelity
import Usac.Host.CaptureRecords
import Usac.Host.GroupExport
