import XBotFirmware.Library.Run
import XBotFirmware.Library.WrappingClock
import XBotFirmware.Library.WrappingCounter
import XBotFirmware.Library.Deadlines
import XBotFirmware.Library.DeltaList
import XBotFirmware.Library.Flags
import XBotFirmware.Library.Chain
import XBotFirmware.Library.Semaphore
import XBotFirmware.Library.Mailbox
import XBotFirmware.Library.Ring
import XBotFirmware.Library.Overlay
import XBotFirmware.Library.Fields
import XBotFirmware.Library.Refinement
import XBotFirmware.Library.Bursts
import XBotFirmware.Library.LockOrder
import XBotFirmware.Platform.Time
import XBotFirmware.Platform.VirtualTimers
import XBotFirmware.Platform.Events
import XBotFirmware.Platform.CString
import XBotFirmware.Service.ServiceExt
import XBotFirmware.Service.Queue
import XBotFirmware.Platform.Mailbox
import XBotFirmware.Platform.Mutex
import XBotFirmware.Service.Delivery
import XBotFirmware.Emergency.Reason
import XBotFirmware.Json.Stream
import XBotFirmware.Json.Document
import XBotFirmware.Json.Acceptance
import XBotFirmware.Json.ErrorLog
import XBotFirmware.Inputs.Driver
import XBotFirmware.Inputs.Service
import XBotFirmware.Inputs.Config
import XBotFirmware.Inputs.Invariant
import XBotFirmware.Inputs.Update
import XBotFirmware.Inputs.LiftCount
import XBotFirmware.Inputs.Reasons
import XBotFirmware.Inputs.Declared
import XBotFirmware.Inputs.DriverLists
import XBotFirmware.Inputs.ActiveMask
import XBotFirmware.Inputs.Events
import XBotFirmware.Inputs.GpioLines
import XBotFirmware.Inputs.Grammar
import XBotFirmware.Inputs.Attributes
import XBotFirmware.Inputs.Documents
import XBotFirmware.Inputs.GpioThread
import XBotFirmware.Inputs.GpioEdges
import XBotFirmware.Emergency.Service
import XBotFirmware.Emergency.BlockTime
import XBotFirmware.Emergency.World
import XBotFirmware.Emergency.Messages
import XBotFirmware.Emergency.Word
import XBotFirmware.Emergency.Watchdog
import XBotFirmware.Emergency.HeldInput
import XBotFirmware.Emergency.StaleCheck
import XBotFirmware.DiffDrive.Motor
import XBotFirmware.DiffDrive.Service
import XBotFirmware.DiffDrive.Motion
import XBotFirmware.DiffDrive.Watchdog
import XBotFirmware.DiffDrive.Schedule
import XBotFirmware.DiffDrive.Wheels
import XBotFirmware.DiffDrive.Odometry
import XBotFirmware.DiffDrive.Kinematics
import XBotFirmware.DiffDrive.Divisor
import XBotFirmware.System.Threads
import XBotFirmware.System.EmergencyStop
import XBotFirmware.System.PublishedStatus
import XBotFirmware.System.MotorOutput
import XBotFirmware.System.Locking
import XBotFirmware.System.Timers
import XBotFirmware.Packets.Pool
import XBotFirmware.Packets.Io
import XBotFirmware.Packets.Append
import XBotFirmware.Flash.Chip
import XBotFirmware.Flash.Device
import XBotFirmware.Flash.BlockDevice
import XBotFirmware.Power.Charger
import XBotFirmware.Power.Service
import XBotFirmware.Power.CutOff
import XBotFirmware.Power.Transfers
import XBotFirmware.Debug.TcpInterface
import XBotFirmware.Debug.Session
import XBotFirmware.Debug.UdpInterface
import XBotFirmware.Board.Lines
import XBotFirmware.Eeprom.CarrierBoard
import XBotFirmware.System.Boot
import XBotFirmware.System.Discovery
import XBotFirmware.Api.Refresh
import XBotFirmware.Api.MgJson
import XBotFirmware.Api.MgJsonBounds
import XBotFirmware.Api.MgJsonText
import XBotFirmware.Api.MgJsonScan
import XBotFirmware.Api.MgJsonLookup
import XBotFirmware.Api.Handlers
import XBotFirmware.Api.Reply
import XBotFirmware.Api.Routing
import XBotFirmware.Api.Settings
import XBotFirmware.Api.StatePage
