import Logid.Actions.AxisEdits
import Logid.Actions.ChangeDPI
import Logid.Actions.ChangeHost
import Logid.Actions.CycleDPI
import Logid.Actions.Direction
import Logid.Actions.Entries
import Logid.Actions.GestureCycle
import Logid.Actions.GestureNames
import Logid.Actions.Moves
import Logid.Actions.Objects
import Logid.Actions.Presses
import Logid.Actions.Proofs.Axis
import Logid.Actions.Proofs.AxisEdits
import Logid.Actions.Proofs.ChangeDPI
import Logid.Actions.Proofs.ChangeHost
import Logid.Actions.Proofs.CycleDPI
import Logid.Actions.Proofs.Entries
import Logid.Actions.Proofs.GestureCycle
import Logid.Actions.Proofs.GestureNames
import Logid.Actions.Proofs.Interval
import Logid.Actions.Proofs.Objects
import Logid.Actions.Proofs.Presses
import Logid.Backend.Error
import Logid.Backend.EventHandlerList
import Logid.Backend.EventHandlerLock
import Logid.Backend.Hidpp.Device
import Logid.Backend.Hidpp.Proofs.Device
import Logid.Backend.Hidpp.Proofs.ReplyMatching
import Logid.Backend.Hidpp.Proofs.ReportFields
import Logid.Backend.Hidpp.Proofs.ResponseSlots
import Logid.Backend.Hidpp.Proofs.SlotLifecycle
import Logid.Backend.Hidpp.Report
import Logid.Backend.Hidpp.ReportFields
import Logid.Backend.Hidpp.ResponseSlots
import Logid.Backend.Hidpp10.Device
import Logid.Backend.Hidpp10.Discovery
import Logid.Backend.Hidpp10.Pairing
import Logid.Backend.Hidpp10.Proofs.BoltName
import Logid.Backend.Hidpp10.Proofs.Discovery
import Logid.Backend.Hidpp10.Proofs.Pairing
import Logid.Backend.Hidpp10.Proofs.Registers
import Logid.Backend.Hidpp10.ReceiverEvents
import Logid.Backend.Hidpp10.ReceiverMonitor
import Logid.Backend.Hidpp10.Registers
import Logid.Backend.Hidpp20.AdjustableDPI
import Logid.Backend.Hidpp20.ChangeHost
import Logid.Backend.Hidpp20.ControlReporting
import Logid.Backend.Hidpp20.Device
import Logid.Backend.Hidpp20.DeviceName
import Logid.Backend.Hidpp20.FeatureLookup
import Logid.Backend.Hidpp20.Features
import Logid.Backend.Hidpp20.Proofs.AdjustableDPI
import Logid.Backend.Hidpp20.Proofs.ControlReporting
import Logid.Backend.Hidpp20.Proofs.DeviceName
import Logid.Backend.Hidpp20.Proofs.ErrorReports
import Logid.Backend.Hidpp20.Proofs.FeatureLookup
import Logid.Backend.Hidpp20.ReprogControls
import Logid.Backend.Proofs.EventHandlerList
import Logid.Backend.Proofs.EventHandlerLock
import Logid.Backend.Proofs.Requests
import Logid.Backend.Raw.DeviceMonitor
import Logid.Backend.Raw.IOMonitor
import Logid.Backend.Raw.Proofs.IOMonitor
import Logid.Backend.Raw.RawDevice
import Logid.ButtonReports
import Logid.Config.Caseless
import Logid.Config.Layout
import Logid.Config.Map
import Logid.Config.Proofs.Codec
import Logid.Config.Proofs.Layout
import Logid.Config.Proofs.Load
import Logid.Config.Proofs.RoundTrip
import Logid.Config.Schema
import Logid.Config.Setting
import Logid.Config.Types
import Logid.Configuration
import Logid.DeviceEvents
import Logid.DeviceMake
import Logid.DeviceManager
import Logid.Diversion
import Logid.Features.Adopt
import Logid.Features.ClosestDPI
import Logid.Features.Configure
import Logid.Features.DPIConfig
import Logid.Features.HiresScroll
import Logid.Features.Methods
import Logid.Features.Presets
import Logid.Features.Proofs.ClosestDPI
import Logid.Features.Proofs.DPIConfig
import Logid.Features.Proofs.EditDPI
import Logid.Features.Proofs.Methods
import Logid.Features.Proofs.Scroll
import Logid.Features.Proofs.SmartShift
import Logid.Features.Proofs.Switching
import Logid.Features.Proofs.ThumbWheel
import Logid.Features.Proofs.WheelMode
import Logid.Features.Proofs.Wheels
import Logid.Features.RemapButton
import Logid.Features.Scroll
import Logid.Features.Settings
import Logid.Features.SmartShift
import Logid.Features.ThumbWheel
import Logid.Features.WheelMode
import Logid.Features.Wheels
import Logid.Gui.ButtonsModel
import Logid.Gui.ConfigState
import Logid.Gui.DaemonConnection
import Logid.Gui.DeviceModel
import Logid.Gui.GestureDispatch
import Logid.Gui.GestureModel
import Logid.Gui.PresetList
import Logid.Gui.ProfilesModel
import Logid.Gui.Proofs.Buttons
import Logid.Gui.Proofs.ConfigState
import Logid.Gui.Proofs.DeviceRows
import Logid.Gui.Proofs.GestureDispatch
import Logid.Gui.Proofs.GestureModes
import Logid.Gui.Proofs.GestureOrder
import Logid.Gui.Proofs.Gestures
import Logid.Gui.Proofs.PresetList
import Logid.Gui.Proofs.Remove
import Logid.Gui.Proofs.Rename
import Logid.Gui.Proofs.RowSlots
import Logid.Gui.Proofs.ScreenState
import Logid.Gui.RowSlots
import Logid.HotPlug
import Logid.Input
import Logid.Ipcgull.Dispatch
import Logid.Ipcgull.Node
import Logid.Ipcgull.Proofs.Dispatch
import Logid.Ipcgull.Proofs.Node
import Logid.Ipcgull.Proofs.References
import Logid.Ipcgull.Proofs.Registry
import Logid.Ipcgull.Proofs.Variant
import Logid.Ipcgull.Variant
import Logid.Locking.Device
import Logid.Locking.Features
import Logid.Locking.Proofs.LockDiscipline
import Logid.Misc.AdjacentFind
import Logid.Misc.AssocMap
import Logid.Misc.BigEndian
import Logid.Misc.Blocks
import Logid.Misc.Jobs
import Logid.Misc.LexLess
import Logid.Misc.ListCursor
import Logid.Misc.LockProgram
import Logid.Misc.Machine
import Logid.Misc.Mutex
import Logid.Misc.Nearest
import Logid.Misc.Override
import Logid.Misc.RunningTotal
import Logid.Misc.SortedInsert
import Logid.Misc.SortedMap
import Logid.Misc.Strokes
import Logid.Misc.Tokens
import Logid.Nicknames
import Logid.Profiles
import Logid.Proofs.ButtonReports
import Logid.Proofs.DeviceEntries
import Logid.Proofs.DeviceEvents
import Logid.Proofs.Diversion
import Logid.Proofs.HeldKeys
import Logid.Proofs.HotPlug
import Logid.Proofs.Input
import Logid.Proofs.Nicknames
import Logid.Proofs.Profiles
import Logid.Proofs.SignalAgreement
import Logid.Proofs.SleepingDevices
import Logid.Receiver
import Logid.Util.Proofs.Task
import Logid.Util.Task
