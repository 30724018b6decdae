import Jordan.Bluetooth.BdAddr
import Jordan.Bluetooth.Bluedroid
import Jordan.Bluetooth.RefFile
import Jordan.Cpufreq.BoostedDwell
import Jordan.Cpufreq.BoostedFreq
import Jordan.Cpufreq.BoostedGovernor
import Jordan.Cpufreq.BoostedIdeal
import Jordan.Cpufreq.BoostedIndependence
import Jordan.Cpufreq.BoostedInfo
import Jordan.Cpufreq.BoostedLifecycle
import Jordan.Cpufreq.BoostedQuiet
import Jordan.Cpufreq.BoostedRamp
import Jordan.Cpufreq.BoostedRequests
import Jordan.Cpufreq.BoostedTarget
import Jordan.Cpufreq.BoostedWakeful
import Jordan.Cpufreq.Conservative
import Jordan.Cpufreq.ConservativeDownFactor
import Jordan.Cpufreq.ConservativeEffects
import Jordan.Cpufreq.ConservativeLifecycle
import Jordan.Cpufreq.ConservativeLoad
import Jordan.Cpufreq.ConservativeRamp
import Jordan.Cpufreq.ConservativeTracking
import Jordan.Cpufreq.ConservativeTuners
import Jordan.Cpufreq.CpuLoad
import Jordan.Cpufreq.CpufreqStats
import Jordan.Cpufreq.FindAddrs
import Jordan.Cpufreq.Interactive
import Jordan.Cpufreq.InteractiveHandoff
import Jordan.Cpufreq.InteractiveLifecycle
import Jordan.Cpufreq.Overclock
import Jordan.Cpufreq.OverclockLimits
import Jordan.Cpufreq.OverclockTables
import Jordan.Cpufreq.Smartass
import Jordan.Cpufreq.SmartassGovernor
import Jordan.Cpufreq.SmartassHandoff
import Jordan.Cpufreq.SmartassLifecycle
import Jordan.Cpufreq.SmartassRamp
import Jordan.Cpufreq.SmartassSpeeds
import Jordan.DefyParts.BasebandSelection
import Jordan.Hook.Backlight
import Jordan.Hook.CpcapBright
import Jordan.Hook.HookInfo
import Jordan.Iosched.SioDeadlines
import Jordan.Iosched.SioIosched
import Jordan.Iosched.SioNeighbours
import Jordan.Iosched.SioStarvation
import Jordan.Libcamera.CameraParameters
import Jordan.Libcamera.ExposureCompensation
import Jordan.Libcamera.GpsLatitudeRef
import Jordan.Libcamera.JordanCameraWrapper
import Jordan.Libcamera.TorchThread
import Jordan.Liblights.ButtonLight
import Jordan.Liblights.LedArbitration
import Jordan.Library.ArmCode
import Jordan.Library.BitMask
import Jordan.Library.Execution
import Jordan.Library.FixedPoint
import Jordan.Library.Handoff
import Jordan.Library.HexText
import Jordan.Library.Neighbours
import Jordan.Library.NodeLists
import Jordan.Library.Pieces
import Jordan.Library.Pointwise
import Jordan.Library.Puts
import Jordan.Library.Retry
import Jordan.Library.SharedHook
import Jordan.Library.Slots
import Jordan.Library.Transducer
import Jordan.Library.Walk
import Jordan.Library.Words
import Jordan.Logcap.ProcMap
import Jordan.Logcap.RegStore
import Jordan.Machine
import Jordan.Multitouch.DefyMultitouch
import Jordan.Proximity.IslProximity
import Jordan.Proximity.RegisterReads
import Jordan.Sensors.Blocking
import Jordan.Sensors.Delivery
import Jordan.Sensors.EnableHistories
import Jordan.Sensors.EventQueue
import Jordan.Sensors.Hal
import Jordan.Sensors.InputEvent
import Jordan.Sensors.InputEventReader
import Jordan.Sensors.PollLoop
import Jordan.Sensors.SamplingDelay
import Jordan.Sensors.SensorAK8973
import Jordan.Sensors.SensorBase
import Jordan.Sensors.SensorEnable
import Jordan.Sensors.SharedDevice
import Jordan.Sensors.Sleeping
import Jordan.Sensors.SyncSensor
