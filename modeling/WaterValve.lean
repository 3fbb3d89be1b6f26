import WaterValve.Lib.CText
import WaterValve.Lib.Loop
import WaterValve.Lib.Sweep
import WaterValve.System
import WaterValve.Display
import WaterValve.WaterSafety
import WaterValve.Frames
import WaterValve.Uplink
import WaterValve.Senders
import WaterValve.Leftovers
import WaterValve.Roles
import WaterValve.Reload
import WaterValve.PowerLoss
import WaterValve.OfflineDetection
import WaterValve.OfflineAlarm
import WaterValve.Interlock
import WaterValve.AlarmOwner
import WaterValve.LearnAlarm
import WaterValve.RfEncode
import WaterValve.SelfTestSafety
import WaterValve.GatewayFrames
import WaterValve.ReceiveBounds
import WaterValve.RemoteClose
import WaterValve.ProbeHistory
import WaterValve.LoadBounds
import WaterValve.GatewaySync
import WaterValve.Sscanf
import WaterValve.KeyEvents
import WaterValve.Buttons
import WaterValve.Transmit
import WaterValve.SelfTestVerdict
import WaterValve.FreezeAlarm
import WaterValve.Startup
import WaterValve.Deadlines
import WaterValve.MessageQueue
import WaterValve.EasyFlash.Map
