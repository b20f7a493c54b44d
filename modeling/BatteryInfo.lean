import BatteryInfo.Fifo.Ring
import BatteryInfo.Fifo.Pipeline
import BatteryInfo.Concurrent.Interleaving
import BatteryInfo.Concurrent.Locks
import BatteryInfo.Concurrent.Cancellation
import BatteryInfo.Sequence.Calls
import BatteryInfo.Sequence.Lifetimes
import BatteryInfo.Gpio.Lines
import BatteryInfo.Speaker.Device
import BatteryInfo.Speaker.Interface
import BatteryInfo.Speaker.Pins
import BatteryInfo.Speaker.Pitch
import BatteryInfo.Speaker.Shortcut
import BatteryInfo.Audio.Types
import BatteryInfo.Audio.MsgQueue
import BatteryInfo.Audio.QueueRuns
import BatteryInfo.Audio.Music
import BatteryInfo.Audio.Player
import BatteryInfo.Audio.Threads
import BatteryInfo.Audio.Calls
import BatteryInfo.Audio.Session
import BatteryInfo.Audio.Exclusion
import BatteryInfo.Audio.Mail
import BatteryInfo.Audio.Shutdown
import BatteryInfo.Audio.Course
import BatteryInfo.Audio.Serving
import BatteryInfo.Audio.Tracks
import BatteryInfo.Audio.Lifetime
import BatteryInfo.Audio.Lifecycle
import BatteryInfo.Audio.WholeCalls
import BatteryInfo.Battery.Gpio
import BatteryInfo.Battery.Lock
import BatteryInfo.Audio.Score
import BatteryInfo.Battery.Events
import BatteryInfo.Speaker.FailedWrites
import BatteryInfo.Speaker.Directory
import BatteryInfo.Decimal.FixedPoint
import BatteryInfo.Battery.Gauges
import BatteryInfo.Core.Monitors
import BatteryInfo.Core.Voltage
import BatteryInfo.Core.Temperature
import BatteryInfo.Bands.Sublevels
import BatteryInfo.Core.Severity
import BatteryInfo.Core.Brightness
import BatteryInfo.Battery.SamePins
import BatteryInfo.Battery.Threads
import BatteryInfo.Battery.LineUse
import BatteryInfo.Core.LabelUpdates
import BatteryInfo.Core.Drawing
import BatteryInfo.Core.CleanUp
import BatteryInfo.Core.SignalLabels
import BatteryInfo.Concurrent.Objects
import BatteryInfo.Concurrent.TwoPhase
import BatteryInfo.Speaker.Threads
import BatteryInfo.Audio.Sound
import BatteryInfo.Binary64.Division
import BatteryInfo.Speaker.Period
import BatteryInfo.Audio.Notes
import BatteryInfo.Speaker.Volume
import BatteryInfo.Audio.AudioPlayer
import BatteryInfo.Objects.Forest
import BatteryInfo.Gui.Screen
import BatteryInfo.Gui.Table
import BatteryInfo.Gui.Threads
import BatteryInfo.Gui.Sections
import BatteryInfo.Raster.Painting
import BatteryInfo.Gui.QuadGrid
import BatteryInfo.Core.Panel
import BatteryInfo.Core.Accuracy
import BatteryInfo.Core.ScreenUse
