import ShellyMultiplexer.Foundation.Sums
import ShellyMultiplexer.Foundation.Table
import ShellyMultiplexer.Foundation.Clamp
import ShellyMultiplexer.Foundation.Fold
import ShellyMultiplexer.Foundation.Runs
import ShellyMultiplexer.Foundation.Checks
import ShellyMultiplexer.Foundation.WaterFill
import ShellyMultiplexer.Foundation.Writes
import ShellyMultiplexer.Foundation.Replies
import ShellyMultiplexer.Foundation.Portions
import ShellyMultiplexer.Foundation.Intervals
import ShellyMultiplexer.Foundation.Streaks
import ShellyMultiplexer.Foundation.Packing
import ShellyMultiplexer.Foundation.Watch
import ShellyMultiplexer.Foundation.Logs
import ShellyMultiplexer.Foundation.WaterLevel
import ShellyMultiplexer.Foundation.Adjacent
import ShellyMultiplexer.Foundation.Likeness
import ShellyMultiplexer.Foundation.Latest
import ShellyMultiplexer.Foundation.Smoothing
import ShellyMultiplexer.Model.Numeric
import ShellyMultiplexer.Model.F64
import ShellyMultiplexer.Model.Json
import ShellyMultiplexer.Model.Config
import ShellyMultiplexer.Model.Setpoint
import ShellyMultiplexer.Model.Validate
import ShellyMultiplexer.Model.State
import ShellyMultiplexer.Model.Topology
import ShellyMultiplexer.Dispatcher.Bounds
import ShellyMultiplexer.Dispatcher.Mute
import ShellyMultiplexer.Dispatcher.Distribution
import ShellyMultiplexer.Dispatcher.Targets
import ShellyMultiplexer.Dispatcher.Shares
import ShellyMultiplexer.Dispatcher.Consolidation
import ShellyMultiplexer.Dispatcher.Shaping
import ShellyMultiplexer.Dispatcher.Unbound
import ShellyMultiplexer.Dispatcher.Removal
import ShellyMultiplexer.Dispatcher.StepModbus
import ShellyMultiplexer.Dispatcher.Simulate
import ShellyMultiplexer.Dispatcher.Deltas
import ShellyMultiplexer.Dispatcher.StepPulse
import ShellyMultiplexer.Dispatcher.NanTapers
import ShellyMultiplexer.Dispatcher.Interference
import ShellyMultiplexer.Dispatcher.Safety
import ShellyMultiplexer.Dispatcher.NightCutoff
import ShellyMultiplexer.Dispatcher.Tick
import ShellyMultiplexer.Dispatcher.Relays
import ShellyMultiplexer.Dispatcher.Loop
import ShellyMultiplexer.Plug.Poller
import ShellyMultiplexer.Dispatcher.Plugs
import ShellyMultiplexer.VirtualShelly.Poll
import ShellyMultiplexer.Dispatcher.PulseLoop
import ShellyMultiplexer.Modbus.Writer
import ShellyMultiplexer.Modbus.Wire
import ShellyMultiplexer.Modbus.Server
import ShellyMultiplexer.HttpAdmin.Update
import ShellyMultiplexer.HttpAdmin.Requests
import ShellyMultiplexer.HttpAdmin.Startup
import ShellyMultiplexer.Model.Rpc
import ShellyMultiplexer.RealShelly.Poller
import ShellyMultiplexer.RealShelly.Energy
import ShellyMultiplexer.VirtualShelly.Server
import ShellyMultiplexer.Soc.Sources
import ShellyMultiplexer.Soc.Tasks
import ShellyMultiplexer.Modbus.Registers
import ShellyMultiplexer.Modbus.Decode
import ShellyMultiplexer.Modbus.Packing
import ShellyMultiplexer.Modbus.Refresh
import ShellyMultiplexer.Modbus.Readings
import ShellyMultiplexer.Modbus.EventLoop
import ShellyMultiplexer.Modbus.Timers
import ShellyMultiplexer.Dispatcher.Sends
import ShellyMultiplexer.Fleet.System
import ShellyMultiplexer.Guarantees.Quantisation
import ShellyMultiplexer.Guarantees.CircuitCap
import ShellyMultiplexer.Guarantees.PowerWindow
import ShellyMultiplexer.Guarantees.PulseCap
import ShellyMultiplexer.Guarantees.SmallTotals
import ShellyMultiplexer.Guarantees.PlugFeedback
import ShellyMultiplexer.Guarantees.Redistribution
import ShellyMultiplexer.Guarantees.TwoLoops
import ShellyMultiplexer.Guarantees.MapOrder
import ShellyMultiplexer.Guarantees.OneDirection
import ShellyMultiplexer.Guarantees.TurnedCommands
import ShellyMultiplexer.Guarantees.CommandedSum
import ShellyMultiplexer.Guarantees.ClampCalls
import ShellyMultiplexer.Guarantees.Uncommandable
import ShellyMultiplexer.Guarantees.GridTarget
import ShellyMultiplexer.Guarantees.Convergence
import ShellyMultiplexer.Guarantees.StaleMute
import ShellyMultiplexer.Guarantees.Overload
import ShellyMultiplexer.Guarantees.IdleCommands
import ShellyMultiplexer.Guarantees.CutMarks
import ShellyMultiplexer.Guarantees.SoftRemediation
import ShellyMultiplexer.Guarantees.RelayCuts
import ShellyMultiplexer.Guarantees.SecondTrip
import ShellyMultiplexer.Guarantees.FailedTrip
import ShellyMultiplexer.Guarantees.SkippedWrites
import ShellyMultiplexer.Guarantees.OppositePower
import ShellyMultiplexer.Guarantees.StalePower
import ShellyMultiplexer.Guarantees.OrphanedSetpoints
import ShellyMultiplexer.Guarantees.WholePulses
import ShellyMultiplexer.Guarantees.MutedPulses
import ShellyMultiplexer.Guarantees.Thresholds
import ShellyMultiplexer.Guarantees.Compensation
import ShellyMultiplexer.Guarantees.Routing
import ShellyMultiplexer.Guarantees.VirtualReads
import ShellyMultiplexer.Guarantees.TornWords
import ShellyMultiplexer.Guarantees.PackedRegisters
import ShellyMultiplexer.Guarantees.SameReadings
import ShellyMultiplexer.Guarantees.SilenceWindow
import ShellyMultiplexer.Guarantees.Daylight
import ShellyMultiplexer.Guarantees.LiveParameters
import ShellyMultiplexer.Guarantees.SectionUpdates
import ShellyMultiplexer.Guarantees.MeasuredGrid
import ShellyMultiplexer.Guarantees.SocPercent
import ShellyMultiplexer.Guarantees.GateTimeout
import ShellyMultiplexer.Guarantees.RefusalVerdicts
import ShellyMultiplexer.Guarantees.DeliveredSamples
import ShellyMultiplexer.Guarantees.TaskRefinement
import ShellyMultiplexer.Guarantees.TimerOrder
import ShellyMultiplexer.Guarantees.ServedNext
import ShellyMultiplexer.Guarantees.PowerOrigin
import ShellyMultiplexer.Guarantees.QuietFleet
import ShellyMultiplexer.Guarantees.ChannelsHeld
import ShellyMultiplexer.Guarantees.FairShares
import ShellyMultiplexer.Guarantees.EnergyBalance
import ShellyMultiplexer.Guarantees.MeterReadBack
import ShellyMultiplexer.Guarantees.TripInTime
import ShellyMultiplexer.Guarantees.MapOrderRuns
import ShellyMultiplexer.Guarantees.PulseOrigin
import ShellyMultiplexer.Guarantees.ControlHeld
import ShellyMultiplexer.Guarantees.GatewayReads
import ShellyMultiplexer.Guarantees.Restarts
import ShellyMultiplexer.Guarantees.PutBack
import ShellyMultiplexer.Guarantees.OverheadLoop
import ShellyMultiplexer.Guarantees.CapAtRest
import ShellyMultiplexer.Guarantees.OneSource
