import Magnetometer.EventQueue
import Magnetometer.Bench
import Magnetometer.SimulatedBus
import Magnetometer.Rig
import Magnetometer.Proofs.Operation
import Magnetometer.Proofs.Cue
import Magnetometer.Proofs.History
import Magnetometer.Proofs.Pass
import Magnetometer.Proofs.Protocol
import Magnetometer.Proofs.Deadline
import Magnetometer.Proofs.Plan
import Magnetometer.Proofs.Device
import Magnetometer.Proofs.Steady
import Magnetometer.Proofs.Mirror
import Magnetometer.Proofs.Errand
import Magnetometer.Proofs.Fault
import Magnetometer.Proofs.Isolation
import Magnetometer.Proofs.Inquiry
import Magnetometer.Proofs.Restart
import Magnetometer.Proofs.Parallel
import Magnetometer.Proofs.Untimed
import Magnetometer.Proofs.Vertical
import Magnetometer.Proofs.Queue
import Magnetometer.Proofs.Delivery
import Magnetometer.Proofs.Storing
import Magnetometer.Proofs.Torn
import Magnetometer.Proofs.Encoding
import Magnetometer.Proofs.Tick
import Magnetometer.Proofs.Table
import Magnetometer.Proofs.Zeroing
import Magnetometer.Proofs.Numeral
import Magnetometer.Proofs.Transcript
import Magnetometer.Proofs.Dump
import Magnetometer.Proofs.Startup
import Magnetometer.Proofs.Retention
import Magnetometer.Proofs.Repetition
import Magnetometer.Proofs.Bearing
import Magnetometer.Proofs.Angle
import Magnetometer.Proofs.Sweep
import Magnetometer.Proofs.Sector
import Magnetometer.Proofs.Symmetry
import Magnetometer.Proofs.WriteLog
import Magnetometer.Proofs.Transaction
import Magnetometer.Proofs.Burst
import Magnetometer.Proofs.BoundingBox
import Magnetometer.Proofs.Midpoint
