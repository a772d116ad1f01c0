import Lockstep.Axis
import Lockstep.Collection.NameTable
import Lockstep.Collection.SortedTable
import Lockstep.Fingerprint.Basic
import Lockstep.Fingerprint.Log
import Lockstep.Fixed.Angle
import Lockstep.Fixed.Decimal
import Lockstep.Fixed.Root
import Lockstep.Fixed.Rotation
import Lockstep.Fixed.Scalar
import Lockstep.Fixed.Vector
import Lockstep.Halt
import Lockstep.Identifier
import Lockstep.Overflow
import Lockstep.Proofs.Fingerprint.Divergence
import Lockstep.Proofs.Fingerprint.Sums
import Lockstep.Proofs.Fixed.ArcTangents
import Lockstep.Proofs.Fixed.Checked
import Lockstep.Proofs.Fixed.Directions
import Lockstep.Proofs.Fixed.Roots
import Lockstep.Proofs.Fixed.Wrapping
import Lockstep.Proofs.InStep
import Lockstep.Proofs.Piece.Arrival
import Lockstep.Proofs.Piece.Hierarchy
import Lockstep.Proofs.Piece.Pace
import Lockstep.Proofs.Piece.Slots
import Lockstep.Proofs.Piece.Spinning
import Lockstep.Proofs.Piece.Stopped
import Lockstep.Proofs.Random.Uniform
import Lockstep.Proofs.Respects
import Lockstep.Proofs.Script.Abreast
import Lockstep.Proofs.Script.Assembled
import Lockstep.Proofs.Script.CallStack
import Lockstep.Proofs.Script.Callers
import Lockstep.Proofs.Script.Chart
import Lockstep.Proofs.Script.Fault
import Lockstep.Proofs.Script.Frame
import Lockstep.Proofs.Script.Frames
import Lockstep.Proofs.Script.Histories
import Lockstep.Proofs.Script.Layout
import Lockstep.Proofs.Script.Places
import Lockstep.Proofs.Script.Readings
import Lockstep.Proofs.Script.Requests
import Lockstep.Proofs.Script.Routine
import Lockstep.Proofs.Script.Signals
import Lockstep.Proofs.Script.Spelling
import Lockstep.Proofs.Script.Steadfast
import Lockstep.Proofs.Script.Threads
import Lockstep.Proofs.Script.Underflow
import Lockstep.Proofs.Space.Cells
import Lockstep.Proofs.Space.Lookups
import Lockstep.Proofs.Space.Offsets
import Lockstep.Proofs.Space.Overlay
import Lockstep.Proofs.Space.Regions
import Lockstep.Proofs.Space.YardText
import Lockstep.Proofs.Text.Upcase
import Lockstep.Proofs.World.Casualties
import Lockstep.Proofs.World.Claims
import Lockstep.Proofs.World.Clock
import Lockstep.Proofs.World.Corners
import Lockstep.Proofs.World.Course
import Lockstep.Proofs.World.Draining
import Lockstep.Proofs.World.Driver
import Lockstep.Proofs.World.Fault
import Lockstep.Proofs.World.Fingerprints
import Lockstep.Proofs.World.Flights
import Lockstep.Proofs.World.Ground
import Lockstep.Proofs.World.Heights
import Lockstep.Proofs.World.Integrity
import Lockstep.Proofs.World.Isolation
import Lockstep.Proofs.World.Ledger
import Lockstep.Proofs.World.Lifetimes
import Lockstep.Proofs.World.Lifting
import Lockstep.Proofs.World.Lineage
import Lockstep.Proofs.World.LinkedValues
import Lockstep.Proofs.World.Listed
import Lockstep.Proofs.World.Oblivious
import Lockstep.Proofs.World.Occupants
import Lockstep.Proofs.World.Passages
import Lockstep.Proofs.World.Pieces
import Lockstep.Proofs.World.Placement
import Lockstep.Proofs.World.Plan
import Lockstep.Proofs.World.Provision
import Lockstep.Proofs.World.Queue
import Lockstep.Proofs.World.Quiet
import Lockstep.Proofs.World.Reading
import Lockstep.Proofs.World.Refused
import Lockstep.Proofs.World.Resume
import Lockstep.Proofs.World.Run
import Lockstep.Proofs.World.Schedule
import Lockstep.Proofs.World.Scripted
import Lockstep.Proofs.World.Sessions
import Lockstep.Proofs.World.Signals
import Lockstep.Proofs.World.Stamps
import Lockstep.Proofs.World.Stream
import Lockstep.Proofs.World.Sturdy
import Lockstep.Proofs.World.Surroundings
import Lockstep.Proofs.World.Unhalted
import Lockstep.Proofs.World.Validated
import Lockstep.Proofs.World.Variables
import Lockstep.Proofs.World.Visits
import Lockstep.Proofs.World.Waking
import Lockstep.Proofs.World.Walls
import Lockstep.Random.Stream
import Lockstep.Random.Uniform
import Lockstep.Script.Assembly
import Lockstep.Script.Environment
import Lockstep.Script.Error
import Lockstep.Script.Host
import Lockstep.Script.LinkedValue
import Lockstep.Script.Machine
import Lockstep.Script.Opcode
import Lockstep.Script.Program
import Lockstep.Script.Recorder
import Lockstep.Script.Status
import Lockstep.Script.Thread
import Lockstep.Script.Units
import Lockstep.Space.Error
import Lockstep.Space.Grid
import Lockstep.Space.Occupancy
import Lockstep.Space.Overlay
import Lockstep.Space.Rect
import Lockstep.Space.YardMap
import Lockstep.Text.Blank
import Lockstep.Text.Invisible
import Lockstep.Text.Quoted
import Lockstep.Text.Upcase
import Lockstep.World.Combat
import Lockstep.World.Creation
import Lockstep.World.Definitions
import Lockstep.World.Economy
import Lockstep.World.Event
import Lockstep.World.Orders
import Lockstep.World.Piece
import Lockstep.World.Placement
import Lockstep.World.Player
import Lockstep.World.Projectile
import Lockstep.World.Refusal
import Lockstep.World.Resource
import Lockstep.World.Scene
import Lockstep.World.ScriptDriver
import Lockstep.World.ScriptHost
import Lockstep.World.Setup
import Lockstep.World.State
import Lockstep.World.Terrain
import Lockstep.World.Tick
import Lockstep.World.UnitState
