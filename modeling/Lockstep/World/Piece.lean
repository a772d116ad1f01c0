import Lockstep.Fixed.Vector
import Lockstep.Overflow
/-!
# Pieces of a model

A unit is drawn as a hierarchy of pieces, which its script moves along and turns about the three
axes.  On each axis at most one move and one turn is under way; they go on by one step in each tick.
Speeds are per tick.
-/

namespace Lockstep

/-- A move along an axis that is under way. -/
structure Move where
  /-- The offset at which it ends. -/
  target : Scalar
  /-- The distance in a tick. -/
  speed : Scalar
deriving DecidableEq, Inhabited

/-- A turn about an axis that is under way. -/
inductive Turn where
  /-- A turn to an angle, the shorter way around, by at most the given units in a tick. -/
  | toward (target : Angle) (speed : Int)
  /-- A spin whose speed goes up or down to the target speed by at most the acceleration in a tick;
  without acceleration at once. -/
  | spin (speed targetSpeed acceleration : Int)
  /-- A spin that runs down by at most the deceleration in a tick; without deceleration at once. -/
  | stopping (speed deceleration : Int)
deriving DecidableEq, Inhabited

namespace Turn

/-- The speed of a spin; a turn to an angle has none. -/
def spinSpeed : Turn → Int
  | toward _ _ => 0
  | spin speed _ _ => speed
  | stopping speed _ => speed

/-- Whether the turn will end by itself. -/
def ends : Turn → Bool
  | toward _ _ => true
  | spin _ _ _ => false
  | stopping _ _ => true

end Turn

/-- A number moved toward a target by at most a step; all the way if the step is not positive. -/
def approach (current target step : Int) : Int :=
  if step ≤ 0 then target
  else if current < target then min (current + step) target
  else max (current - step) target

/-- A piece of the model of a unit. -/
structure Piece where
  /-- The name that scripts use. -/
  name : String
  /-- The offset from the parent piece. -/
  origin : Vector3
  /-- The place of the parent piece in the list of pieces. -/
  parent : Option Nat
  /-- How far the script has moved the piece. -/
  displacement : Triple Scalar
  /-- How far the script has turned the piece. -/
  rotation : Triple Angle
  /-- Whether the piece is drawn. -/
  visible : Bool
  /-- Whether the piece is lit. -/
  shaded : Bool
  /-- The moves under way. -/
  moves : Triple (Option Move)
  /-- The turns under way. -/
  turns : Triple (Option Turn)
deriving DecidableEq, Inhabited

namespace Piece

/-- A piece at rest, drawn and lit. -/
def new (name : String) (origin : Vector3) (parent : Option Nat) : Piece :=
  ⟨name, origin, parent, .const 0, .const 0, true, true, .const none, .const none⟩

/-- Moves the piece to an offset at once; a move under way ends. -/
def moveNow (p : Piece) (axis : Axis) (target : Scalar) : Piece :=
  { p with displacement := p.displacement.set axis target, moves := p.moves.set axis none }

/-- Begins a move to an offset; without a positive speed the piece is moved at once. -/
def moveTo (p : Piece) (axis : Axis) (target speed : Scalar) : Piece :=
  if speed ≤ 0 then p.moveNow axis target
  else { p with moves := p.moves.set axis (some ⟨target, speed⟩) }

/-- Turns the piece to an angle at once; a turn under way ends. -/
def turnNow (p : Piece) (axis : Axis) (target : Angle) : Piece :=
  { p with rotation := p.rotation.set axis target, turns := p.turns.set axis none }

/-- Begins a turn to an angle; without a positive speed the piece is turned at once. -/
def turnTo (p : Piece) (axis : Axis) (target : Angle) (speed : Int) : Piece :=
  if speed ≤ 0 then p.turnNow axis target
  else { p with turns := p.turns.set axis (some (.toward target speed)) }

/-- The size of a rate, which has to fit a signed word. -/
def sizeOf (rate : Int) : Except Overflow Int := Overflow.signed .negate rate.natAbs

/-- Begins a spin, at the speed at which the piece is spinning already. -/
def spin (p : Piece) (axis : Axis) (targetSpeed acceleration : Int) : Except Overflow Piece :=
  (sizeOf acceleration).map fun acceleration =>
    let speed := ((p.turns.get axis).map Turn.spinSpeed).getD 0
    { p with turns := p.turns.set axis (some (.spin speed targetSpeed acceleration)) }

/-- Lets whatever turn is under way run down from its spin speed; without one nothing happens. -/
def stopSpin (p : Piece) (axis : Axis) (deceleration : Int) : Except Overflow Piece :=
  match p.turns.get axis with
  | none => .ok p
  | some turn =>
    (sizeOf deceleration).map fun deceleration =>
      { p with turns := p.turns.set axis (some (.stopping turn.spinSpeed deceleration)) }

/-- Whether a move along an axis is under way. -/
def isMoving (p : Piece) (axis : Axis) : Bool := (p.moves.get axis).isSome

/-- Whether a turn about an axis is under way that will end by itself. -/
def isTurning (p : Piece) (axis : Axis) : Bool := (p.turns.get axis).any Turn.ends

/-- One tick of the move along an axis. -/
def stepMove (p : Piece) (axis : Axis) : Piece :=
  match p.moves.get axis with
  | none => p
  | some move =>
    let current := p.displacement.get axis
    let remaining := move.target - current
    if remaining.abs ≤ move.speed then p.moveNow axis move.target
    else if 0 < remaining then
      { p with displacement := p.displacement.set axis (current + move.speed) }
    else { p with displacement := p.displacement.set axis (current - move.speed) }

/-- One tick of the turn about an axis. -/
def stepTurn (p : Piece) (axis : Axis) : Piece :=
  let current := p.rotation.get axis
  match p.turns.get axis with
  | none => p
  | some (.toward target speed) =>
    let remaining := (target - current).signed
    if remaining.natAbs ≤ speed then p.turnNow axis target
    else { p with rotation := p.rotation.set axis (current.offset (speed * remaining.sign)) }
  | some (.spin speed targetSpeed acceleration) =>
    let speed := approach speed targetSpeed acceleration
    { p with
      rotation := p.rotation.set axis (current.offset speed)
      turns := p.turns.set axis (some (.spin speed targetSpeed acceleration)) }
  | some (.stopping speed deceleration) =>
    let speed := approach speed 0 deceleration
    { p with
      rotation := p.rotation.set axis (current.offset speed)
      turns := p.turns.set axis (if speed = 0 then none else some (.stopping speed deceleration)) }

/-- One tick on one axis. -/
def stepAxis (p : Piece) (axis : Axis) : Piece := (p.stepMove axis).stepTurn axis

/-- One tick on all axes. -/
def step (p : Piece) : Piece := Axis.all.foldl stepAxis p

/-- A point of the piece as a point of its parent: turned about the third axis, then the first, then
the upright one, and then moved.  A turn by nothing changes nothing, not even by rounding. -/
def toParent (p : Piece) (v : Vector3) : Vector3 :=
  let v := if p.rotation.z = 0 then v else v.rotateZ p.rotation.z
  let v := if p.rotation.x = 0 then v else v.rotateX p.rotation.x
  let v := if p.rotation.y = 0 then v else v.rotateY p.rotation.y
  v + p.origin + p.displacement

end Piece

end Lockstep
