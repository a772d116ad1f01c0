import Lockstep.World.Orders
/-!
# Pieces and flags of units

What scripts, and those who play, do to a single unit: show and move its pieces, and switch it on
and off.
-/

namespace Lockstep.World

/-- Changes the piece of a unit with a name; the change may overflow. -/
def updatePiece (id : UnitId) (name : String) (f : Piece → Except Overflow Piece) :
    Action Unit := do
  let u ← Action.require ((← get).unit id)
  match u.pieceIndex? name with
  | none => Action.refuse (.unknownPiece id name)
  | some i =>
    match u.pieces[i]? with
    | none => Action.refuse (.unknownPiece id name)
    | some p =>
      let p ← Action.checked (f p)
      modify (·.modifyUnit id fun u => u.setPiece i p)

/-- The piece of a unit with a name. -/
def piece (w : World) (id : UnitId) (name : String) : Except Refusal Piece :=
  match w.unit id with
  | .error cause => .error cause
  | .ok u =>
    match u.piece? name with
    | some p => .ok p
    | none => .error (.unknownPiece id name)

/-- Shows or hides a piece. -/
def setPieceVisible (id : UnitId) (name : String) (value : Bool) : Action Unit :=
  updatePiece id name fun p => .ok { p with visible := value }

/-- Lights a piece or not. -/
def setPieceShaded (id : UnitId) (name : String) (value : Bool) : Action Unit :=
  updatePiece id name fun p => .ok { p with shaded := value }

/-- Begins a move of a piece. -/
def movePiece (id : UnitId) (name : String) (axis : Axis) (target speed : Scalar) : Action Unit :=
  updatePiece id name fun p => .ok (p.moveTo axis target speed)

/-- Moves a piece at once. -/
def movePieceNow (id : UnitId) (name : String) (axis : Axis) (target : Scalar) : Action Unit :=
  updatePiece id name fun p => .ok (p.moveNow axis target)

/-- Begins a turn of a piece. -/
def turnPiece (id : UnitId) (name : String) (axis : Axis) (target : Angle) (speed : Int) :
    Action Unit :=
  updatePiece id name fun p => .ok (p.turnTo axis target speed)

/-- Turns a piece at once. -/
def turnPieceNow (id : UnitId) (name : String) (axis : Axis) (target : Angle) : Action Unit :=
  updatePiece id name fun p => .ok (p.turnNow axis target)

/-- Begins a spin of a piece. -/
def spinPiece (id : UnitId) (name : String) (axis : Axis) (targetSpeed acceleration : Int) :
    Action Unit :=
  updatePiece id name fun p => p.spin axis targetSpeed acceleration

/-- Lets the spin of a piece run down. -/
def stopSpinPiece (id : UnitId) (name : String) (axis : Axis) (deceleration : Int) :
    Action Unit :=
  updatePiece id name fun p => p.stopSpin axis deceleration

/-- Whether a piece moves along an axis. -/
def isPieceMoving (w : World) (id : UnitId) (name : String) (axis : Axis) :
    Except Refusal Bool :=
  (w.piece id name).map fun p => p.isMoving axis

/-- Whether a piece turns about an axis and will stop by itself. -/
def isPieceTurning (w : World) (id : UnitId) (name : String) (axis : Axis) :
    Except Refusal Bool :=
  (w.piece id name).map fun p => p.isTurning axis

/-- The place of a piece in the world. -/
def piecePosition (w : World) (id : UnitId) (name : String) : Except Refusal Vector3 :=
  match w.unit id with
  | .error cause => .error cause
  | .ok u =>
    match (u.pieceIndex? name).bind u.pieceWorldPosition? with
    | some v => .ok v
    | none => .error (.unknownPiece id name)

/-- Activates or deactivates a unit. -/
def setActivation (id : UnitId) (value : Bool) : Action Unit := do
  updateUnit id fun u => { u with activated := value }
  modify (·.tell (if value then .activated id else .deactivated id))

/-- Lets a unit enter or leave its build stance. -/
def setBuildStance (id : UnitId) (value : Bool) : Action Unit :=
  updateUnit id fun u => { u with inBuildStance := value }

/-- Opens or closes the yard of a unit, unless someone is in the way. -/
def setYardOpen (id : UnitId) (value : Bool) : Action Unit := do
  let _ ← trySetYardOpen id value

/-- Tells units to leave the footprint of a unit, or does nothing. -/
def setBuggerOff (id : UnitId) (value : Bool) : Action Unit :=
  if value then emitBuggerOff id else return ()

/-- Kills a unit without further ado; it is taken off the map at the end of the next tick. -/
def quietlyKill (id : UnitId) : Action Unit :=
  updateUnit id fun u => { u with life := .dead }

end Lockstep.World
