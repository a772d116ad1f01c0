import Lockstep.Space.Overlay
import Lockstep.World.Creation
/-!
# Places on the map

All decisions about who can stand where are made on one grid.  A mobile unit or a blocking feature
occupies each cell of its footprint; a building claims the cells of its footprint by its yard map,
which leaves some of them passable.  A footprint that is not free is no error: units and features
are then not put there.
-/

namespace Lockstep.World

/-! ### Footprints -/

/-- Half the length of a side of a footprint in whole units. -/
def halfSide (cells : Nat) : Except Overflow Int :=
  (Overflow.signed .multiply ((Int32.ofNat cells).toInt * Terrain.tile)).map (Int.tdiv · 2)

/-- An integer read as a signed word. -/
def asSigned (n : Int) : Int := (Int32.ofInt n).toInt

/-- The cells of a footprint around a place; they need not all be on the map. -/
def footprint (w : World) (position : Vector3) (width depth : Nat) : Except Overflow Rect := do
  let halfWidth ← halfSide width
  let halfDepth ← halfSide depth
  let topLeft : Vector3 :=
    ⟨position.x - .ofWhole halfWidth, position.y, position.z - .ofWhole halfDepth⟩
  let (x, y) := w.terrain.nearestCorner topLeft
  return ⟨asSigned x, asSigned y, width, depth⟩

/-- The footprint of a unit with a movement class at a place. -/
def classFootprint (w : World) (position : Vector3) (c : ClassChoice) : Except Failure Rect :=
  match w.definitions.movementClass c with
  | .error cause => .error (.refused cause)
  | .ok c => (w.footprint position c.width c.depth).mapError fun cause => .halt (.overflow cause)

/-- The footprint of a unit where it stands. -/
def unitFootprint (w : World) (id : UnitId) : Except Failure Rect :=
  match w.unit id with
  | .error cause => .error (.refused cause)
  | .ok u =>
    match w.definitions.unitType u.unitType with
    | .error cause => .error (.refused cause)
    | .ok t => w.classFootprint u.position t.movement

/-! ### What is in the way -/

/-- The cells that are not free with their columns and rows, row by row. -/
def occupiedCells (w : World) : List (Nat × Nat × Occupancy) :=
  w.occupancy.fullRegion.cells.filterMap fun (x, y) =>
    ((w.occupancy.at? x y).filter fun c => decide (c ≠ Occupancy.free)).map fun c => (x, y, c)

/-- Whether a cell of a region cannot be entered. -/
def isRegionBlocked (w : World) (r : Region) : Bool := w.occupancy.anyIn r Occupancy.blocks

/-- Whether a rectangle leaves the map or has a cell that cannot be entered. -/
def isBlocked (w : World) (r : Rect) : Bool :=
  match w.occupancy.region? r with
  | some region => w.isRegionBlocked region
  | none => true

/-- Whether a rectangle leaves the map or has a cell that cannot be entered, what belongs to one
unit left aside. -/
def isBlockedBut (w : World) (r : Rect) (id : UnitId) : Bool :=
  match w.occupancy.region? r with
  | some region => w.occupancy.anyIn region fun c => c.blocksBut id
  | none => true

/-- Whether a yard map in the given state would shut in someone who stands on it. -/
def isYardBlocked (w : World) (x y : UInt32) (yardMap : YardMap) (isOpen : Bool) :
    Except Overflow Bool :=
  w.occupancy.anyOverlay x y yardMap fun c cell => !cell.isPassable isOpen && c.occupant.isSome

/-- The four strips of cells around a rectangle.  The lower one lies as far down as the rectangle is
wide. -/
def surroundingStrips (r : Rect) : Except Overflow (List Rect) := do
  let x ← Overflow.signed .subtract (r.x - 1)
  let y ← Overflow.signed .subtract (r.y - 1)
  let length ← Overflow.unsigned .add (r.width + 2)
  let below ← Overflow.signed .add (r.y + asSigned r.width)
  let beyond ← Overflow.signed .add (r.x + asSigned r.width)
  return [⟨x, y, length, 1⟩, ⟨x, below, length, 1⟩, ⟨x, r.y, 1, r.height⟩,
    ⟨beyond, r.y, 1, r.height⟩]

/-- Whether something is in the way in the strips around a rectangle. -/
def isSurroundingBlocked (w : World) (r : Rect) : Except Overflow Bool :=
  (surroundingStrips r).map fun strips => strips.any w.isBlocked

/-- Whether a unit of a class could stand with its first cell at a column and row: nothing is in
the way and the ground carries it. -/
def canStandAt (w : World) (c : MovementClass) (x y : UInt32) : Bool :=
  let rect : Rect := ⟨x.toInt32.toInt, y.toInt32.toInt, c.width, c.depth⟩
  !w.isBlocked rect && w.terrain.isWalkable c rect

/-! ### Claims on cells -/

/-- Puts an occupant on each cell of a region. -/
def occupy (g : Grid Occupancy) (r : Region) (o : Occupant) : Grid Occupancy :=
  g.modifyIn r fun c => { c with occupant := some o }

/-- Takes an occupant off a cell, if it stands there. -/
def vacate (o : Occupant) (c : Occupancy) : Occupancy :=
  if c.occupant = some o then { c with occupant := none } else c

/-- Claims the cells below a yard map for a building. -/
def claim (g : Grid Occupancy) (r : Region) (yardMap : YardMap) (id : UnitId) (isOpen : Bool) :
    Except Overflow (Grid Occupancy) :=
  g.modifyOverlay (UInt32.ofNat r.x) (UInt32.ofNat r.y) yardMap fun c cell =>
    { c with claim := some ⟨id, cell.isPassable isOpen⟩ }

/-- Frees a cell of all that belongs to a unit. -/
def release (id : UnitId) (c : Occupancy) : Occupancy :=
  { occupant := if c.occupant = some (.unit id) then none else c.occupant
    claim := c.claim.filter fun b => decide (b.unit ≠ id) }

/-! ### Units and features -/

/-- Puts a feature on the map.  A blocking feature occupies its footprint, as far as that lies on
the map, and is not put there if something is in the way.  A feature that neither blocks nor can be
destroyed leaves its metal in the cells below it. -/
def addFeature (t : FeatureType) (f : Feature) : Action (Option FeatureId) := do
  let w ← get
  let rect ← Action.checked (w.footprint f.position t.width t.depth)
  let region := w.occupancy.clip rect
  if t.blocking && w.isRegionBlocked region then return none
  let next ← Action.checked (Overflow.successor w.nextFeature)
  let id : FeatureId := ⟨w.nextFeature⟩
  set { w with
    nextFeature := next
    features := w.features.insert id f
    occupancy := if t.blocking then occupy w.occupancy region (.feature id) else w.occupancy
    metal :=
      if !t.blocking && t.indestructible && decide (0 < t.metal) then
        w.metal.fillIn (w.metal.clip rect) t.metal
      else w.metal }
  return some id

/-- The yard map that a unit of a type claims its footprint by; mobile units have none. -/
def claimedYardMap (t : UnitType) (typeName : String) : Except Refusal (Option YardMap) :=
  if t.isMobile then .ok none
  else
    match t.yardMap with
    | some yardMap => .ok (some yardMap)
    | none => .error (.missingYardMap typeName)

/-- Puts a unit on the map if nothing is in the way of its footprint. -/
def tryAddUnit (u : UnitState) : Action (Option UnitId) := do
  let w ← get
  let t ← Action.require (w.definitions.unitType u.unitType)
  let rect ← Action.ofExcept (w.classFootprint u.position t.movement)
  if w.isBlocked rect then return none
  match w.occupancy.region? rect with
  | none => return none
  | some region =>
    let yardMap ← Action.require (claimedYardMap t u.unitType)
    let next ← Action.checked (Overflow.successor w.nextUnit)
    let id : UnitId := ⟨w.nextUnit⟩
    let occupancy ←
      match yardMap with
      | none => pure (occupy w.occupancy region (.unit id))
      | some yardMap => Action.checked (claim w.occupancy region yardMap id u.yardOpen)
    set { w with nextUnit := next, units := w.units.insert id u, occupancy := occupancy }
    return some id

/-- Lifts a unit that floats or hovers to the level of the sea. -/
def liftToSea (seaLevel : Scalar) (t : UnitType) (u : UnitState) : UnitState :=
  if t.floats || t.hovers then
    let y := u.position.y.max seaLevel
    { u with
      position := { u.position with y := y }
      previousPosition := { u.previousPosition with y := y } }
  else u

/-- Creates a unit, puts it on the map if nothing is in the way, and starts its script. -/
def trySpawnUnit (typeName : String) (owner : PlayerId) (position : Vector3)
    (rotation : Option Angle) : Action (Option UnitId) := do
  let w ← get
  let u ← Action.require (w.createUnit typeName owner position rotation)
  let t ← Action.require (w.definitions.unitType typeName)
  match ← tryAddUnit (liftToSea w.terrain.seaLevel t u) with
  | none => return none
  | some id =>
    let _ ← startScript id "Create" []
    modify (·.tell (.spawned id))
    return some id

/-- Takes a unit off the map, with all that it occupies and claims, and forgets that it waits for a
path. -/
def removeUnit (w : World) (id : UnitId) : World :=
  if w.unitExists id then
    { w with
      units := w.units.erase id
      occupancy := w.occupancy.map (release id)
      pathRequests := w.pathRequests.filter fun other => decide (other ≠ id) }
  else w

/-- A region of the map, or the refusal that the footprint of a unit leaves the map. -/
def footprintRegion (w : World) (id : UnitId) (r : Rect) : Except Refusal Region :=
  match w.occupancy.region? r with
  | some region => .ok region
  | none => .error (.footprintOffMap id r)

/-- Lets a unit occupy a rectangle instead of another one.  Cells of the other rectangle that the
unit does not occupy stay as they are. -/
def moveOccupiedArea (old new : Rect) (id : UnitId) : Action Unit := do
  let w ← get
  let oldRegion ← Action.require (w.footprintRegion id old)
  let newRegion ← Action.require (w.footprintRegion id new)
  let vacated := w.occupancy.modifyIn oldRegion (vacate (.unit id))
  set { w with occupancy := occupy vacated newRegion (.unit id) }

/-- Moves a mobile unit to a place if nothing but itself is in the way.  Buildings never move. -/
def tryMoveUnit (id : UnitId) (position : Vector3) : Action Bool := do
  let w ← get
  let u ← Action.require (w.unit id)
  let t ← Action.require (w.definitions.unitType u.unitType)
  if !t.isMobile then return false
  let old ← Action.ofExcept (w.classFootprint u.position t.movement)
  let new ← Action.ofExcept (w.classFootprint position t.movement)
  if w.isBlockedBut new id then return false
  moveOccupiedArea old new id
  updateUnit id fun u => { u with position := position }
  return true

/-- Opens or closes the yard of a unit, unless that would shut in someone who stands on it. -/
def trySetYardOpen (id : UnitId) (isOpen : Bool) : Action Bool := do
  let w ← get
  let rect ← Action.ofExcept (w.unitFootprint id)
  let u ← Action.require (w.unit id)
  let t ← Action.require (w.definitions.unitType u.unitType)
  match t.yardMap with
  | none => Action.refuse (.missingYardMap u.unitType)
  | some yardMap =>
    let region ← Action.require (w.footprintRegion id rect)
    let x := UInt32.ofNat region.x
    let y := UInt32.ofNat region.y
    if ← Action.checked (w.isYardBlocked x y yardMap isOpen) then return false
    let occupancy ← Action.checked (claim w.occupancy region yardMap id isOpen)
    set { w with occupancy := occupancy }
    updateUnit id fun u => { u with yardOpen := isOpen }
    return true

end Lockstep.World
