import Lockstep.World.Placement
/-!
# Orders and path requests

A unit that needs a path waits in a queue, in which it stands at most once.  A building can tell all
units on its footprint to leave it; a unit that has something else to do does not listen.
-/

namespace Lockstep.World

/-- Puts a unit at the end of the queue for paths, wherever it stood before. -/
def requestPath (w : World) (id : UnitId) : World :=
  { w with pathRequests := w.pathRequests.filter (fun other => decide (other ≠ id)) ++ [id] }

/-- The unit that is served next, and the world in which it no longer waits. -/
def popPathRequest (w : World) : Option UnitId × World :=
  match w.pathRequests with
  | [] => (none, w)
  | id :: rest => (some id, { w with pathRequests := rest })

/-- Tells a unit to leave a rectangle, unless it has an order already. -/
def tellToBuggerOff (id : UnitId) (rect : Rect) : Action Unit :=
  updateUnit id fun u => if u.orders.isEmpty then u.addOrder (.buggerOff rect) else u

/-- The units that stand on a region, row by row, as often as they have cells there. -/
def unitsIn (w : World) (r : Region) : List UnitId :=
  (w.occupancy.valuesIn r).filterMap fun c => c.occupant.bind Occupant.unit?

/-- Tells every unit on the footprint of a unit to leave it. -/
def emitBuggerOff (id : UnitId) : Action Unit := do
  let w ← get
  let rect ← Action.ofExcept (w.unitFootprint id)
  let region ← Action.require (w.footprintRegion id rect)
  (w.unitsIn region).forM fun other => tellToBuggerOff other rect

end Lockstep.World
