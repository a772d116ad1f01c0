import Lockstep.Identifier
/-!
# What stands on a cell

A cell of the map holds at most one occupant, a mobile unit or a feature, and besides that at most
one claim of a building.  A claim tells whether units may pass through the cell at the moment.
-/

namespace Lockstep

/-- What stands on a cell and blocks it. -/
inductive Occupant where
  /-- A mobile unit. -/
  | unit (id : UnitId)
  /-- A feature of the map. -/
  | feature (id : FeatureId)
deriving DecidableEq, Inhabited

namespace Occupant

/-- The unit that stands on the cell, if it is one. -/
def unit? : Occupant → Option UnitId
  | unit id => some id
  | feature _ => none

end Occupant

/-- The claim of a building on a cell. -/
structure Claim where
  /-- The building. -/
  unit : UnitId
  /-- Whether units may pass through the cell at the moment. -/
  passable : Bool
deriving DecidableEq, Inhabited

/-- What a cell of the map holds. -/
structure Occupancy where
  /-- What stands on the cell. -/
  occupant : Option Occupant
  /-- The building that claims the cell. -/
  claim : Option Claim
deriving DecidableEq, Inhabited

namespace Occupancy

/-- A cell with nothing on it. -/
def free : Occupancy := ⟨none, none⟩

/-- Whether the cell cannot be entered. -/
def blocks (c : Occupancy) : Bool :=
  c.occupant.isSome || c.claim.any fun b => !b.passable

/-- Whether the cell cannot be entered, what belongs to one unit left aside. -/
def blocksBut (c : Occupancy) (id : UnitId) : Bool :=
  c.occupant.any (fun o => decide (o ≠ .unit id)) ||
    c.claim.any fun b => decide (b.unit ≠ id) && !b.passable

end Occupancy

end Lockstep
