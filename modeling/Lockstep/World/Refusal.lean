import Lockstep.Identifier
import Lockstep.Space.Error
/-!
# Why the world refuses an operation

Something in the way or a stalled account is no reason to refuse: such outcomes are answers.  An
operation is refused when it names something that does not exist or would leave the map.
-/

namespace Lockstep

/-- Why the world refuses an operation. -/
inductive Refusal where
  /-- No type of units has the name. -/
  | unknownUnitType (name : String)
  /-- No model has the name. -/
  | unknownModel (name : String)
  /-- No script belongs to the type of units. -/
  | unknownScript (name : String)
  /-- No weapon has the name. -/
  | unknownWeapon (name : String)
  /-- No movement class has the name. -/
  | unknownMovementClass (name : String)
  /-- The type of buildings has no yard map. -/
  | missingYardMap (unitType : String)
  /-- There is no such unit, or not any more. -/
  | unknownUnit (unit : UnitId)
  /-- The unit has no piece of the name. -/
  | unknownPiece (unit : UnitId) (name : String)
  /-- There is no such player. -/
  | unknownPlayer (player : PlayerId)
  /-- The footprint of the unit does not lie on the map. -/
  | footprintOffMap (unit : UnitId) (rect : Rect)
  /-- Something is wrong with a grid. -/
  | space (cause : SpaceError)
deriving DecidableEq, Inhabited

namespace Refusal

/-- What is reported to the user. -/
def message : Refusal → String
  | unknownUnitType name => "unknown unit type `" ++ name ++ "`"
  | unknownModel name => "unknown unit model `" ++ name ++ "`"
  | unknownScript name => "no script for unit type `" ++ name ++ "`"
  | unknownWeapon name => "unknown weapon type `" ++ name ++ "`"
  | unknownMovementClass name => "unknown movement class `" ++ name ++ "`"
  | missingYardMap unitType => "building type `" ++ unitType ++ "` has no yard map"
  | unknownUnit unit => "unit " ++ toString unit.val.toNat ++ " does not exist"
  | unknownPiece unit name =>
    "unit " ++ toString unit.val.toNat ++ " has no piece `" ++ name ++ "`"
  | unknownPlayer player => "player " ++ toString player.val.toNat ++ " does not exist"
  | footprintOffMap unit rect =>
    "footprint " ++ rect.text ++ " of unit " ++ toString unit.val.toNat ++ " is off the map"
  | space cause => "space: " ++ cause.message

/-- What is reported of the cause behind a refusal, if there is one. -/
def causeMessage? : Refusal → Option String
  | space cause => some cause.message
  | _ => none

end Refusal

end Lockstep
