import Lockstep.World.Terrain
/-!
# Setting up a battle

A battle begins from a terrain, the definitions and a seed.  It can begin only if the map has a cell
and every type of units can really be put on it: its model, its script and its movement class are
registered, and a building has a yard map of the size of its footprint.
-/

namespace Lockstep

/-- What a battle begins from. -/
structure Setup where
  /-- The ground. -/
  terrain : Terrain
  /-- The definitions. -/
  definitions : Definitions
  /-- Where random numbers begin. -/
  seed : UInt64
  /-- The metal in each cell at the beginning. -/
  surfaceMetal : UInt8
deriving DecidableEq, Inhabited

/-- Why a battle cannot begin. -/
inductive SetupError where
  /-- The map has no cell. -/
  | terrainTooSmall (width height : Nat)
  /-- A type of units has a model that is not registered. -/
  | missingModel (unitType model : String)
  /-- A type of units has no script. -/
  | missingScript (unitType : String)
  /-- The movement class of a type of units is not registered. -/
  | definition (cause : Refusal)
  /-- A type of buildings has no yard map. -/
  | missingYardMap (unitType : String)
  /-- The yard map of a type of buildings has another size than its footprint. -/
  | yardMapSize (unitType : String) (footprint yardMap : Nat × Nat)
deriving DecidableEq, Inhabited

namespace SetupError

/-- A size as text. -/
def sizeText (size : Nat × Nat) : String := toString size.1 ++ "x" ++ toString size.2

/-- What is reported to the user. -/
def message : SetupError → String
  | terrainTooSmall width height =>
    "terrain " ++ sizeText (width, height) ++ " is smaller than 2x2 samples"
  | missingModel unitType model =>
    "unit type `" ++ unitType ++ "` uses unknown model `" ++ model ++ "`"
  | missingScript unitType => "unit type `" ++ unitType ++ "` has no script"
  | definition cause => "definition: " ++ cause.message
  | missingYardMap unitType => "building type `" ++ unitType ++ "` has no yard map"
  | yardMapSize unitType footprint yardMap =>
    "building type `" ++ unitType ++ "` has a " ++ sizeText yardMap ++ " yard map for a "
      ++ sizeText footprint ++ " footprint"

/-- What is reported of the cause behind an error, if there is one. -/
def causeMessage? : SetupError → Option String
  | definition cause => some cause.message
  | _ => none

end SetupError

namespace Setup

/-- A setup without definitions. -/
def new (terrain : Terrain) (seed : UInt64) : Setup := ⟨terrain, .empty, seed, 0⟩

/-- A setup without definitions on level and dry ground. -/
def flat (width height : Nat) (seed : UInt64) : Except SetupError Setup :=
  match Terrain.flat width height 0 0 with
  | .ok terrain => .ok (new terrain seed)
  | .error _ => .error (.terrainTooSmall width height)

/-- Whether the yard map of a type of units fits its footprint; only buildings need one. -/
def checkYardMap (unitType : UnitType) (footprint : Nat × Nat) : Except SetupError Unit :=
  if unitType.isMobile then .ok ()
  else
    match unitType.yardMap with
    | none => .error (.missingYardMap (Text.upcase unitType.name))
    | some yardMap =>
      let size := (yardMap.width, yardMap.height)
      if size = footprint then .ok ()
      else .error (.yardMapSize (Text.upcase unitType.name) footprint size)

/-- Whether units of a type can be put on the map. -/
def checkUnitType (d : Definitions) (unitType : UnitType) : Except SetupError Unit :=
  match d.model unitType.model, d.script unitType.name, d.movementClass unitType.movement with
  | .error _, _, _ => .error (.missingModel (Text.upcase unitType.name) unitType.model)
  | .ok _, .error _, _ => .error (.missingScript (Text.upcase unitType.name))
  | .ok _, .ok _, .error cause => .error (.definition cause)
  | .ok _, .ok _, .ok c => checkYardMap unitType (c.width, c.depth)

/-- Whether a battle can begin. -/
def validate (s : Setup) : Except SetupError Unit :=
  let heights := s.terrain.heights
  if heights.width < 2 ∨ heights.height < 2 then
    .error (.terrainTooSmall heights.width heights.height)
  else s.definitions.unitTypes.toList.forM fun (_, unitType) =>
    checkUnitType s.definitions unitType

end Setup

end Lockstep
