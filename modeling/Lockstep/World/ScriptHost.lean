import Lockstep.Script.Machine
import Lockstep.World.Scene
/-!
# The world as a host of scripts

What a script asks for is carried out on the world.  A script is not told when the world refuses;
the refusal is noted.
-/

namespace Lockstep.World

open Script (Effect Host)

/-- Carries an operation out for a script; a refusal is noted under the name of the operation. -/
def reporting (operation : String) (a : Action Unit) (w : World) : Except Halt World :=
  match a.on w with
  | (.ok _, w) => .ok w
  | (.error (.refused cause), w) => .ok (w.note (.effectIgnored operation cause))
  | (.error (.halt cause), _) => .error cause

/-- Carries out what the script of a unit asks for. -/
def applyEffect (id : UnitId) : Effect → World → Except Halt World
  | .visible piece value => reporting "show/hide" (setPieceVisible id piece value)
  | .shaded piece value => reporting "shade" (setPieceShaded id piece value)
  | .emit piece effect => fun w => .ok (w.tell (.effect id piece effect))
  | .activation value => reporting "activation" (setActivation id value)
  | .buildStance value => reporting "build stance" (setBuildStance id value)
  | .yard value => reporting "yard" (setYardOpen id value)
  | .buggerOff value => reporting "bugger off" (setBuggerOff id value)
  | .moveOrders value =>
    reporting "move orders" (updateUnit id fun u => { u with moveOrders := value })
  | .fireOrders value =>
    reporting "fire orders" (updateUnit id fun u => { u with fireOrders := value })
  | .armored value => reporting "armored" (updateUnit id fun u => { u with armored := value })

/-- The world as a host of scripts. -/
def host : Host World where
  random low high w :=
    (w.random.betweenSigned low high).map fun (v, random) => (v, { w with random := random })
  unit? id w := (w.units.get? id).map UnitState.view
  piecePosition? id piece w := (w.piecePosition id piece).toOption
  groundHeight x z w := w.terrain.heightAt x z
  minUnit w := (w.units.minKey?.map UnitId.val).getD 0
  maxUnit w := w.nextUnit - 1
  apply := applyEffect

end Lockstep.World
