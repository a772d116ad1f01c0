import Lockstep.Script.Error
import Lockstep.Script.Host
import Lockstep.World.Refusal
/-!
# Events and notices

The world tells those who draw it what can be seen, by events, and those who run it what went wrong
without being anyone's error, by notices.  Neither has any influence on the world.
-/

namespace Lockstep

/-- Something that can be seen. -/
inductive Event where
  /-- A unit came onto the map. -/
  | spawned (unit : UnitId)
  /-- A unit was activated. -/
  | activated (unit : UnitId)
  /-- A unit was deactivated. -/
  | deactivated (unit : UnitId)
  /-- Something is to be seen at a piece of a unit. -/
  | effect (unit : UnitId) (piece : String) (effect : Script.PieceEffect)
  /-- A dead unit was taken off the map. -/
  | removed (unit : UnitId)
deriving DecidableEq, Inhabited

/-- How grave a notice is. -/
inductive Severity where
  /-- Something was ignored. -/
  | warn
  /-- Something was given up. -/
  | error
deriving DecidableEq, Inhabited

/-- Something that went wrong without being anyone's error. -/
inductive Notice where
  /-- A function was to be started while the script of the unit was running. -/
  | startedWhileRunning (unit : UnitId) (function : String)
  /-- A function that was asked for its answer is faulty. -/
  | queryFaulted (unit : UnitId) (function : String) (error : ScriptError)
  /-- A thread is faulty and has ended. -/
  | threadFaulted (unit : UnitId) (thread : ThreadId) (function : String) (error : ScriptError)
  /-- A thread waits for a piece that the unit does not have. -/
  | awaitsMissingPiece (unit : UnitId) (piece : String)
  /-- A motion was asked for that the unit cannot do. -/
  | motionIgnored (unit : UnitId) (refusal : Refusal)
  /-- An effect was asked for that was refused. -/
  | effectIgnored (operation : String) (refusal : Refusal)
  /-- The script of a unit could not run. -/
  | scriptsNotRun (unit : UnitId) (refusal : Refusal)
deriving DecidableEq, Inhabited

namespace Notice

/-- How grave the notice is. -/
def severity : Notice → Severity
  | startedWhileRunning _ _ => .warn
  | queryFaulted _ _ _ => .error
  | threadFaulted _ _ _ _ => .error
  | awaitsMissingPiece _ _ => .warn
  | motionIgnored _ _ => .warn
  | effectIgnored _ _ => .warn
  | scriptsNotRun _ _ => .error

/-- A unit as text. -/
def unitText (unit : UnitId) : String := "unit " ++ toString unit.val.toNat

/-- The wording of the notice. -/
def message : Notice → String
  | startedWhileRunning unit function =>
    unitText unit ++ " started `" ++ function ++ "` while its scripts were running"
  | queryFaulted unit function error =>
    "query `" ++ function ++ "` on " ++ unitText unit ++ " faulted: " ++ error.message
  | threadFaulted unit thread function error =>
    unitText unit ++ " thread " ++ toString thread.val.toNat ++ " (" ++ function ++ ") faulted: "
      ++ error.message
  | awaitsMissingPiece unit piece =>
    unitText unit ++ " waits on missing piece `" ++ piece ++ "`"
  | motionIgnored unit refusal =>
    "motion on " ++ unitText unit ++ " ignored: " ++ refusal.message
  | effectIgnored operation refusal =>
    "script " ++ operation ++ " ignored: " ++ refusal.message
  | scriptsNotRun unit refusal =>
    "scripts of " ++ unitText unit ++ " could not run: " ++ refusal.message

/-- The notice as it is reported: how grave it is, then its wording. -/
def text (n : Notice) : String :=
  (match n.severity with
    | .warn => "warn: "
    | .error => "error: ") ++ n.message

end Notice

end Lockstep
