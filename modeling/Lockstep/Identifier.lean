import Lockstep.Collection.SortedTable
/-!
# Identifiers and the clock

Units, players, features, projectiles and script threads are named by 32-bit numbers that are given
out in ascending order and never given out twice.  Time is counted in ticks.
-/

namespace Lockstep

/-- Names a unit. -/
structure UnitId where
  /-- The number of the unit. -/
  val : UInt32
deriving DecidableEq, Inhabited

/-- Names a player: the number of players that were there before. -/
structure PlayerId where
  /-- The number of the player. -/
  val : UInt32
deriving DecidableEq, Inhabited

/-- Names a feature of the map, such as a tree or a wreck. -/
structure FeatureId where
  /-- The number of the feature. -/
  val : UInt32
deriving DecidableEq, Inhabited

/-- Names a projectile in flight. -/
structure ProjectileId where
  /-- The number of the projectile. -/
  val : UInt32
deriving DecidableEq, Inhabited

/-- Names a thread of a unit's script. -/
structure ThreadId where
  /-- The number of the thread. -/
  val : UInt32
deriving DecidableEq, Inhabited

/-- A moment or a duration, counted in ticks. -/
structure Tick where
  /-- The number of ticks. -/
  val : UInt32
deriving DecidableEq, Inhabited

instance : Ranked UnitId := ⟨fun id => id.val.toNat, fun {a b} h => by
  cases a; cases b; exact congrArg UnitId.mk (UInt32.toNat_inj.1 h)⟩

instance : Ranked FeatureId := ⟨fun id => id.val.toNat, fun {a b} h => by
  cases a; cases b; exact congrArg FeatureId.mk (UInt32.toNat_inj.1 h)⟩

instance : Ranked ProjectileId := ⟨fun id => id.val.toNat, fun {a b} h => by
  cases a; cases b; exact congrArg ProjectileId.mk (UInt32.toNat_inj.1 h)⟩

instance : Ranked ThreadId := ⟨fun id => id.val.toNat, fun {a b} h => by
  cases a; cases b; exact congrArg ThreadId.mk (UInt32.toNat_inj.1 h)⟩

instance : Ranked Tick := ⟨fun t => t.val.toNat, fun {a b} h => by
  cases a; cases b; exact congrArg Tick.mk (UInt32.toNat_inj.1 h)⟩

namespace Tick

/-- The number of ticks in a second. -/
def perSecond : Nat := 30

/-- The whole milliseconds in a tick. -/
def milliseconds : Nat := 33

/-- The last moment that can be named. -/
def last : Tick := ⟨UInt32.ofNat (UInt32.size - 1)⟩

/-- A duration later, or the last moment if that comes first. -/
protected def add (t d : Tick) : Tick :=
  ⟨UInt32.ofNat (min (t.val.toNat + d.val.toNat) (UInt32.size - 1))⟩

/-- A duration earlier, or the first moment if that comes later. -/
protected def sub (t d : Tick) : Tick := ⟨UInt32.ofNat (t.val.toNat - d.val.toNat)⟩

instance : Add Tick := ⟨Tick.add⟩
instance : Sub Tick := ⟨Tick.sub⟩

instance : LT Tick := ⟨fun a b => a.val < b.val⟩
instance : LE Tick := ⟨fun a b => a.val ≤ b.val⟩
instance (a b : Tick) : Decidable (a < b) := inferInstanceAs (Decidable (a.val < b.val))
instance (a b : Tick) : Decidable (a ≤ b) := inferInstanceAs (Decidable (a.val ≤ b.val))

theorem toNat_add (t d : Tick) :
    (t + d).val.toNat = min (t.val.toNat + d.val.toNat) (UInt32.size - 1) := by
  show (UInt32.ofNat _).toNat = _
  rw [UInt32.toNat_ofNat']
  have : UInt32.size = 4294967296 := rfl
  omega

theorem toNat_sub (t d : Tick) : (t - d).val.toNat = t.val.toNat - d.val.toNat := by
  show (UInt32.ofNat _).toNat = _
  rw [UInt32.toNat_ofNat']
  have := t.val.toNat_lt
  omega

end Tick

end Lockstep
