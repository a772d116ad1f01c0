import Lockstep.Fingerprint.Basic
/-!
# Projectiles

A projectile moves by its velocity in each tick; some fall.  Most disappear at a given tick.
-/

namespace Lockstep

/-- A projectile in flight. -/
structure Projectile where
  /-- The type of the weapon that fired it, in upper case. -/
  weapon : String
  /-- The player to whom its damage is credited. -/
  owner : PlayerId
  /-- Where it is. -/
  position : Vector3
  /-- Where it was at the beginning of the tick. -/
  previousPosition : Vector3
  /-- Where it was fired. -/
  origin : Vector3
  /-- The displacement in a tick. -/
  velocity : Vector3
  /-- Whether it falls. -/
  falls : Bool
  /-- The damage by category of target. -/
  damage : NameTable UInt32
  /-- The radius of its effect. -/
  radius : Scalar
  /-- The tick at which it was fired. -/
  created : Tick
  /-- The tick at which it disappears, if there is one. -/
  expiry : Option Tick
  /-- Whether it bounces off the ground. -/
  bounces : Bool
  /-- The tick at which it last left smoke behind. -/
  lastSmoke : Tick
deriving DecidableEq, Inhabited

namespace Projectile

/-- What falling takes from the upright velocity in a tick. -/
def gravity : Scalar := ⟨8155⟩

/-- One tick of flight. -/
def advance (p : Projectile) : Projectile :=
  { p with
    previousPosition := p.position
    position := p.position + p.velocity
    velocity := if p.falls then { p.velocity with y := p.velocity.y - gravity } else p.velocity }

/-- Whether the projectile disappears at a moment, or should have before. -/
def isExpired (p : Projectile) (now : Tick) : Bool := p.expiry.any fun t => decide (t ≤ now)

/-- The category for targets that have no entry of their own. -/
def defaultCategory : String := "DEFAULT"

/-- The damage to a category of target. -/
def damageTo (p : Projectile) (category : String) : UInt32 :=
  ((p.damage.get? category).or (p.damage.get? defaultCategory)).getD 0

/-- The owner, the places, the velocity, the radius and the damage values. -/
instance : Fingerprinted Projectile := ⟨fun p =>
  fingerprint p.owner + fingerprint p.position + fingerprint p.origin + fingerprint p.velocity
    + fingerprint p.radius + fingerprint (p.damage.toList.map Prod.snd)⟩

end Projectile

end Lockstep
