import Lockstep.Fingerprint.Basic
/-!
# Logs of fingerprints

Each replica of a battle keeps the fingerprints of the ticks gone by.  Two logs are compared over
the ticks that both of them hold, and the first tick at which they differ is where the replicas went
apart.
-/

namespace Lockstep

/-- The fingerprints that a replica recorded, by tick. -/
abbrev FingerprintLog := SortedTable Tick Fingerprint

/-- A tick for which two replicas have different fingerprints. -/
structure Divergence where
  /-- The tick. -/
  time : Tick
  /-- The fingerprint of this replica. -/
  localPrint : Fingerprint
  /-- The fingerprint of the other replica. -/
  remotePrint : Fingerprint
deriving DecidableEq, Inhabited

namespace Divergence

/-- What is reported to the user. -/
def message (d : Divergence) : String :=
  "desync at tick " ++ toString d.time.val.toNat ++ ": local " ++ d.localPrint.text
    ++ " != remote " ++ d.remotePrint.text

/-- The divergence of two logs at one entry of the first, if the second holds the tick too and
differs there. -/
def ofShared? (other : FingerprintLog) (entry : Tick × Fingerprint) : Option Divergence :=
  match other.get? entry.1 with
  | some remote => if remote = entry.2 then none else some ⟨entry.1, entry.2, remote⟩
  | none => none

/-- The first tick for which both logs hold a fingerprint and these differ. -/
def first? (log other : FingerprintLog) : Option Divergence :=
  log.toList.findSome? (ofShared? other)

end Divergence

namespace FingerprintLog

/-- Records the fingerprint of a tick; the one that it replaces is given back. -/
def record (log : FingerprintLog) (time : Tick) (f : Fingerprint) :
    Option Fingerprint × FingerprintLog :=
  (log.get? time, log.insert time f)

/-- Drops the entries of all earlier ticks. -/
def discardBefore (log : FingerprintLog) (time : Tick) : FingerprintLog :=
  log.filterKeys fun t => decide (time ≤ t)

/-- The entry of the latest tick. -/
def latest? (log : FingerprintLog) : Option (Tick × Fingerprint) := log.last?

end FingerprintLog

end Lockstep
