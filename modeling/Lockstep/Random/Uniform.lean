import Lockstep.Halt
import Lockstep.Random.Stream
/-!
# Uniform draws from a range

A draw from a range of `n` values takes the high half of a random word times `n`.  The low half
tells how much of a second word could still carry over; that word is drawn only when it could.
-/

namespace Lockstep.Random.Generator

/-- The double word that a random word makes of the size of a range; the high half is the draw. -/
def stretched (w range : UInt32) : UInt64 := w.toUInt64 * range.toUInt64

/-- The high half of a double word. -/
def highHalf (n : UInt64) : UInt32 := (n >>> 32).toUInt32

/-- Draws a number below `range`, which is not zero. -/
def below (g : Generator) (range : UInt32) : UInt32 × Generator :=
  let (w, g) := g.next
  let high := highHalf (stretched w range)
  let low := (stretched w range).toUInt32
  if -range < low then
    let (w, g) := g.next
    if UInt32.size ≤ low.toNat + (highHalf (stretched w range)).toNat then (high + 1, g)
    else (high, g)
  else (high, g)

/-- Draws a word from `low` to `high`, both included, going around past the largest word.  From a
range of all words a random word is drawn as it is. -/
def between (g : Generator) (low high : UInt32) : UInt32 × Generator :=
  let range := high - low + 1
  if range = 0 then g.next
  else
    let (n, g) := g.below range
    (low + n, g)

/-- Draws a signed word from `low` to `high`, both included; these must not be the wrong way
around. -/
def betweenSigned (g : Generator) (low high : Int32) : Except Halt (Int32 × Generator) :=
  if low ≤ high then
    let (n, g) := g.between low.toUInt32 high.toUInt32
    .ok (n.toInt32, g)
  else .error .emptyRange

end Lockstep.Random.Generator
