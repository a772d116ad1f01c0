/-!
# The stream of random words

All replicas of a battle must draw the same random numbers, so these come from a stream of words
that is fixed by a seed: the ChaCha stream cipher with eight rounds, run over the block numbers.  A
generator is the key together with the number of words drawn so far; drawing reads the next word of
the stream and moves on.
-/

namespace Lockstep.Random

/-- The sixteen words on which the cipher works. -/
abbrev Block := Vector UInt32 16

/-- The word turned to the left by `n` binary places. -/
def rotateLeft (w : UInt32) (n : UInt32) : UInt32 := w <<< n ||| w >>> (32 - n)

namespace Block

/-- Mixes four words of the block. -/
def quarterRound (v : Block) (a b c d : Fin 16) : Block :=
  let v := v.set a (v[a] + v[b])
  let v := v.set d (rotateLeft (v[d] ^^^ v[a]) 16)
  let v := v.set c (v[c] + v[d])
  let v := v.set b (rotateLeft (v[b] ^^^ v[c]) 12)
  let v := v.set a (v[a] + v[b])
  let v := v.set d (rotateLeft (v[d] ^^^ v[a]) 8)
  let v := v.set c (v[c] + v[d])
  v.set b (rotateLeft (v[b] ^^^ v[c]) 7)

/-- Mixes along the columns of the block, seen as a square, then along its diagonals. -/
def doubleRound (v : Block) : Block :=
  let v := v.quarterRound 0 4 8 12
  let v := v.quarterRound 1 5 9 13
  let v := v.quarterRound 2 6 10 14
  let v := v.quarterRound 3 7 11 15
  let v := v.quarterRound 0 5 10 15
  let v := v.quarterRound 1 6 11 12
  let v := v.quarterRound 2 7 8 13
  v.quarterRound 3 4 9 14

/-- The block before mixing: four constants, the key, the block number in two words, and two zero
words. -/
def initial (key : Vector UInt32 8) (number : Nat) : Block :=
  #v[0x61707865, 0x3320646e, 0x79622d32, 0x6b206574,
    key[0], key[1], key[2], key[3], key[4], key[5], key[6], key[7],
    UInt32.ofNat number, UInt32.ofNat (number / UInt32.size), 0, 0]

/-- The block of the stream with the given number: eight rounds of mixing, added to the block
before mixing. -/
def ofNumber (key : Vector UInt32 8) (number : Nat) : Block :=
  let v := initial key number
  let mixed := v.doubleRound.doubleRound.doubleRound.doubleRound
  Vector.zipWith (· + ·) mixed v

end Block

/-- A place in a stream of random words. -/
structure Generator where
  /-- The key of the stream. -/
  key : Vector UInt32 8
  /-- The number of words drawn so far. -/
  drawn : Nat
deriving DecidableEq

namespace Generator

/-- One step of the small generator that spreads a seed over the key. -/
def spread (state : UInt64) : UInt64 := state * 6364136223846793005 + 11634580027462260723

/-- The key word read off a state of the small generator. -/
def keyWord (state : UInt64) : UInt32 :=
  let x := (((state >>> 18) ^^^ state) >>> 27).toUInt32
  let turn := (state >>> 59).toUInt32
  x >>> turn ||| x <<< ((32 - turn) % 32)

/-- The first `n` key words of a seed. -/
def keyWords : (n : Nat) → UInt64 → List UInt32
  | 0, _ => []
  | n + 1, state => keyWord (spread state) :: keyWords n (spread state)

theorem length_keyWords (n : Nat) (state : UInt64) : (keyWords n state).length = n := by
  induction n generalizing state with
  | zero => rfl
  | succ n ih => simp [keyWords, ih]

/-- The start of the stream of a seed. -/
def ofSeed (seed : UInt64) : Generator :=
  ⟨⟨(keyWords 8 seed).toArray, by simp [length_keyWords]⟩, 0⟩

instance : Inhabited Generator := ⟨ofSeed 0⟩

/-- The word of the stream that is drawn next. -/
def word (g : Generator) : UInt32 :=
  (Block.ofNumber g.key (g.drawn / 16)).get ⟨g.drawn % 16, Nat.mod_lt _ (by decide)⟩

/-- Draws a word. -/
def next (g : Generator) : UInt32 × Generator := (g.word, { g with drawn := g.drawn + 1 })

end Generator

end Lockstep.Random
