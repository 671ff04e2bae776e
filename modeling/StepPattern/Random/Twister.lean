/-
# StepPattern.Random.Twister -- the 32-bit Mersenne Twister

The source of all random draws: 624 words of state, advanced a whole block at a
time by a linear recurrence and tempered on the way out.  A source is a value;
every draw gives the source that the next draw starts from.  Seeding takes an
integer of any size, whose sign is ignored, as a key of 32-bit words.
-/
namespace StepPattern

set_option autoImplicit false

/-- A random source: a block of words and the number of them already drawn. -/
structure Twister where
  block : Array UInt32
  drawn : Nat
  deriving Repr

namespace Twister

def blockSize : Nat := 624

def lag : Nat := 397

def word (block : Array UInt32) (i : Nat) : UInt32 :=
  block.getD i 0

/-! ## Advancing the block -/

/-- The recurrence: the top bit of one word joined to the low bits of the next, times a fixed matrix. -/
def twist (high low : UInt32) : UInt32 :=
  let joined := (high &&& 0x80000000) ||| (low &&& 0x7FFFFFFF)
  (joined >>> 1) ^^^ (if joined &&& 1 = 1 then 0x9908B0DF else 0)

/-- The word at index `i` of the next block; the words before it are already new. -/
def renew (block : Array UInt32) (i : Nat) : Array UInt32 :=
  block.setIfInBounds i
    (word block ((i + lag) % blockSize) ^^^ twist (word block i) (word block ((i + 1) % blockSize)))

def advance (block : Array UInt32) : Array UInt32 :=
  (List.range blockSize).foldl renew block

def temper (w : UInt32) : UInt32 :=
  let w := w ^^^ (w >>> 11)
  let w := w ^^^ ((w <<< 7) &&& 0x9D2C5680)
  let w := w ^^^ ((w <<< 15) &&& 0xEFC60000)
  w ^^^ (w >>> 18)

def next (g : Twister) : UInt32 × Twister :=
  if g.drawn < blockSize then (temper (word g.block g.drawn), { g with drawn := g.drawn + 1 })
  else
    let block := advance g.block
    (temper (word block 0), { block, drawn := 1 })

/-! ## Seeding -/

/-- A block grown from one word. -/
def ofWord (seed : UInt32) : Array UInt32 :=
  (List.range (blockSize - 1)).foldl
    (fun block i =>
      let last := word block i
      block.push ((1812433253 : UInt32) * (last ^^^ (last >>> 30)) + (i + 1).toUInt32))
    #[seed]

/-- A block half mixed with a key: the next place to mix and the next key word. -/
structure Mixing where
  block : Array UInt32
  place : Nat
  keyIndex : Nat

/-- The word before `place`, stirred. -/
def Mixing.previous (m : Mixing) (factor : UInt32) : UInt32 :=
  let before := word m.block (m.place - 1)
  (before ^^^ (before >>> 30)) * factor

/-- A word put at `place`; past the end the last word also becomes the first. -/
def Mixing.put (m : Mixing) (w : UInt32) : Mixing :=
  let block := m.block.setIfInBounds m.place w
  if m.place + 1 < blockSize then { m with block, place := m.place + 1 }
  else { m with block := block.setIfInBounds 0 w, place := 1 }

/-- One step of the first pass, which adds the key. -/
def Mixing.addKey (key : Array UInt32) (m : Mixing) : Mixing :=
  let w := (word m.block m.place ^^^ m.previous 1664525) + word key m.keyIndex + m.keyIndex.toUInt32
  { m.put w with keyIndex := if m.keyIndex + 1 < key.size then m.keyIndex + 1 else 0 }

/-- One step of the second pass, which subtracts the place. -/
def Mixing.subtractPlace (m : Mixing) : Mixing :=
  m.put ((word m.block m.place ^^^ m.previous 1566083941) - m.place.toUInt32)

/-- A source seeded by a key of words. -/
def ofKey (key : Array UInt32) : Twister :=
  let start : Mixing := { block := ofWord 19650218, place := 1, keyIndex := 0 }
  let keyed := Nat.repeat (Mixing.addKey key) (max blockSize key.size) start
  let mixed := Nat.repeat Mixing.subtractPlace (blockSize - 1) keyed
  { block := mixed.block.setIfInBounds 0 0x80000000, drawn := blockSize }

/-- The 32-bit words of a number, the least significant first. -/
def wordsOf (n : Nat) : List UInt32 :=
  if n < UInt32.size then [n.toUInt32] else n.toUInt32 :: wordsOf (n / UInt32.size)
termination_by n
decreasing_by simp only [UInt32.size] at *; omega

/-- A source seeded by an integer, whose sign does not matter. -/
def ofSeed (seed : Int) : Twister :=
  ofKey (wordsOf seed.natAbs).toArray

end Twister

end StepPattern
