/-
# StepPattern.Random.Digest -- the digest of 512 bits that seeds are spread by

A text or bytes that seed a source are followed by their SHA-512 digest.  The bytes
are padded to blocks of 128, each block is expanded to a schedule of 80 words, and
each word of the schedule turns the state of eight words by one round.  The constants
are the first 64 bits behind the point of roots of primes: cube roots of the first 80
for the rounds, square roots of the first eight for the state at the start.
-/
namespace StepPattern.Digest

set_option autoImplicit false

/-! ## Bytes and words -/

def toBytes (width n : Nat) : List UInt8 :=
  (List.range width).reverse.map fun i => (n >>> (8 * i)).toUInt8

def ofBytes (bytes : List UInt8) : Nat :=
  bytes.foldl (fun n byte => 256 * n + byte.toNat) 0

def rotateRight (w n : UInt64) : UInt64 :=
  (w >>> n) ||| (w <<< (64 - n))

/-! ## Constants -/

/-- The largest number whose power is at most `n`, found bit by bit from the top. -/
def root (power n : Nat) : Nat :=
  (List.range 72).foldr (fun bit found =>
    if Nat.pow (found + 1 <<< bit) power ≤ n then found + 1 <<< bit else found) 0

def primes : List Nat :=
  (List.range 410).filter fun n => 2 ≤ n && (List.range n).all fun d => d < 2 || n % d ≠ 0

/-- The first 64 bits behind the point of a root of a number. -/
def rootBits (power n : Nat) : UInt64 :=
  (root power (n <<< (64 * power))).toUInt64

def roundConstants : List UInt64 :=
  primes.map (rootBits 3)

/-! ## Rounds -/

structure State where
  (a b c d e f g h : UInt64)

def State.words (s : State) : List UInt64 :=
  [s.a, s.b, s.c, s.d, s.e, s.f, s.g, s.h]

def start : State :=
  { a := rootBits 2 2, b := rootBits 2 3, c := rootBits 2 5, d := rootBits 2 7
    e := rootBits 2 11, f := rootBits 2 13, g := rootBits 2 17, h := rootBits 2 19 }

/-- One round, with a constant and a word of the schedule. -/
def round (s : State) (input : UInt64 × UInt64) : State :=
  let spreadE := rotateRight s.e 14 ^^^ rotateRight s.e 18 ^^^ rotateRight s.e 41
  let choice := (s.e &&& s.f) ^^^ (~~~s.e &&& s.g)
  let first := s.h + spreadE + choice + input.1 + input.2
  let spreadA := rotateRight s.a 28 ^^^ rotateRight s.a 34 ^^^ rotateRight s.a 39
  let majority := (s.a &&& s.b) ^^^ (s.a &&& s.c) ^^^ (s.b &&& s.c)
  { a := first + spreadA + majority, b := s.a, c := s.b, d := s.c
    e := s.d + first, f := s.e, g := s.f, h := s.g }

/-- The schedule with its next word, made of four of the last sixteen. -/
def extend (schedule : Array UInt64) : Array UInt64 :=
  let back (n : Nat) := schedule.getD (schedule.size - n) 0
  let early := rotateRight (back 15) 1 ^^^ rotateRight (back 15) 8 ^^^ (back 15 >>> 7)
  let late := rotateRight (back 2) 19 ^^^ rotateRight (back 2) 61 ^^^ (back 2 >>> 6)
  schedule.push (back 16 + early + back 7 + late)

def schedule (block : List UInt8) : List UInt64 :=
  let words := (List.range 16).map fun i => (ofBytes ((block.drop (8 * i)).take 8)).toUInt64
  (Nat.repeat extend 64 words.toArray).toList

def absorb (s : State) (block : List UInt8) : State :=
  let turned := (roundConstants.zip (schedule block)).foldl round s
  { a := s.a + turned.a, b := s.b + turned.b, c := s.c + turned.c, d := s.d + turned.d
    e := s.e + turned.e, f := s.f + turned.f, g := s.g + turned.g, h := s.h + turned.h }

/-! ## The digest -/

/-- Bytes filled up to whole blocks: a bit, zeros, and the number of bits in the last 16 bytes. -/
def pad (bytes : List UInt8) : List UInt8 :=
  bytes ++ 0x80 :: List.replicate ((239 - bytes.length % 128) % 128) 0
    ++ toBytes 16 (8 * bytes.length)

def ofMessage (bytes : List UInt8) : List UInt8 :=
  let padded := pad bytes
  let last := (List.range (padded.length / 128)).foldl
    (fun s i => absorb s ((padded.drop (128 * i)).take 128)) start
  last.words.flatMap fun w => toBytes 8 w.toNat

end StepPattern.Digest
