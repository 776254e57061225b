import TypedSql.Text.Hexadecimal
import TypedSql.Text.Utf8

/-!
The SHA-256 digest. A message is padded to whole blocks of sixteen words, every block updates a
state of eight words in sixty-four rounds, and the last state is written in hexadecimal.
-/

namespace TypedSql.Sha256

structure State where
  a : UInt32
  b : UInt32
  c : UInt32
  d : UInt32
  e : UInt32
  f : UInt32
  g : UInt32
  h : UInt32
deriving DecidableEq

def State.add (s t : State) : State :=
  ⟨s.a + t.a, s.b + t.b, s.c + t.c, s.d + t.d, s.e + t.e, s.f + t.f, s.g + t.g, s.h + t.h⟩

def State.words (s : State) : List UInt32 :=
  [s.a, s.b, s.c, s.d, s.e, s.f, s.g, s.h]

/-- First parts of the square roots of the first eight primes. -/
def start : State :=
  ⟨0x6a09e667, 0xbb67ae85, 0x3c6ef372, 0xa54ff53a, 0x510e527f, 0x9b05688c, 0x1f83d9ab, 0x5be0cd19⟩

/-- First parts of the cube roots of the first sixty-four primes, one for every round. -/
def roundConstants : List UInt32 := [
  0x428a2f98, 0x71374491, 0xb5c0fbcf, 0xe9b5dba5, 0x3956c25b, 0x59f111f1, 0x923f82a4, 0xab1c5ed5,
  0xd807aa98, 0x12835b01, 0x243185be, 0x550c7dc3, 0x72be5d74, 0x80deb1fe, 0x9bdc06a7, 0xc19bf174,
  0xe49b69c1, 0xefbe4786, 0x0fc19dc6, 0x240ca1cc, 0x2de92c6f, 0x4a7484aa, 0x5cb0a9dc, 0x76f988da,
  0x983e5152, 0xa831c66d, 0xb00327c8, 0xbf597fc7, 0xc6e00bf3, 0xd5a79147, 0x06ca6351, 0x14292967,
  0x27b70a85, 0x2e1b2138, 0x4d2c6dfc, 0x53380d13, 0x650a7354, 0x766a0abb, 0x81c2c92e, 0x92722c85,
  0xa2bfe8a1, 0xa81a664b, 0xc24b8b70, 0xc76c51a3, 0xd192e819, 0xd6990624, 0xf40e3585, 0x106aa070,
  0x19a4c116, 0x1e376c08, 0x2748774c, 0x34b0bcb5, 0x391c0cb3, 0x4ed8aa4a, 0x5b9cca4f, 0x682e6ff3,
  0x748f82ee, 0x78a5636f, 0x84c87814, 0x8cc70208, 0x90befffa, 0xa4506ceb, 0xbef9a3f7, 0xc67178f2]

def rotateRight (w n : UInt32) : UInt32 :=
  (w >>> n) ||| (w <<< (32 - n))

def smallSigma0 (w : UInt32) : UInt32 :=
  rotateRight w 7 ^^^ rotateRight w 18 ^^^ (w >>> 3)

def smallSigma1 (w : UInt32) : UInt32 :=
  rotateRight w 17 ^^^ rotateRight w 19 ^^^ (w >>> 10)

def bigSigma0 (w : UInt32) : UInt32 :=
  rotateRight w 2 ^^^ rotateRight w 13 ^^^ rotateRight w 22

def bigSigma1 (w : UInt32) : UInt32 :=
  rotateRight w 6 ^^^ rotateRight w 11 ^^^ rotateRight w 25

def State.round (s : State) (k w : UInt32) : State :=
  let first := s.h + bigSigma1 s.e + ((s.e &&& s.f) ^^^ (~~~s.e &&& s.g)) + k + w
  let second := bigSigma0 s.a + ((s.a &&& s.b) ^^^ (s.a &&& s.c) ^^^ (s.b &&& s.c))
  ⟨first + second, s.a, s.b, s.c, s.d + first, s.e, s.f, s.g⟩

/-- Adds `n` words to a schedule, each computed from the sixteen before it. -/
def extend : Nat → Array UInt32 → Array UInt32
  | 0, words => words
  | n + 1, words =>
    let t := words.size
    extend n (words.push
      (smallSigma1 (words.getD (t - 2) 0) + words.getD (t - 7) 0 +
        smallSigma0 (words.getD (t - 15) 0) + words.getD (t - 16) 0))

def schedule (block : List UInt32) : List UInt32 :=
  (extend 48 block.toArray).toList

def State.absorb (s : State) (block : List UInt32) : State :=
  s.add ((roundConstants.zip (schedule block)).foldl (fun t (k, w) => t.round k w) s)

def wordOfBytes (a b c d : UInt8) : UInt32 :=
  (a.toUInt32 <<< 24) ||| (b.toUInt32 <<< 16) ||| (c.toUInt32 <<< 8) ||| d.toUInt32

/-- Adds the words of the bytes to words in reverse. -/
def wordsOnto (words : List UInt32) : Bytes → List UInt32
  | a :: b :: c :: d :: rest => wordsOnto (wordOfBytes a b c d :: words) rest
  | _ => words.reverse

/-- The `n` low bytes of a number, the most significant first. -/
def bigEndian : Nat → Nat → Bytes
  | 0, _ => []
  | n + 1, value => bigEndian n (value / 256) ++ [UInt8.ofNat value]

/-- A message followed by a one bit, zeros, and its length in bits, in whole blocks. -/
def pad (message : Bytes) : Bytes :=
  let size := message.length
  message ++ (0x80 :: (List.replicate ((119 - size % 64) % 64) 0 ++ bigEndian 8 (8 * size)))

def absorbBlocks : Nat → State → List UInt32 → State
  | 0, s, _ => s
  | n + 1, s, words => absorbBlocks n (s.absorb (words.take 16)) (words.drop 16)

def finalState (message : Bytes) : State :=
  let words := wordsOnto [] (pad message)
  absorbBlocks (words.length / 16) start words

def hexByte (byte : UInt8) : List Char :=
  [Text.Hexadecimal.digit (byte.toNat / 16), Text.Hexadecimal.digit (byte.toNat % 16)]

def hexDigest (message : Bytes) : String :=
  String.ofList
    ((finalState message).words.flatMap fun w => (bigEndian 4 w.toNat).flatMap hexByte)

example : hexDigest [] =
    "e3b0c44298fc1c149afbf4c8996fb92427ae41e4649b934ca495991b7852b855" := by decide +kernel

example : hexDigest [0x61, 0x62, 0x63] =
    "ba7816bf8f01cfea414140de5dae2223b00361a396177a9cb410ff61f20015ad" := by decide +kernel

end TypedSql.Sha256
