/-
This file computes SHA-256 digests, writes them as checksums and verifies content against them.
-/

import BusBridge.Java.Escape
import BusBridge.Text.Basic

namespace BusBridge.Digest

/-- The leading bits after the point in the cube roots of the first sixty-four primes. -/
def roundConstants : List UInt32 := [
  0x428a2f98, 0x71374491, 0xb5c0fbcf, 0xe9b5dba5, 0x3956c25b, 0x59f111f1, 0x923f82a4, 0xab1c5ed5,
  0xd807aa98, 0x12835b01, 0x243185be, 0x550c7dc3, 0x72be5d74, 0x80deb1fe, 0x9bdc06a7, 0xc19bf174,
  0xe49b69c1, 0xefbe4786, 0x0fc19dc6, 0x240ca1cc, 0x2de92c6f, 0x4a7484aa, 0x5cb0a9dc, 0x76f988da,
  0x983e5152, 0xa831c66d, 0xb00327c8, 0xbf597fc7, 0xc6e00bf3, 0xd5a79147, 0x06ca6351, 0x14292967,
  0x27b70a85, 0x2e1b2138, 0x4d2c6dfc, 0x53380d13, 0x650a7354, 0x766a0abb, 0x81c2c92e, 0x92722c85,
  0xa2bfe8a1, 0xa81a664b, 0xc24b8b70, 0xc76c51a3, 0xd192e819, 0xd6990624, 0xf40e3585, 0x106aa070,
  0x19a4c116, 0x1e376c08, 0x2748774c, 0x34b0bcb5, 0x391c0cb3, 0x4ed8aa4a, 0x5b9cca4f, 0x682e6ff3,
  0x748f82ee, 0x78a5636f, 0x84c87814, 0x8cc70208, 0x90befffa, 0xa4506ceb, 0xbef9a3f7, 0xc67178f2]

def rotateRight (word count : UInt32) : UInt32 :=
  (word >>> count) ||| (word <<< (32 - count))

structure State where
  a : UInt32
  b : UInt32
  c : UInt32
  d : UInt32
  e : UInt32
  f : UInt32
  g : UInt32
  h : UInt32
  deriving DecidableEq, Repr

/-- The leading bits after the point in the square roots of the first eight primes. -/
def initialState : State :=
  ⟨0x6a09e667, 0xbb67ae85, 0x3c6ef372, 0xa54ff53a,
    0x510e527f, 0x9b05688c, 0x1f83d9ab, 0x5be0cd19⟩

def State.add (first second : State) : State :=
  ⟨first.a + second.a, first.b + second.b, first.c + second.c, first.d + second.d,
    first.e + second.e, first.f + second.f, first.g + second.g, first.h + second.h⟩

def State.words (state : State) : List UInt32 :=
  [state.a, state.b, state.c, state.d, state.e, state.f, state.g, state.h]

/-- One round takes a word of the schedule and its constant. -/
def State.round (state : State) (word constant : UInt32) : State :=
  let sum1 := rotateRight state.e 6 ^^^ rotateRight state.e 11 ^^^ rotateRight state.e 25
  let choice := (state.e &&& state.f) ^^^ (~~~state.e &&& state.g)
  let first := state.h + sum1 + choice + constant + word
  let sum0 := rotateRight state.a 2 ^^^ rotateRight state.a 13 ^^^ rotateRight state.a 22
  let majority := (state.a &&& state.b) ^^^ (state.a &&& state.c) ^^^ (state.b &&& state.c)
  ⟨first + sum0 + majority, state.a, state.b, state.c, state.d + first, state.e, state.f,
    state.g⟩

/-- The latest word is the first of the list. -/
def nextWord (latest : List UInt32) : UInt32 :=
  let word (back : Nat) := latest.getD (back - 1) 0
  let small0 := rotateRight (word 15) 7 ^^^ rotateRight (word 15) 18 ^^^ (word 15 >>> 3)
  let small1 := rotateRight (word 2) 17 ^^^ rotateRight (word 2) 19 ^^^ (word 2 >>> 10)
  word 16 + small0 + word 7 + small1

def extend : Nat → List UInt32 → List UInt32
  | 0, latest => latest
  | count + 1, latest => extend count (nextWord latest :: latest)

/-- The sixteen words of a block are extended to sixty-four. -/
def schedule (block : List UInt32) : List UInt32 :=
  (extend 48 block.reverse).reverse

def compress (state : State) (block : List UInt32) : State :=
  state.add (((schedule block).zip roundConstants).foldl
    (fun current (word, constant) => current.round word constant) state)

def bigEndian (count value : Nat) : List UInt8 :=
  (List.range count).map fun index => (value / Nat.pow 256 (count - 1 - index)).toUInt8

/-- A one bit, zeros and the length fill the message up to whole blocks. -/
def padded (message : List UInt8) : List UInt8 :=
  let length := message.length
  message ++ 0x80 :: List.replicate ((119 - length % 64) % 64) 0 ++ bigEndian 8 (8 * length)

def wordsOf : List UInt8 → List UInt32
  | first :: second :: third :: fourth :: rest =>
      (first.toUInt32 <<< 24 ||| second.toUInt32 <<< 16 ||| third.toUInt32 <<< 8 |||
        fourth.toUInt32) :: wordsOf rest
  | _ => []

def absorb (state : State) : Nat → List UInt32 → State
  | 0, _ => state
  | count + 1, words => absorb (compress state (words.take 16)) count (words.drop 16)

def sha256 (message : ByteArray) : List UInt8 :=
  let words := wordsOf (padded message.toList)
  let final := absorb initialState (words.length / 16) words
  final.words.flatMap fun word => bigEndian 4 word.toNat


def hexByte (byte : UInt8) : List Char :=
  [Java.hexDigit (byte.toNat / 16), Java.hexDigit (byte.toNat % 16)]

def hex (content : ByteArray) : String :=
  String.ofList ((sha256 content).flatMap hexByte)

def algorithmMark : String := "sha256:"

def checksum (content : ByteArray) : String :=
  algorithmMark ++ hex content

/-- The mark of the algorithm may be missing, and letters may have either case. -/
def verifies (content : ByteArray) (expected : String) : Bool :=
  Text.sameAsciiLetters (hex content) (Text.withoutStart algorithmMark expected)

end BusBridge.Digest
