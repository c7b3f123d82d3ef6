/-!
# SHA-1

The digest of a sequence of bytes: twenty bytes, as five words of 32 bits.

* The message is padded to blocks of sixteen words (`pad`); the padding ends with the length of the
  message in bits.
* Each block is expanded to eighty words (`expand`): a word is made from four of those before it.
* The words are mixed into the state one after the other (`mix`). There are four rounds of twenty
  words, each with its own function and constant.
* What comes out of a block is added to the state before it, word by word (`absorb`).

All arithmetic is that of 32 bits and wraps around.
-/

namespace FeatureFlags
namespace Digest

structure State where
  a : UInt32
  b : UInt32
  c : UInt32
  d : UInt32
  e : UInt32
deriving DecidableEq, Repr

def initial : State := ⟨0x67452301, 0xEFCDAB89, 0x98BADCFE, 0x10325476, 0xC3D2E1F0⟩

/-- Rotate a word to the left by fewer than 32 places. -/
def rotate (x n : UInt32) : UInt32 := (x <<< n) ||| (x >>> (32 - n))

/-- The bytes of a number, most significant first. -/
def bigEndian (count n : Nat) : List UInt8 :=
  (List.range count).reverse.map fun i => UInt8.ofNat (n >>> (8 * i))

/-- The message with a one bit, zeros up to a whole number of blocks less eight bytes, and its
length in bits. -/
def pad (message : List UInt8) : List UInt8 :=
  let zeros := (119 - message.length % 64) % 64
  message ++ 0x80 :: List.replicate zeros 0 ++ bigEndian 8 (8 * message.length)

def wordsOf : List UInt8 → List UInt32
  | a :: b :: c :: d :: rest =>
    ((a.toUInt32 <<< 24) ||| (b.toUInt32 <<< 16) ||| (c.toUInt32 <<< 8) ||| d.toUInt32)
      :: wordsOf rest
  | _ => []

/-- The next word of the expanded block; `recent` holds the words before it, last first. -/
def nextWord (recent : List UInt32) : UInt32 :=
  -- The words three, eight, fourteen and sixteen places back.
  rotate ((recent.getD 2 0) ^^^ (recent.getD 7 0) ^^^ (recent.getD 13 0) ^^^ (recent.getD 15 0)) 1

/-- A block of sixteen words expanded to eighty. -/
def expand (block : List UInt32) : List UInt32 :=
  ((List.range 64).foldl (fun recent _ => nextWord recent :: recent) block.reverse).reverse

/-- The function and the constant of a round. -/
def roundFunction (round : Nat) (b c d : UInt32) : UInt32 × UInt32 :=
  if round < 20 then ((b &&& c) ||| (~~~b &&& d), 0x5A827999)
  else if round < 40 then (b ^^^ c ^^^ d, 0x6ED9EBA1)
  else if round < 60 then ((b &&& c) ||| (b &&& d) ||| (c &&& d), 0x8F1BBCDC)
  else (b ^^^ c ^^^ d, 0xCA62C1D6)

def mix (s : State) (round : Nat) (word : UInt32) : State :=
  let (f, k) := roundFunction round s.b s.c s.d
  ⟨rotate s.a 5 + f + s.e + k + word, s.a, rotate s.b 30, s.c, s.d⟩

def absorb (s : State) (block : List UInt32) : State :=
  let t := (expand block).zipIdx.foldl (fun t w => mix t w.2 w.1) s
  ⟨s.a + t.a, s.b + t.b, s.c + t.c, s.d + t.d, s.e + t.e⟩

/-- Mix in blocks of sixteen words, `count` of them. -/
def absorbAll (s : State) : Nat → List UInt32 → State
  | 0, _ => s
  | count + 1, words => absorbAll (absorb s (words.take 16)) count (words.drop 16)

def State.toBytes (s : State) : List UInt8 :=
  [s.a, s.b, s.c, s.d, s.e].flatMap fun w => bigEndian 4 w.toNat

def sha1 (message : List UInt8) : List UInt8 :=
  let words := wordsOf (pad message)
  (absorbAll initial (words.length / 16) words).toBytes

end Digest
end FeatureFlags
