/-! # A 64-bit digest of bytes

XXH64 with seed zero. Stripes of thirty-two bytes go through four lanes; what is left after the last
whole stripe is folded in by words of eight bytes, then four, then single bytes.
-/
namespace RoundTrip.Digest

def prime1 : UInt64 := 0x9E3779B185EBCA87
def prime2 : UInt64 := 0xC2B2AE3D27D4EB4F
def prime3 : UInt64 := 0x165667B19E3779F9
def prime4 : UInt64 := 0x85EBCA77C2B2AE63
def prime5 : UInt64 := 0x27D4EB2F165667C5

def rotateLeft (x : UInt64) (n : UInt64) : UInt64 := (x <<< n) ||| (x >>> (64 - n))

/-- Mixes one word into a lane. -/
def round (lane word : UInt64) : UInt64 := rotateLeft (lane + word * prime2) 31 * prime1

/-- Four bytes, the least significant first. -/
def word32 (a b c d : UInt8) : UInt64 :=
  a.toUInt64 ||| (b.toUInt64 <<< 8) ||| (c.toUInt64 <<< 16) ||| (d.toUInt64 <<< 24)

/-- Eight bytes, the least significant first. -/
def word64 (a b c d e f g h : UInt8) : UInt64 := word32 a b c d ||| (word32 e f g h <<< 32)

/-- Cuts bytes into words of eight, after the words in `done` (last first), and the bytes left. -/
def cut (done : List UInt64) : List UInt8 → List UInt64 × List UInt8
  | a :: b :: c :: d :: e :: f :: g :: h :: rest => cut (word64 a b c d e f g h :: done) rest
  | rest => (done.reverse, rest)

structure Lanes where
  first : UInt64
  second : UInt64
  third : UInt64
  fourth : UInt64

def Lanes.start : Lanes := ⟨prime1 + prime2, prime2, 0, 0 - prime1⟩

/-- Takes whole stripes of four words into the lanes. -/
def Lanes.absorb (lanes : Lanes) : List UInt64 → Lanes × List UInt64
  | a :: b :: c :: d :: rest =>
      Lanes.absorb ⟨round lanes.first a, round lanes.second b, round lanes.third c,
        round lanes.fourth d⟩ rest
  | rest => (lanes, rest)

def mergeLane (sum lane : UInt64) : UInt64 := (sum ^^^ round 0 lane) * prime1 + prime4

/-- The four lanes in one word. -/
def Lanes.merge (lanes : Lanes) : UInt64 :=
  let sum := rotateLeft lanes.first 1 + rotateLeft lanes.second 7 + rotateLeft lanes.third 12 +
    rotateLeft lanes.fourth 18
  mergeLane (mergeLane (mergeLane (mergeLane sum lanes.first) lanes.second) lanes.third)
    lanes.fourth

def addWord64 (sum word : UInt64) : UInt64 :=
  rotateLeft (sum ^^^ round 0 word) 27 * prime1 + prime4

def addWord32 (sum word : UInt64) : UInt64 :=
  rotateLeft (sum ^^^ (word * prime1)) 23 * prime2 + prime3

def addByte (sum : UInt64) (byte : UInt8) : UInt64 :=
  rotateLeft (sum ^^^ (byte.toUInt64 * prime5)) 11 * prime1

/-- Folds in the last bytes, fewer than eight. -/
def addTail (sum : UInt64) : List UInt8 → UInt64
  | a :: b :: c :: d :: rest => rest.foldl addByte (addWord32 sum (word32 a b c d))
  | rest => rest.foldl addByte sum

/-- Spreads every input bit over the whole word. -/
def avalanche (sum : UInt64) : UInt64 :=
  let a := (sum ^^^ (sum >>> 33)) * prime2
  let b := (a ^^^ (a >>> 29)) * prime3
  b ^^^ (b >>> 32)

/-- The digest of a byte string. -/
def ofBytes (bytes : List UInt8) : UInt64 :=
  let (words, tail) := cut [] bytes
  let (lanes, words) := Lanes.start.absorb words
  let sum := if bytes.length < 32 then prime5 else lanes.merge
  avalanche (addTail (words.foldl addWord64 (sum + bytes.length.toUInt64)) tail)

example : ofBytes [] = 0xEF46DB3751D8E999 := by decide

end RoundTrip.Digest
