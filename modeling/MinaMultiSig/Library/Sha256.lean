/-!
# SHA-256

The hash over lists of bytes: the padding, the schedule of a block and the
compression of the blocks, one after the other. A digest has 32 bytes.
-/

namespace Sha256

/-- The eight words that the blocks are compressed into. -/
structure Words where
  a : UInt32
  b : UInt32
  c : UInt32
  d : UInt32
  e : UInt32
  f : UInt32
  g : UInt32
  h : UInt32

/-- The first bits of the roots of the first eight primes. -/
def initial : Words :=
  { a := 0x6a09e667, b := 0xbb67ae85, c := 0x3c6ef372, d := 0xa54ff53a
    e := 0x510e527f, f := 0x9b05688c, g := 0x1f83d9ab, h := 0x5be0cd19 }

/-- The first bits of the cube roots of the first 64 primes. -/
def roundConstants : List UInt32 :=
  [ 0x428a2f98, 0x71374491, 0xb5c0fbcf, 0xe9b5dba5, 0x3956c25b, 0x59f111f1,
    0x923f82a4, 0xab1c5ed5, 0xd807aa98, 0x12835b01, 0x243185be, 0x550c7dc3,
    0x72be5d74, 0x80deb1fe, 0x9bdc06a7, 0xc19bf174, 0xe49b69c1, 0xefbe4786,
    0x0fc19dc6, 0x240ca1cc, 0x2de92c6f, 0x4a7484aa, 0x5cb0a9dc, 0x76f988da,
    0x983e5152, 0xa831c66d, 0xb00327c8, 0xbf597fc7, 0xc6e00bf3, 0xd5a79147,
    0x06ca6351, 0x14292967, 0x27b70a85, 0x2e1b2138, 0x4d2c6dfc, 0x53380d13,
    0x650a7354, 0x766a0abb, 0x81c2c92e, 0x92722c85, 0xa2bfe8a1, 0xa81a664b,
    0xc24b8b70, 0xc76c51a3, 0xd192e819, 0xd6990624, 0xf40e3585, 0x106aa070,
    0x19a4c116, 0x1e376c08, 0x2748774c, 0x34b0bcb5, 0x391c0cb3, 0x4ed8aa4a,
    0x5b9cca4f, 0x682e6ff3, 0x748f82ee, 0x78a5636f, 0x84c87814, 0x8cc70208,
    0x90befffa, 0xa4506ceb, 0xbef9a3f7, 0xc67178f2 ]

/-- The bits of a word moved to the right and around. -/
def rotateRight (word count : UInt32) : UInt32 :=
  (word >>> count) ||| (word <<< (32 - count))

/-- Each bit of `y` or `z`, by the bit of `x`. -/
def choose (x y z : UInt32) : UInt32 :=
  (x &&& y) ^^^ (~~~x &&& z)

/-- The bits that most of three words have. -/
def majority (x y z : UInt32) : UInt32 :=
  (x &&& y) ^^^ (x &&& z) ^^^ (y &&& z)

/-- The mixing of the first word of a round. -/
def bigSigmaZero (x : UInt32) : UInt32 :=
  rotateRight x 2 ^^^ rotateRight x 13 ^^^ rotateRight x 22

/-- The mixing of the fifth word of a round. -/
def bigSigmaOne (x : UInt32) : UInt32 :=
  rotateRight x 6 ^^^ rotateRight x 11 ^^^ rotateRight x 25

/-- The mixing of the word fifteen places before in the schedule. -/
def smallSigmaZero (x : UInt32) : UInt32 :=
  rotateRight x 7 ^^^ rotateRight x 18 ^^^ (x >>> 3)

/-- The mixing of the word two places before in the schedule. -/
def smallSigmaOne (x : UInt32) : UInt32 :=
  rotateRight x 17 ^^^ rotateRight x 19 ^^^ (x >>> 10)

/-- Put more words in front of the schedule, whose last word comes first. -/
def extend : Nat → List UInt32 → List UInt32
  | 0, words => words
  | count + 1, words =>
      extend count
        ((smallSigmaOne (words.getD 1 0) + words.getD 6 0 +
          smallSigmaZero (words.getD 14 0) + words.getD 15 0) :: words)

/-- The words of bytes, the most significant byte first. -/
def toWords : List UInt8 → List UInt32
  | first :: second :: third :: fourth :: rest =>
      (first.toUInt32 <<< 24 ||| second.toUInt32 <<< 16 |||
        third.toUInt32 <<< 8 ||| fourth.toUInt32) :: toWords rest
  | _ => []

/-- The bytes of a word, the most significant one first. -/
def toBytes (word : UInt32) : List UInt8 :=
  [(word >>> 24).toUInt8, (word >>> 16).toUInt8, (word >>> 8).toUInt8,
    word.toUInt8]

/-- The 64 words of a block. -/
def schedule (block : List UInt8) : List UInt32 :=
  (extend 48 (toWords block).reverse).reverse

/-- One round with its constant and its word. -/
def round (words : Words) (entry : UInt32 × UInt32) : Words :=
  let first := words.h + bigSigmaOne words.e +
    choose words.e words.f words.g + entry.1 + entry.2
  let second := bigSigmaZero words.a + majority words.a words.b words.c
  { a := first + second
    b := words.a
    c := words.b
    d := words.c
    e := words.d + first
    f := words.e
    g := words.f
    h := words.g }

/-- The sums of the words. -/
def Words.add (first second : Words) : Words :=
  { a := first.a + second.a
    b := first.b + second.b
    c := first.c + second.c
    d := first.d + second.d
    e := first.e + second.e
    f := first.f + second.f
    g := first.g + second.g
    h := first.h + second.h }

/-- Compress a block: 64 rounds, and the words before them added. -/
def compress (words : Words) (block : List UInt8) : Words :=
  words.add ((roundConstants.zip (schedule block)).foldl round words)

/-- Compress as many blocks of 64 bytes. -/
def compressBlocks : Nat → Words → List UInt8 → Words
  | 0, words, _ => words
  | count + 1, words, bytes =>
      compressBlocks count (compress words (bytes.take 64)) (bytes.drop 64)

/-- The length of the bytes in bits, in eight bytes. -/
def lengthBytes (length : Nat) : List UInt8 :=
  (List.range 8).map fun index =>
    UInt8.ofNat ((length * 8) >>> (8 * (7 - index)))

/-- The bytes, a bit, zeros and the length: a multiple of 64 bytes. -/
def pad (bytes : List UInt8) : List UInt8 :=
  bytes ++ 0x80 :: (List.replicate ((119 - bytes.length % 64) % 64) 0 ++
    lengthBytes bytes.length)

/-- The hash of bytes. -/
def digest (bytes : List UInt8) : List UInt8 :=
  let words := compressBlocks ((pad bytes).length / 64) initial (pad bytes)
  [words.a, words.b, words.c, words.d, words.e, words.f, words.g,
    words.h].flatMap toBytes

theorem length_digest (bytes : List UInt8) : (digest bytes).length = 32 := by
  rfl

example : (digest []).take 4 = [0xe3, 0xb0, 0xc4, 0x42] := by
  decide +kernel

end Sha256
