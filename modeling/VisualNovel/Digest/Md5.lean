/-
MD5 of a byte sequence, as lower-case hex. The message is padded to whole blocks of 64 bytes (`padMessage`), each block
is read as 16 little-endian words, and 64 rounds mix it into a chaining value of four words (`absorb`). It identifies a
screenplay in its saves; nothing here relies on it being hard to collide.
-/
namespace VisualNovel.Digest.Md5

/-- the four words that carry the digest from block to block -/
structure Chain where
  a : UInt32
  b : UInt32
  c : UInt32
  d : UInt32

/-- the chaining value before the first block -/
def start : Chain := ⟨0x67452301, 0xefcdab89, 0x98badcfe, 0x10325476⟩

/-- one constant per round: the integer part of 2^32 · |sin (i + 1)| -/
def sines : Array UInt32 := #[
  0xd76aa478, 0xe8c7b756, 0x242070db, 0xc1bdceee, 0xf57c0faf, 0x4787c62a, 0xa8304613, 0xfd469501,
  0x698098d8, 0x8b44f7af, 0xffff5bb1, 0x895cd7be, 0x6b901122, 0xfd987193, 0xa679438e, 0x49b40821,
  0xf61e2562, 0xc040b340, 0x265e5a51, 0xe9b6c7aa, 0xd62f105d, 0x02441453, 0xd8a1e681, 0xe7d3fbc8,
  0x21e1cde6, 0xc33707d6, 0xf4d50d87, 0x455a14ed, 0xa9e3e905, 0xfcefa3f8, 0x676f02d9, 0x8d2a4c8a,
  0xfffa3942, 0x8771f681, 0x6d9d6122, 0xfde5380c, 0xa4beea44, 0x4bdecfa9, 0xf6bb4b60, 0xbebfbc70,
  0x289b7ec6, 0xeaa127fa, 0xd4ef3085, 0x04881d05, 0xd9d4d039, 0xe6db99e5, 0x1fa27cf8, 0xc4ac5665,
  0xf4292244, 0x432aff97, 0xab9423a7, 0xfc93a039, 0x655b59c3, 0x8f0ccc92, 0xffeff47d, 0x85845dd1,
  0x6fa87e4f, 0xfe2ce6e0, 0xa3014314, 0x4e0811a1, 0xf7537e82, 0xbd3af235, 0x2ad7d2bb, 0xeb86d391]

/-- how far round `i` rotates: four amounts per group of 16 rounds, taken in turn -/
def rotation (i : Nat) : UInt32 :=
  let amounts : List (List UInt32) := [[7, 12, 17, 22], [5, 9, 14, 20], [4, 11, 16, 23], [6, 10, 15, 21]]
  (amounts.getD (i / 16) []).getD (i % 4) 0

/-- rotate a word to the left; the amount lies strictly between 0 and 32 -/
def rotateLeft (w amount : UInt32) : UInt32 := (w <<< amount) ||| (w >>> (32 - amount))

/-- the word of the block that round `i` uses, and the round's mix of the chaining value -/
def mix (s : Chain) (i : Nat) : UInt32 × Nat :=
  if i < 16 then ((s.b &&& s.c) ||| (~~~s.b &&& s.d), i)
  else if i < 32 then ((s.d &&& s.b) ||| (~~~s.d &&& s.c), (5 * i + 1) % 16)
  else if i < 48 then (s.b ^^^ s.c ^^^ s.d, (3 * i + 5) % 16)
  else (s.c ^^^ (s.b ||| ~~~s.d), (7 * i) % 16)

/-- round `i` on a block of 16 words -/
def round (block : Array UInt32) (s : Chain) (i : Nat) : Chain :=
  let (f, word) := mix s i
  let sum := f + s.a + sines.getD i 0 + block.getD word 0
  ⟨s.d, s.b + rotateLeft sum (rotation i), s.b, s.c⟩

/-- mix one block into the chaining value -/
def absorb (s : Chain) (block : Array UInt32) : Chain :=
  let t := (List.range 64).foldl (round block) s
  ⟨s.a + t.a, s.b + t.b, s.c + t.c, s.d + t.d⟩

/-- the low byte of `n` shifted right by `8 * i` bits -/
def byteAt (n i : Nat) : UInt8 := (n >>> (8 * i)).toUInt8

/-- the message, a one bit, zeros up to 56 bytes into a block, and the length in bits in eight bytes -/
def padMessage (bytes : ByteArray) : ByteArray :=
  let zeros := (119 - bytes.size % 64) % 64
  let tail := 0x80 :: List.replicate zeros 0 ++ (List.range 8).map (byteAt (8 * bytes.size))
  tail.foldl ByteArray.push bytes

/-- the little-endian word at byte `i` -/
def wordAt (bytes : ByteArray) (i : Nat) : UInt32 :=
  let byte (k : Nat) : UInt32 := if h : i + k < bytes.size then bytes[i + k].toUInt32 else 0
  byte 0 ||| (byte 1 <<< 8) ||| (byte 2 <<< 16) ||| (byte 3 <<< 24)

/-- the 16 words of block `n` -/
def blockAt (bytes : ByteArray) (n : Nat) : Array UInt32 :=
  ((List.range 16).map fun k => wordAt bytes (64 * n + 4 * k)).toArray

/-- the chaining value after the whole message -/
def chain (bytes : ByteArray) : Chain :=
  let padded := padMessage bytes
  (List.range (padded.size / 64)).foldl (fun s n => absorb s (blockAt padded n)) start

/-- one hex digit, lower case -/
def hexDigit (n : Nat) : Char := "0123456789abcdef".toList.getD n '0'

/-- a byte as two hex digits -/
def hexByte (b : UInt8) : List Char := [hexDigit (b.toNat / 16), hexDigit (b.toNat % 16)]

/-- a word as eight hex digits, lowest byte first -/
def hexWord (w : UInt32) : List Char := (List.range 4).flatMap fun i => hexByte (byteAt w.toNat i)

/-- the digest as 32 lower-case hex digits -/
def hex (bytes : ByteArray) : String :=
  let s := chain bytes
  String.ofList (hexWord s.a ++ hexWord s.b ++ hexWord s.c ++ hexWord s.d)

end VisualNovel.Digest.Md5
