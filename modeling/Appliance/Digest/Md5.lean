import Appliance.Octets

/-!
# The MD5 digest

A message is padded with one set bit, zeros and its length in bits to a whole number of chunks of
sixteen words, and every chunk is mixed into a state of four words. Words of the message and of
the digest are least significant octet first. Nothing is assumed about collisions.
-/

namespace Appliance.Md5

/-- The four words that are carried from chunk to chunk. -/
structure State where
  a : UInt32
  b : UInt32
  c : UInt32
  d : UInt32
  deriving DecidableEq, Repr

/-- The state before the first chunk. -/
def State.start : State := ⟨0x67452301, 0xefcdab89, 0x98badcfe, 0x10325476⟩

/-- The sum of two states, word by word. -/
def State.add (s t : State) : State := ⟨s.a + t.a, s.b + t.b, s.c + t.c, s.d + t.d⟩

/-- The sixteen octets of a state, each word least significant octet first. -/
def State.toBlock (s : State) : Block :=
  ⟨(Word.ofUInt32 s.a).reverse, (Word.ofUInt32 s.b).reverse, (Word.ofUInt32 s.c).reverse,
    (Word.ofUInt32 s.d).reverse⟩

/-- A word turned left by a number of bits between 1 and 31. -/
def rotate (x : UInt32) (n : UInt32) : UInt32 := (x <<< n) ||| (x >>> (32 - n))

/-- The nonlinear functions of the four rounds. -/
inductive Mix where
  | select
  | selectBack
  | parity
  | spread
  deriving DecidableEq, Repr

/-- What a round's function makes of three state words. -/
def Mix.apply : Mix → UInt32 → UInt32 → UInt32 → UInt32
  | .select, b, c, d => (b &&& c) ||| (~~~b &&& d)
  | .selectBack, b, c, d => (d &&& b) ||| (~~~d &&& c)
  | .parity, b, c, d => b ^^^ c ^^^ d
  | .spread, b, c, d => c ^^^ (b ||| ~~~d)

/-- One of the sixty-four steps: its round's function, the message word it adds, its constant and
the number of bits it turns. -/
structure Step where
  mix : Mix
  word : Nat
  constant : UInt32
  turn : UInt32

/-- The message words and the constants of the steps of a round, whose turns repeat in fours. -/
def steps (mix : Mix) (turns : List UInt32) (table : List (Nat × UInt32)) : List Step :=
  (table.zip (turns ++ turns ++ turns ++ turns)).map fun ((word, constant), turn) =>
    ⟨mix, word, constant, turn⟩

/-- The sixty-four steps; the constants are the integer parts of 2³² · |sin i| for i from 1. -/
def schedule : List Step :=
  steps .select [7, 12, 17, 22]
    [(0, 0xd76aa478), (1, 0xe8c7b756), (2, 0x242070db), (3, 0xc1bdceee),
     (4, 0xf57c0faf), (5, 0x4787c62a), (6, 0xa8304613), (7, 0xfd469501),
     (8, 0x698098d8), (9, 0x8b44f7af), (10, 0xffff5bb1), (11, 0x895cd7be),
     (12, 0x6b901122), (13, 0xfd987193), (14, 0xa679438e), (15, 0x49b40821)] ++
  steps .selectBack [5, 9, 14, 20]
    [(1, 0xf61e2562), (6, 0xc040b340), (11, 0x265e5a51), (0, 0xe9b6c7aa),
     (5, 0xd62f105d), (10, 0x02441453), (15, 0xd8a1e681), (4, 0xe7d3fbc8),
     (9, 0x21e1cde6), (14, 0xc33707d6), (3, 0xf4d50d87), (8, 0x455a14ed),
     (13, 0xa9e3e905), (2, 0xfcefa3f8), (7, 0x676f02d9), (12, 0x8d2a4c8a)] ++
  steps .parity [4, 11, 16, 23]
    [(5, 0xfffa3942), (8, 0x8771f681), (11, 0x6d9d6122), (14, 0xfde5380c),
     (1, 0xa4beea44), (4, 0x4bdecfa9), (7, 0xf6bb4b60), (10, 0xbebfbc70),
     (13, 0x289b7ec6), (0, 0xeaa127fa), (3, 0xd4ef3085), (6, 0x04881d05),
     (9, 0xd9d4d039), (12, 0xe6db99e5), (15, 0x1fa27cf8), (2, 0xc4ac5665)] ++
  steps .spread [6, 10, 15, 21]
    [(0, 0xf4292244), (7, 0x432aff97), (14, 0xab9423a7), (5, 0xfc93a039),
     (12, 0x655b59c3), (3, 0x8f0ccc92), (10, 0xffeff47d), (1, 0x85845dd1),
     (8, 0x6fa87e4f), (15, 0xfe2ce6e0), (6, 0xa3014314), (13, 0x4e0811a1),
     (4, 0xf7537e82), (11, 0xbd3af235), (2, 0x2ad7d2bb), (9, 0xeb86d391)]

/-- The state after one step on the words of a chunk. -/
def State.step (words : Array UInt32) (s : State) (t : Step) : State :=
  let sum := s.a + t.mix.apply s.b s.c s.d + t.constant + words.getD t.word 0
  ⟨s.d, s.b + rotate sum t.turn, s.b, s.c⟩

/-- The state after a chunk of sixteen words. -/
def State.absorb (s : State) (words : Array UInt32) : State :=
  s.add (schedule.foldl (State.step words) s)

/-- The words of a list of octets, each least significant octet first, behind those already read
in reverse. -/
def wordsFrom : List UInt32 → Octets → List UInt32
  | done, a :: b :: c :: d :: rest => wordsFrom (Word.toUInt32 ⟨d, c, b, a⟩ :: done) rest
  | done, _ => done.reverse

/-- The state after the words of a padded message, a chunk of sixteen at a time. -/
def State.absorbAll : State → List UInt32 → State
  | s, w0 :: w1 :: w2 :: w3 :: w4 :: w5 :: w6 :: w7 :: w8 :: w9 :: w10 :: w11 :: w12 :: w13 :: w14 ::
      w15 :: rest =>
    (s.absorb #[w0, w1, w2, w3, w4, w5, w6, w7, w8, w9, w10, w11, w12, w13, w14, w15]).absorbAll
      rest
  | s, _ => s

/-- The octets that follow a message of a given number of octets: a set bit, zeros, and eight
octets of the number of its bits. -/
def padding (size : Nat) : Octets :=
  let bits := size * 8
  0x80 :: List.replicate ((119 - size % 64) % 64) 0 ++
    (List.range 8).map fun i => UInt8.ofNat (bits / Nat.pow 256 i)

/-- The digest of a message. -/
def digest (message : Octets) : Block :=
  (State.start.absorbAll (wordsFrom [] (message ++ padding message.length))).toBlock

end Appliance.Md5
