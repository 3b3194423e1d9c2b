import Appliance.Octets

/-!
# The AES-128 block cipher

The cipher of FIPS 197 on a state whose four words are its columns. A key is expanded once to
eleven round keys; enciphering folds the rounds over them, and deciphering undoes the same rounds
in the opposite order, so that each step stands opposite the one that it undoes.
-/

namespace Appliance.Aes

/-- The substitution box. -/
def sbox : Array UInt8 := #[
  0x63, 0x7c, 0x77, 0x7b, 0xf2, 0x6b, 0x6f, 0xc5, 0x30, 0x01, 0x67, 0x2b, 0xfe, 0xd7, 0xab, 0x76,
  0xca, 0x82, 0xc9, 0x7d, 0xfa, 0x59, 0x47, 0xf0, 0xad, 0xd4, 0xa2, 0xaf, 0x9c, 0xa4, 0x72, 0xc0,
  0xb7, 0xfd, 0x93, 0x26, 0x36, 0x3f, 0xf7, 0xcc, 0x34, 0xa5, 0xe5, 0xf1, 0x71, 0xd8, 0x31, 0x15,
  0x04, 0xc7, 0x23, 0xc3, 0x18, 0x96, 0x05, 0x9a, 0x07, 0x12, 0x80, 0xe2, 0xeb, 0x27, 0xb2, 0x75,
  0x09, 0x83, 0x2c, 0x1a, 0x1b, 0x6e, 0x5a, 0xa0, 0x52, 0x3b, 0xd6, 0xb3, 0x29, 0xe3, 0x2f, 0x84,
  0x53, 0xd1, 0x00, 0xed, 0x20, 0xfc, 0xb1, 0x5b, 0x6a, 0xcb, 0xbe, 0x39, 0x4a, 0x4c, 0x58, 0xcf,
  0xd0, 0xef, 0xaa, 0xfb, 0x43, 0x4d, 0x33, 0x85, 0x45, 0xf9, 0x02, 0x7f, 0x50, 0x3c, 0x9f, 0xa8,
  0x51, 0xa3, 0x40, 0x8f, 0x92, 0x9d, 0x38, 0xf5, 0xbc, 0xb6, 0xda, 0x21, 0x10, 0xff, 0xf3, 0xd2,
  0xcd, 0x0c, 0x13, 0xec, 0x5f, 0x97, 0x44, 0x17, 0xc4, 0xa7, 0x7e, 0x3d, 0x64, 0x5d, 0x19, 0x73,
  0x60, 0x81, 0x4f, 0xdc, 0x22, 0x2a, 0x90, 0x88, 0x46, 0xee, 0xb8, 0x14, 0xde, 0x5e, 0x0b, 0xdb,
  0xe0, 0x32, 0x3a, 0x0a, 0x49, 0x06, 0x24, 0x5c, 0xc2, 0xd3, 0xac, 0x62, 0x91, 0x95, 0xe4, 0x79,
  0xe7, 0xc8, 0x37, 0x6d, 0x8d, 0xd5, 0x4e, 0xa9, 0x6c, 0x56, 0xf4, 0xea, 0x65, 0x7a, 0xae, 0x08,
  0xba, 0x78, 0x25, 0x2e, 0x1c, 0xa6, 0xb4, 0xc6, 0xe8, 0xdd, 0x74, 0x1f, 0x4b, 0xbd, 0x8b, 0x8a,
  0x70, 0x3e, 0xb5, 0x66, 0x48, 0x03, 0xf6, 0x0e, 0x61, 0x35, 0x57, 0xb9, 0x86, 0xc1, 0x1d, 0x9e,
  0xe1, 0xf8, 0x98, 0x11, 0x69, 0xd9, 0x8e, 0x94, 0x9b, 0x1e, 0x87, 0xe9, 0xce, 0x55, 0x28, 0xdf,
  0x8c, 0xa1, 0x89, 0x0d, 0xbf, 0xe6, 0x42, 0x68, 0x41, 0x99, 0x2d, 0x0f, 0xb0, 0x54, 0xbb, 0x16]

/-- The inverse substitution box. -/
def inverseSbox : Array UInt8 := #[
  0x52, 0x09, 0x6a, 0xd5, 0x30, 0x36, 0xa5, 0x38, 0xbf, 0x40, 0xa3, 0x9e, 0x81, 0xf3, 0xd7, 0xfb,
  0x7c, 0xe3, 0x39, 0x82, 0x9b, 0x2f, 0xff, 0x87, 0x34, 0x8e, 0x43, 0x44, 0xc4, 0xde, 0xe9, 0xcb,
  0x54, 0x7b, 0x94, 0x32, 0xa6, 0xc2, 0x23, 0x3d, 0xee, 0x4c, 0x95, 0x0b, 0x42, 0xfa, 0xc3, 0x4e,
  0x08, 0x2e, 0xa1, 0x66, 0x28, 0xd9, 0x24, 0xb2, 0x76, 0x5b, 0xa2, 0x49, 0x6d, 0x8b, 0xd1, 0x25,
  0x72, 0xf8, 0xf6, 0x64, 0x86, 0x68, 0x98, 0x16, 0xd4, 0xa4, 0x5c, 0xcc, 0x5d, 0x65, 0xb6, 0x92,
  0x6c, 0x70, 0x48, 0x50, 0xfd, 0xed, 0xb9, 0xda, 0x5e, 0x15, 0x46, 0x57, 0xa7, 0x8d, 0x9d, 0x84,
  0x90, 0xd8, 0xab, 0x00, 0x8c, 0xbc, 0xd3, 0x0a, 0xf7, 0xe4, 0x58, 0x05, 0xb8, 0xb3, 0x45, 0x06,
  0xd0, 0x2c, 0x1e, 0x8f, 0xca, 0x3f, 0x0f, 0x02, 0xc1, 0xaf, 0xbd, 0x03, 0x01, 0x13, 0x8a, 0x6b,
  0x3a, 0x91, 0x11, 0x41, 0x4f, 0x67, 0xdc, 0xea, 0x97, 0xf2, 0xcf, 0xce, 0xf0, 0xb4, 0xe6, 0x73,
  0x96, 0xac, 0x74, 0x22, 0xe7, 0xad, 0x35, 0x85, 0xe2, 0xf9, 0x37, 0xe8, 0x1c, 0x75, 0xdf, 0x6e,
  0x47, 0xf1, 0x1a, 0x71, 0x1d, 0x29, 0xc5, 0x89, 0x6f, 0xb7, 0x62, 0x0e, 0xaa, 0x18, 0xbe, 0x1b,
  0xfc, 0x56, 0x3e, 0x4b, 0xc6, 0xd2, 0x79, 0x20, 0x9a, 0xdb, 0xc0, 0xfe, 0x78, 0xcd, 0x5a, 0xf4,
  0x1f, 0xdd, 0xa8, 0x33, 0x88, 0x07, 0xc7, 0x31, 0xb1, 0x12, 0x10, 0x59, 0x27, 0x80, 0xec, 0x5f,
  0x60, 0x51, 0x7f, 0xa9, 0x19, 0xb5, 0x4a, 0x0d, 0x2d, 0xe5, 0x7a, 0x9f, 0x93, 0xc9, 0x9c, 0xef,
  0xa0, 0xe0, 0x3b, 0x4d, 0xae, 0x2a, 0xf5, 0xb0, 0xc8, 0xeb, 0xbb, 0x3c, 0x83, 0x53, 0x99, 0x61,
  0x17, 0x2b, 0x04, 0x7e, 0xba, 0x77, 0xd6, 0x26, 0xe1, 0x69, 0x14, 0x63, 0x55, 0x21, 0x0c, 0x7d]

/-- An octet through the substitution box. -/
def substitute (x : UInt8) : UInt8 := sbox.getD x.toNat 0

/-- An octet back through the substitution box. -/
def unsubstitute (x : UInt8) : UInt8 := inverseSbox.getD x.toNat 0

/-- An octet, taken as a polynomial over two elements, times x modulo x⁸ + x⁴ + x³ + x + 1. -/
def double (x : UInt8) : UInt8 := (x <<< 1) ^^^ (if x < 128 then 0 else 0x1b)

/-- Rotates the i-th octets of the columns i columns to the left. -/
def shiftRows (s : Block) : Block :=
  ⟨⟨s.w0.a, s.w1.b, s.w2.c, s.w3.d⟩, ⟨s.w1.a, s.w2.b, s.w3.c, s.w0.d⟩,
    ⟨s.w2.a, s.w3.b, s.w0.c, s.w1.d⟩, ⟨s.w3.a, s.w0.b, s.w1.c, s.w2.d⟩⟩

/-- Rotates the i-th octets of the columns i columns to the right. -/
def unshiftRows (s : Block) : Block :=
  ⟨⟨s.w0.a, s.w3.b, s.w2.c, s.w1.d⟩, ⟨s.w1.a, s.w0.b, s.w3.c, s.w2.d⟩,
    ⟨s.w2.a, s.w1.b, s.w0.c, s.w3.d⟩, ⟨s.w3.a, s.w2.b, s.w1.c, s.w0.d⟩⟩

/-- A column times the circulant matrix of 2, 3, 1, 1. -/
def mixColumn (w : Word) : Word :=
  let triple (x : UInt8) := double x ^^^ x
  ⟨double w.a ^^^ triple w.b ^^^ w.c ^^^ w.d, w.a ^^^ double w.b ^^^ triple w.c ^^^ w.d,
    w.a ^^^ w.b ^^^ double w.c ^^^ triple w.d, triple w.a ^^^ w.b ^^^ w.c ^^^ double w.d⟩

/-- A column times the circulant matrix of 14, 11, 13, 9, the inverse of that of 2, 3, 1, 1. -/
def unmixColumn (w : Word) : Word :=
  let times9 (x : UInt8) := double (double (double x)) ^^^ x
  let times11 (x : UInt8) := double (double (double x)) ^^^ double x ^^^ x
  let times13 (x : UInt8) := double (double (double x)) ^^^ double (double x) ^^^ x
  let times14 (x : UInt8) := double (double (double x)) ^^^ double (double x) ^^^ double x
  ⟨times14 w.a ^^^ times11 w.b ^^^ times13 w.c ^^^ times9 w.d,
    times9 w.a ^^^ times14 w.b ^^^ times11 w.c ^^^ times13 w.d,
    times13 w.a ^^^ times9 w.b ^^^ times14 w.c ^^^ times11 w.d,
    times11 w.a ^^^ times13 w.b ^^^ times9 w.c ^^^ times14 w.d⟩

/-- Every column mixed. -/
def mixColumns (s : Block) : Block :=
  ⟨mixColumn s.w0, mixColumn s.w1, mixColumn s.w2, mixColumn s.w3⟩

/-- Every column unmixed. -/
def unmixColumns (s : Block) : Block :=
  ⟨unmixColumn s.w0, unmixColumn s.w1, unmixColumn s.w2, unmixColumn s.w3⟩

/-- The round key after another one, given the constant of its round. -/
def nextKey (constant : UInt8) (k : Block) : Block :=
  let t : Word := ⟨substitute k.w3.b ^^^ constant, substitute k.w3.c, substitute k.w3.d,
    substitute k.w3.a⟩
  let w0 := k.w0.xor t
  let w1 := k.w1.xor w0
  let w2 := k.w2.xor w1
  ⟨w0, w1, w2, k.w3.xor w2⟩

/-- The round keys after a given one, one for each constant. -/
def expand : List UInt8 → Block → List Block
  | [], _ => []
  | constant :: rest, k => nextKey constant k :: expand rest (nextKey constant k)

/-- A key expanded: what is added before the first round, and what each round adds. -/
structure Schedule where
  whitening : Block
  rounds : List Block

/-- The key schedule of a key. -/
def Schedule.ofKey (key : Block) : Schedule :=
  ⟨key, expand [0x01, 0x02, 0x04, 0x08, 0x10, 0x20, 0x40, 0x80, 0x1b, 0x36] key⟩

/-- The rounds, of which the last does not mix columns. -/
def runRounds : List Block → Block → Block
  | [], s => s
  | [k], s => (shiftRows (s.map substitute)).xor k
  | k :: ks, s => runRounds ks ((mixColumns (shiftRows (s.map substitute))).xor k)

/-- The rounds undone, the last one first. -/
def undoRounds : List Block → Block → Block
  | [], s => s
  | [k], s => (unshiftRows (s.xor k)).map unsubstitute
  | k :: ks, s => (unshiftRows (unmixColumns ((undoRounds ks s).xor k))).map unsubstitute

/-- One block enciphered. -/
def Schedule.encipher (keys : Schedule) (s : Block) : Block :=
  runRounds keys.rounds (s.xor keys.whitening)

/-- One block deciphered. -/
def Schedule.decipher (keys : Schedule) (s : Block) : Block :=
  (undoRounds keys.rounds s).xor keys.whitening

end Appliance.Aes
