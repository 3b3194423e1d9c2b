import Appliance.Cipher.Aes
import Appliance.Cipher.Padding

/-!
# Chained blocks

A padded text is enciphered block by block, each block first combined with the cipher block before
it, the first one with an initial vector. Deciphering refuses what is not a positive number of
whole blocks and what does not end in a padding.
-/

namespace Appliance.Cbc

open Aes (Schedule)

/-- The blocks of a list of octets behind those already read in reverse, if nothing is left over.
The first argument bounds the number of blocks. -/
def blocksFrom : Nat → List Block → Octets → Option (List Block)
  | _, done, [] => some done.reverse
  | 0, _, _ => none
  | n + 1, done, xs =>
    match Block.take? xs with
    | none => none
    | some (b, rest) => blocksFrom n (b :: done) rest

/-- The blocks that a list of octets consists of. -/
def blocks? (xs : Octets) : Option (List Block) := blocksFrom (xs.length / 16) [] xs

/-- The octets of a list of blocks. -/
def flatten (bs : List Block) : Octets := bs.flatMap Block.toOctets

/-- Enciphers blocks in a chain, behind the cipher blocks already made in reverse. -/
def chain (keys : Schedule) : Block → List Block → List Block → List Block
  | _, done, [] => done.reverse
  | previous, done, b :: bs =>
    let c := keys.encipher (b.xor previous)
    chain keys c (c :: done) bs

/-- Deciphers a chain of blocks, behind the blocks already read in reverse. -/
def unchain (keys : Schedule) : Block → List Block → List Block → List Block
  | _, done, [] => done.reverse
  | previous, done, c :: cs => unchain keys c ((keys.decipher c).xor previous :: done) cs

/-- A text enciphered under a key and an initial vector. -/
def encrypt (key iv : Block) (text : Octets) : Octets :=
  flatten (chain (Schedule.ofKey key) iv [] ((blocks? (Padding.add text)).getD []))

/-- The text of a cipher text, if it is a positive number of blocks that end in a padding. -/
def decrypt? (key iv : Block) (cipher : Octets) : Option Octets :=
  match blocks? cipher with
  | none => none
  | some bs => Padding.strip? (flatten (unchain (Schedule.ofKey key) iv [] bs))

end Appliance.Cbc
