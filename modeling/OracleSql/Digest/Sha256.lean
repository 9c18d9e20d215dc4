/-
This file computes the SHA-256 digest of a byte string. The message is padded to whole blocks of 64
bytes; each block is spread to a schedule of 64 words, and 64 rounds mix the schedule into a state
of eight words. The digest is the last state, byte by byte.
-/

namespace OracleSql.Sha256

/-! ### Words and bytes -/

/-- The word turned right by `places` bits. -/
def turned (word : UInt32) (places : UInt32) : UInt32 :=
  (word >>> places) ||| (word <<< (32 - places))

/-- The word that four bytes write, the high byte first. -/
def wordOf (bytes : List UInt8) : UInt32 :=
  bytes.foldl (fun word byte => (word <<< 8) ||| byte.toUInt32) 0

/-- The bytes of a number, `count` of them, the high one first. -/
def bytesOf : (count number : Nat) → List UInt8
  | 0, _ => []
  | count + 1, number => UInt8.ofNat (number >>> (8 * count)) :: bytesOf count number

/-- The message with a one bit, zeros and its length in bits, up to a multiple of 64 bytes. -/
def padded (message : List UInt8) : List UInt8 :=
  let zeros := (119 - message.length % 64) % 64
  message ++ 0x80 :: List.replicate zeros 0 ++ bytesOf 8 (8 * message.length)

/-- The list cut into pieces of `size` elements, as many as `count`. -/
def pieces {α : Type} (size : Nat) : (count : Nat) → List α → List (List α)
  | 0, _ => []
  | count + 1, items => items.take size :: pieces size count (items.drop size)

/-! ### Rounds -/

/-- The first 32 bits of the fractions of the cube roots of the first 64 primes. -/
def roundConstants : List UInt32 := [
  0x428a2f98, 0x71374491, 0xb5c0fbcf, 0xe9b5dba5, 0x3956c25b, 0x59f111f1, 0x923f82a4, 0xab1c5ed5,
  0xd807aa98, 0x12835b01, 0x243185be, 0x550c7dc3, 0x72be5d74, 0x80deb1fe, 0x9bdc06a7, 0xc19bf174,
  0xe49b69c1, 0xefbe4786, 0x0fc19dc6, 0x240ca1cc, 0x2de92c6f, 0x4a7484aa, 0x5cb0a9dc, 0x76f988da,
  0x983e5152, 0xa831c66d, 0xb00327c8, 0xbf597fc7, 0xc6e00bf3, 0xd5a79147, 0x06ca6351, 0x14292967,
  0x27b70a85, 0x2e1b2138, 0x4d2c6dfc, 0x53380d13, 0x650a7354, 0x766a0abb, 0x81c2c92e, 0x92722c85,
  0xa2bfe8a1, 0xa81a664b, 0xc24b8b70, 0xc76c51a3, 0xd192e819, 0xd6990624, 0xf40e3585, 0x106aa070,
  0x19a4c116, 0x1e376c08, 0x2748774c, 0x34b0bcb5, 0x391c0cb3, 0x4ed8aa4a, 0x5b9cca4f, 0x682e6ff3,
  0x748f82ee, 0x78a5636f, 0x84c87814, 0x8cc70208, 0x90befffa, 0xa4506ceb, 0xbef9a3f7, 0xc67178f2]

/-- The eight words of a state. -/
structure State where
  (a b c d e f g h : UInt32)

/-- The first 32 bits of the fractions of the square roots of the first eight primes. -/
def State.initial : State :=
  ⟨0x6a09e667, 0xbb67ae85, 0x3c6ef372, 0xa54ff53a, 0x510e527f, 0x9b05688c, 0x1f83d9ab, 0x5be0cd19⟩

/-- Extends a schedule, held with its last word first, by `count` words. -/
def extended : (count : Nat) → List UInt32 → List UInt32
  | 0, words => words
  | count + 1, words =>
    let word := fun distance => words.getD (distance - 1) 0
    let near := turned (word 2) 17 ^^^ turned (word 2) 19 ^^^ (word 2 >>> 10)
    let far := turned (word 15) 7 ^^^ turned (word 15) 18 ^^^ (word 15 >>> 3)
    extended count ((near + word 7 + far + word 16) :: words)

/-- The schedule of a block: its 16 words and 48 more. -/
def schedule (block : List UInt8) : List UInt32 :=
  (extended 48 ((pieces 4 16 block).map wordOf).reverse).reverse

/-- One round: a word of the schedule with its constant enters the state. -/
def State.round (state : State) (input : UInt32 × UInt32) : State :=
  let ⟨a, b, c, d, e, f, g, h⟩ := state
  let mixed := turned e 6 ^^^ turned e 11 ^^^ turned e 25
  let chosen := (e &&& f) ^^^ (~~~e &&& g)
  let first := h + mixed + chosen + input.1 + input.2
  let spread := turned a 2 ^^^ turned a 13 ^^^ turned a 22
  let majority := (a &&& b) ^^^ (a &&& c) ^^^ (b &&& c)
  ⟨first + (spread + majority), a, b, c, d + first, e, f, g⟩

/-- The state after a block: the rounds, then the state before them added word by word. -/
def State.block (state : State) (block : List UInt8) : State :=
  let mixed := ((schedule block).zip roundConstants).foldl State.round state
  ⟨state.a + mixed.a, state.b + mixed.b, state.c + mixed.c, state.d + mixed.d,
    state.e + mixed.e, state.f + mixed.f, state.g + mixed.g, state.h + mixed.h⟩

/-- The bytes of a state, word by word. -/
def State.bytes (state : State) : List UInt8 :=
  [state.a, state.b, state.c, state.d, state.e, state.f, state.g, state.h].flatMap
    (fun word => bytesOf 4 word.toNat)

/-- The digest of a message: 32 bytes. -/
def digest (message : List UInt8) : List UInt8 :=
  let whole := padded message
  ((pieces 64 (whole.length / 64) whole).foldl State.block State.initial).bytes

end OracleSql.Sha256
