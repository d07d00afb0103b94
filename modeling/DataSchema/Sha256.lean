/-!
# SHA-256

The digest of a list of bytes. A message is padded to blocks of sixteen words; each block extends to
a schedule of sixty-four words and is folded into a state of eight words.
-/

namespace DataSchema.Sha256

def roundConstants : List UInt32 := [
  0x428a2f98, 0x71374491, 0xb5c0fbcf, 0xe9b5dba5, 0x3956c25b, 0x59f111f1, 0x923f82a4, 0xab1c5ed5,
  0xd807aa98, 0x12835b01, 0x243185be, 0x550c7dc3, 0x72be5d74, 0x80deb1fe, 0x9bdc06a7, 0xc19bf174,
  0xe49b69c1, 0xefbe4786, 0x0fc19dc6, 0x240ca1cc, 0x2de92c6f, 0x4a7484aa, 0x5cb0a9dc, 0x76f988da,
  0x983e5152, 0xa831c66d, 0xb00327c8, 0xbf597fc7, 0xc6e00bf3, 0xd5a79147, 0x06ca6351, 0x14292967,
  0x27b70a85, 0x2e1b2138, 0x4d2c6dfc, 0x53380d13, 0x650a7354, 0x766a0abb, 0x81c2c92e, 0x92722c85,
  0xa2bfe8a1, 0xa81a664b, 0xc24b8b70, 0xc76c51a3, 0xd192e819, 0xd6990624, 0xf40e3585, 0x106aa070,
  0x19a4c116, 0x1e376c08, 0x2748774c, 0x34b0bcb5, 0x391c0cb3, 0x4ed8aa4a, 0x5b9cca4f, 0x682e6ff3,
  0x748f82ee, 0x78a5636f, 0x84c87814, 0x8cc70208, 0x90befffa, 0xa4506ceb, 0xbef9a3f7, 0xc67178f2]

structure State where
  a : UInt32
  b : UInt32
  c : UInt32
  d : UInt32
  e : UInt32
  f : UInt32
  g : UInt32
  h : UInt32

def State.initial : State :=
  ⟨0x6a09e667, 0xbb67ae85, 0x3c6ef372, 0xa54ff53a, 0x510e527f, 0x9b05688c, 0x1f83d9ab, 0x5be0cd19⟩

def rotate (x : UInt32) (n : UInt32) : UInt32 := (x >>> n) ||| (x <<< (32 - n))

def State.add (s t : State) : State :=
  ⟨s.a + t.a, s.b + t.b, s.c + t.c, s.d + t.d, s.e + t.e, s.f + t.f, s.g + t.g, s.h + t.h⟩

def round (s : State) (constant word : UInt32) : State :=
  let big1 := rotate s.e 6 ^^^ rotate s.e 11 ^^^ rotate s.e 25
  let choice := (s.e &&& s.f) ^^^ ((~~~s.e) &&& s.g)
  let t1 := s.h + big1 + choice + constant + word
  let big0 := rotate s.a 2 ^^^ rotate s.a 13 ^^^ rotate s.a 22
  let majority := (s.a &&& s.b) ^^^ (s.a &&& s.c) ^^^ (s.b &&& s.c)
  ⟨t1 + big0 + majority, s.a, s.b, s.c, s.d + t1, s.e, s.f, s.g⟩

/-- Extends the words of a block, which are the last sixteen of `words` in reverse
order, by `count` more. -/
def schedule : Nat → Array UInt32 → Array UInt32
  | 0, words => words
  | count + 1, words =>
    let word (back : Nat) : UInt32 := words.getD (words.size - back) 0
    let small0 := rotate (word 15) 7 ^^^ rotate (word 15) 18 ^^^ (word 15 >>> 3)
    let small1 := rotate (word 2) 17 ^^^ rotate (word 2) 19 ^^^ (word 2 >>> 10)
    schedule count (words.push (word 16 + small0 + word 7 + small1))

def compress (state : State) (block : List UInt32) : State :=
  let words := (schedule 48 block.toArray).toList
  state.add ((roundConstants.zip words).foldl (fun s pair => round s pair.1 pair.2) state)

/-- The message, a one bit, zeros up to a whole number of blocks, and the length in bits. -/
def padded (message : List UInt8) : List UInt8 :=
  let length := message.length
  let zeros := (119 - length % 64) % 64
  let bits := 8 * length
  message ++ 0x80 :: List.replicate zeros 0
    ++ [56, 48, 40, 32, 24, 16, 8, 0].map fun (shift : Nat) => UInt8.ofNat (bits >>> shift)

def wordsOf : List UInt8 → List UInt32
  | a :: b :: c :: d :: rest =>
    ((a.toUInt32 <<< 24) ||| (b.toUInt32 <<< 16) ||| (c.toUInt32 <<< 8) ||| d.toUInt32) ::
      wordsOf rest
  | _ => []

/-- Folds blocks of sixteen words into the state; `count` bounds their number. -/
def absorb : Nat → State → List UInt32 → State
  | 0, state, _ => state
  | count + 1, state, words =>
    if words.isEmpty then state else absorb count (compress state (words.take 16)) (words.drop 16)

def hexWord (word : UInt32) : List Char :=
  [28, 24, 20, 16, 12, 8, 4, 0].map fun (shift : Nat) => Nat.digitChar (word.toNat >>> shift % 16)

/-- The digest as sixty-four hexadecimal digits. -/
def hexDigest (message : List UInt8) : String :=
  let words := wordsOf (padded message)
  let s := absorb words.length State.initial words
  String.ofList ([s.a, s.b, s.c, s.d, s.e, s.f, s.g, s.h].flatMap hexWord)

end DataSchema.Sha256
