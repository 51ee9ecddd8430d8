import ReactiveProps.Text.Quoted

/-!
# SHA-1

The 160-bit digest of a byte sequence, written as forty hexadecimal digits.
-/
namespace ReactiveProps.Digest

structure State where
  a : UInt32
  b : UInt32
  c : UInt32
  d : UInt32
  e : UInt32
  deriving DecidableEq, Repr

def initial : State := ⟨0x67452301, 0xEFCDAB89, 0x98BADCFE, 0x10325476, 0xC3D2E1F0⟩

def rotateLeft (word amount : UInt32) : UInt32 :=
  (word <<< amount) ||| (word >>> (32 - amount))

/-- A number as bytes, most significant first. -/
def bigEndian (width value : Nat) : List UInt8 :=
  (List.range width).reverse.map fun i => UInt8.ofNat (value >>> (8 * i))

/-- The bytes followed by a one bit, zeros and the length in bits, a whole number of 64-byte
blocks. -/
def padded (bytes : List UInt8) : List UInt8 :=
  let zeros := (55 + 64 - bytes.length % 64) % 64
  bytes ++ [0x80] ++ List.replicate zeros 0 ++ bigEndian 8 (8 * bytes.length)

def words : List UInt8 → List UInt32
  | p :: q :: r :: s :: rest =>
    ((p.toUInt32 <<< 24) ||| (q.toUInt32 <<< 16) ||| (r.toUInt32 <<< 8) ||| s.toUInt32)
      :: words rest
  | _ => []

/-- The sixteen words of a block and the sixty-four derived from them. -/
def schedule (block : List UInt32) : Array UInt32 :=
  (List.range 64).foldl
    (fun w i => w.push (rotateLeft
      (w.getD (i + 13) 0 ^^^ w.getD (i + 8) 0 ^^^ w.getD (i + 2) 0 ^^^ w.getD i 0) 1))
    block.toArray

/-- The mixing function and the constant of a round. -/
def mix (round : Nat) (s : State) : UInt32 × UInt32 :=
  if round < 20 then ((s.b &&& s.c) ||| (s.b.complement &&& s.d), 0x5A827999)
  else if round < 40 then (s.b ^^^ s.c ^^^ s.d, 0x6ED9EBA1)
  else if round < 60 then ((s.b &&& s.c) ||| (s.b &&& s.d) ||| (s.c &&& s.d), 0x8F1BBCDC)
  else (s.b ^^^ s.c ^^^ s.d, 0xCA62C1D6)

def turn (w : Array UInt32) (s : State) (round : Nat) : State :=
  let (f, k) := mix round s
  ⟨rotateLeft s.a 5 + f + s.e + k + w.getD round 0, s.a, rotateLeft s.b 30, s.c, s.d⟩

def compress (s : State) (block : List UInt32) : State :=
  let t := (List.range 80).foldl (turn (schedule block)) s
  ⟨s.a + t.a, s.b + t.b, s.c + t.c, s.d + t.d, s.e + t.e⟩

/-- Consumes sixteen words at a time. -/
def absorb (s : State) (stream : List UInt32) : State :=
  if stream.length < 16 then s
  else absorb (compress s (stream.take 16)) (stream.drop 16)
termination_by stream.length
decreasing_by simp; omega

def State.hex (s : State) : String :=
  String.join ([s.a, s.b, s.c, s.d, s.e].map fun word => Text.hex 8 word.toNat)

def ofBytes (bytes : List UInt8) : String :=
  (absorb initial (words (padded bytes))).hex

/-- The digest of a text in UTF-8. -/
def ofString (text : String) : String := ofBytes text.toUTF8.data.toList

end ReactiveProps.Digest
