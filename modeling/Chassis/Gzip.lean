-- Compression by repeats: a text as literals and copies of what came before, written
-- in one block with the fixed code. A gzip member is the compressed text between a header
-- and its checksum and length.
import Chassis.Text.Utf8

namespace Chassis.Gzip

open Text (Bytes)

/-! ## Repeats -/

/-- A byte that stands for itself, or a copy of `length` bytes from `distance` back. -/
inductive Token where
  | literal (byte : UInt8)
  | copy (length distance : Nat)
  deriving DecidableEq, Repr

/-- How many bytes two texts have in common at their starts, at most `limit`. -/
def commonLength : Nat → Bytes → Bytes → Nat
  | limit + 1, a :: as, b :: bs => if a = b then commonLength limit as bs + 1 else 0
  | _, _, _ => 0

/-- The longest copy for the text that starts here. `before` holds the earlier bytes,
the last one first; of copies of one length the nearest is taken. -/
def longestCopy (before here : Bytes) : Nat × Nat :=
  let rec search (distance : Nat) (start : Bytes) (best : Nat × Nat) : Bytes → Nat × Nat
    | [] => best
    | b :: earlier =>
      let start := b :: start
      let length := commonLength 258 start here
      search (distance + 1) start (if best.1 < length then (length, distance) else best) earlier
  let (length, distance) := search 1 here (2, 0) (before.take 32768)
  if length < 3 || (length = 3 && 8192 ≤ distance) then (0, 0) else (length, distance)

/-- Splits a text into tokens. A copy is put off by one byte when a longer one starts
there; `held` is the byte and the copy that wait. -/
def tokens : Nat → Bytes → Bytes → Option (UInt8 × Nat × Nat) → List Token
  | 0, _, _, _ => []
  | _ + 1, _, [], none => []
  | _ + 1, _, [], some (_, length, distance) => [.copy length distance]
  | fuel + 1, before, b :: rest, held =>
    let (length, distance) := longestCopy before (b :: rest)
    let skip (n : Nat) : Bytes × Bytes :=
      (((b :: rest).take n).reverse ++ before, (b :: rest).drop n)
    match held with
    | some (byte, heldLength, heldDistance) =>
      if heldLength < length then
        if 128 ≤ length then
          let (before, rest) := skip length
          .literal byte :: .copy length distance :: tokens fuel before rest none
        else .literal byte :: tokens fuel (b :: before) rest (some (b, length, distance))
      else
        let (before, rest) := skip (heldLength - 1)
        .copy heldLength heldDistance :: tokens fuel before rest none
    | none =>
      if length = 0 then .literal b :: tokens fuel (b :: before) rest none
      else if 128 ≤ length then
        let (before, rest) := skip length
        .copy length distance :: tokens fuel before rest none
      else tokens fuel (b :: before) rest (some (b, length, distance))

/-! ## The fixed code -/

/-- The lowest `n` bits of a number, lowest first. -/
def bitsUp : Nat → Nat → List Bool
  | 0, _ => []
  | n + 1, value => (value % 2 = 1) :: bitsUp n (value / 2)

/-- The lowest `n` bits of a code, highest first. -/
def bitsDown (n value : Nat) : List Bool := (bitsUp n value).reverse

/-- The code of a literal, the end mark or the class of a length. -/
def symbolBits (symbol : Nat) : List Bool :=
  if symbol < 144 then bitsDown 8 (0x30 + symbol)
  else if symbol < 256 then bitsDown 9 (0x190 + (symbol - 144))
  else if symbol < 280 then bitsDown 7 (symbol - 256)
  else bitsDown 8 (0xc0 + (symbol - 280))

/-- The class of a value, its number of further bits and their value, where the classes
start at `start` and have sizes that double every `group` classes. -/
def classOf (widths : List Nat) (index start value : Nat) : Nat × Nat × Nat :=
  match widths with
  | [] => (index, 0, 0)
  | w :: rest =>
    if value < start + Nat.pow 2 w || rest.isEmpty then (index, w, value - start)
    else classOf rest (index + 1) (start + Nat.pow 2 w) value

/-- The numbers of further bits of the classes of lengths. -/
def lengthWidths : List Nat :=
  [0, 0, 0, 0, 0, 0, 0, 0, 1, 1, 1, 1, 2, 2, 2, 2, 3, 3, 3, 3, 4, 4, 4, 4, 5, 5, 5, 5]

/-- The numbers of further bits of the classes of distances. -/
def distanceWidths : List Nat :=
  [0, 0, 0, 0, 1, 1, 2, 2, 3, 3, 4, 4, 5, 5, 6, 6, 7, 7, 8, 8, 9, 9, 10, 10, 11, 11, 12, 12, 13, 13]

def tokenBits : Token → List Bool
  | .literal b => symbolBits b.toNat
  | .copy length distance =>
    let (lengthClass, lengthWidth, lengthRest) :=
      if length = 258 then (28, 0, 0) else classOf lengthWidths 0 3 length
    let (distanceClass, distanceWidth, distanceRest) := classOf distanceWidths 0 1 distance
    symbolBits (257 + lengthClass) ++ bitsUp lengthWidth lengthRest
      ++ bitsDown 5 distanceClass ++ bitsUp distanceWidth distanceRest

/-- Packs bits into bytes, the lowest bit of each byte first. -/
def packBits : List Bool → Bytes
  | a :: b :: c :: d :: e :: f :: g :: h :: rest => byteOf [a, b, c, d, e, f, g, h] :: packBits rest
  | [] => []
  | bits => [byteOf bits]
where
  /-- The byte of at most eight bits. -/
  byteOf (bits : List Bool) : UInt8 := UInt8.ofNat (bits.foldr (fun bit n => n * 2 + bit.toNat) 0)

/-- The compressed form of a text. -/
def deflate (bytes : Bytes) : Bytes :=
  let body := (tokens (2 * bytes.length + 2) [] bytes none).flatMap tokenBits
  packBits ([true, true, false] ++ body ++ symbolBits 256)

/-! ## Members -/

/-- One bit of the division by the generator, lowest bit first. -/
def crcBit (crc : UInt32) : UInt32 :=
  if crc &&& 1 = 1 then (crc >>> 1) ^^^ 0xedb88320 else crc >>> 1

/-- One byte of the division. -/
def crcByte (crc : UInt32) (b : UInt8) : UInt32 :=
  (List.range 8).foldl (fun crc _ => crcBit crc) (crc ^^^ b.toUInt32)

/-- The cyclic redundancy check of 32 bits. -/
def crc32 (bytes : Bytes) : UInt32 := bytes.foldl crcByte 0xffffffff ^^^ 0xffffffff

/-- The header of a member without a name and a time. -/
def header : Bytes := [0x1f, 0x8b, 8, 0, 0, 0, 0, 0, 0, 0xff]

/-- A number as four bytes, the lowest first. -/
def fourBytes (n : UInt32) : Bytes :=
  [n.toUInt8, (n >>> 8).toUInt8, (n >>> 16).toUInt8, (n >>> 24).toUInt8]

/-- The complete member of a text. -/
def encode (bytes : Bytes) : Bytes :=
  header ++ deflate bytes ++ fourBytes (crc32 bytes) ++ fourBytes (UInt32.ofNat bytes.length)

end Chassis.Gzip
