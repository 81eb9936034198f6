-- Text as bytes: writing UTF-8, reading it strictly, and reading it with every broken
-- sequence replaced.
namespace Chassis.Text

/-- Bytes, as they lie in a file. -/
abbrev Bytes := List UInt8

def utf8 (s : String) : Bytes := s.toList.flatMap String.utf8EncodeChar

/-- How many bytes some characters take. -/
def byteLength (s : List Char) : Nat := s.foldl (fun n c => n + c.utf8Size) 0

/-! ## One sequence -/

/-- What the first byte of a sequence says: how many bytes follow, the bits it carries,
and the range of the byte after it. -/
structure Lead where
  tails : Nat
  bits : Nat
  low : Nat
  high : Nat

/-- The reading of a first byte, unless it can be none. -/
def lead? (b : Nat) : Option Lead :=
  if b < 0x80 then some ⟨0, b, 0, 0⟩
  else if b < 0xc2 then none
  else if b < 0xe0 then some ⟨1, b - 0xc0, 0x80, 0xbf⟩
  else if b = 0xe0 then some ⟨2, 0, 0xa0, 0xbf⟩
  else if b = 0xed then some ⟨2, 13, 0x80, 0x9f⟩
  else if b < 0xf0 then some ⟨2, b - 0xe0, 0x80, 0xbf⟩
  else if b = 0xf0 then some ⟨3, 0, 0x90, 0xbf⟩
  else if b < 0xf4 then some ⟨3, b - 0xf0, 0x80, 0xbf⟩
  else if b = 0xf4 then some ⟨3, 4, 0x80, 0x8f⟩
  else none

/-- What stands at the start of some bytes. -/
inductive Piece where
  | char (c : Char)
  | broken (length : Nat) (atEnd : Bool)
  deriving DecidableEq, Repr

/-- Reads the bytes after the first one; `seen` counts the bytes before. -/
def readTails : Nat → Nat → Nat → Nat → Nat → Bytes → Piece × Bytes
  | 0, _, _, _, code, rest => (.char (Char.ofNat code), rest)
  | _ + 1, seen, _, _, _, [] => (.broken seen true, [])
  | n + 1, seen, low, high, code, b :: rest =>
    if low ≤ b.toNat && b.toNat ≤ high then
      readTails n (seen + 1) 0x80 0xbf (code * 64 + (b.toNat - 0x80)) rest
    else (.broken seen false, b :: rest)

/-- The first character of some bytes, or how many bytes at their start are broken. -/
def decodeNext (b : UInt8) (rest : Bytes) : Piece × Bytes :=
  match lead? b.toNat with
  | none => (.broken 1 false, rest)
  | some l => readTails l.tails 1 l.low l.high l.bits rest

theorem readTails_length (n seen low high code : Nat) (s : Bytes) :
    (readTails n seen low high code s).2.length ≤ s.length := by
  induction n generalizing seen low high code s with
  | zero => simp [readTails]
  | succ n ih =>
    cases s with
    | nil => simp [readTails]
    | cons b rest =>
      simp only [readTails]
      split
      · exact Nat.le_succ_of_le (ih ..)
      · simp

theorem decodeNext_length (b : UInt8) (rest : Bytes) :
    (decodeNext b rest).2.length ≤ rest.length := by
  unfold decodeNext
  split
  · simp
  · exact readTails_length ..

def pieces : Bytes → List Piece
  | [] => []
  | b :: rest =>
    (decodeNext b rest).1 :: pieces (decodeNext b rest).2
termination_by s => s.length
decreasing_by exact Nat.lt_succ_of_le (decodeNext_length b rest)

/-! ## Order -/

/-- Bytes in the order of a dictionary. -/
def bytesLe : Bytes → Bytes → Bool
  | [], _ => true
  | _ :: _, [] => false
  | a :: as, b :: bs => if a = b then bytesLe as bs else a.toNat < b.toNat

/-- Lists of texts in the order of a dictionary, where texts go by their bytes. -/
def textsLe : List String → List String → Bool
  | [], _ => true
  | _ :: _, [] => false
  | a :: as, b :: bs => if a = b then textsLe as bs else bytesLe (utf8 a) (utf8 b)

/-! ## Whole texts -/

/-- Where a text is broken: the number of good bytes before, and the length of the
broken sequence unless the bytes end within it. -/
structure Break where
  index : Nat
  length : Option Nat
  deriving DecidableEq, Repr

def Break.message (b : Break) : String :=
  match b.length with
  | some n => s!"invalid utf-8 sequence of {n} bytes from index {b.index}"
  | none => s!"incomplete utf-8 byte sequence from index {b.index}"

/-- The characters of some pieces, up to the first break. -/
def charsOf (index : Nat) : List Piece → Except Break (List Char)
  | [] => .ok []
  | .char c :: rest => (charsOf (index + c.utf8Size) rest).map (c :: ·)
  | .broken n atEnd :: _ => .error ⟨index, if atEnd then none else some n⟩

/-- Reads UTF-8 strictly. -/
def decode (bytes : Bytes) : Except Break String := (charsOf 0 (pieces bytes)).map String.ofList

/-- Reads UTF-8 strictly, without a reason for failure. -/
def decode? (bytes : Bytes) : Option String := (decode bytes).toOption

/-- What stands in place of a broken sequence. -/
def replacement : Char := '\ufffd'

/-- Reads UTF-8 and replaces what is broken. -/
def decodeLossy (bytes : Bytes) : String :=
  String.ofList <| (pieces bytes).map fun piece =>
    match piece with
    | .char c => c
    | .broken _ _ => replacement

/-- The text without a byte order mark at its start. -/
def withoutMark (s : String) : String :=
  match s.toList with
  | '\ufeff' :: rest => String.ofList rest
  | _ => s

end Chassis.Text
