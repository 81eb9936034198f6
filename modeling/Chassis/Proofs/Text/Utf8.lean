-- Reading UTF-8: a text that was written is read back, and a text has a zero in it only where its
-- bytes have one.
import Mathlib.Algebra.Group.Nat.Defs
import Chassis.Text.Utf8

namespace Chassis.Text

/-! ## One sequence -/

theorem toNat_ofNat {code : Nat} (h : code < 0xd800 ∨ (0xdfff < code ∧ code < 0x110000)) :
    (Char.ofNat code).toNat = code := by
  have hvalid : code.isValidChar := h
  unfold Char.ofNat
  rw [dif_pos hvalid]
  rfl

/-- Bytes after the first two carry six bits each. -/
theorem code_of_tails {n seen code : Nat} {s rest : Bytes} {c : Char}
    (h : readTails n seen 0x80 0xbf code s = (.char c, rest)) :
    ∃ last, c = Char.ofNat last ∧ code * 64 ^ n ≤ last ∧ last < (code + 1) * 64 ^ n := by
  induction n generalizing seen code s with
  | zero =>
    cases h
    exact ⟨code, rfl, by omega, by omega⟩
  | succ n ih =>
    cases s with
    | nil => cases h
    | cons b s =>
      rw [readTails] at h
      split at h
      · rename_i hrange
        obtain ⟨last, hc, hleast, hmost⟩ := ih h
        simp only [Bool.and_eq_true, decide_eq_true_eq] at hrange
        have hstep : code * 64 ^ (n + 1) = (code * 64) * 64 ^ n := by
          rw [Nat.pow_succ', Nat.mul_assoc]
        have hnext : (code + 1) * 64 ^ (n + 1) = (code * 64 + 64) * 64 ^ n := by
          rw [Nat.pow_succ', ← Nat.mul_assoc, Nat.add_mul, Nat.one_mul]
        have hlow :=
          Nat.mul_le_mul_right (64 ^ n) (show code * 64 ≤ code * 64 + (b.toNat - 0x80) by omega)
        have hhigh := Nat.mul_le_mul_right (64 ^ n)
          (show code * 64 + (b.toNat - 0x80) + 1 ≤ code * 64 + 64 by omega)
        exact ⟨last, hc, by omega, by omega⟩
      · cases h

/-- The byte after the first one may have a narrower range. -/
theorem code_of_readTails {n seen low high code : Nat} {s rest : Bytes} {c : Char}
    (h : readTails (n + 1) seen low high code s = (.char c, rest)) :
    ∃ b last, c = Char.ofNat last ∧ low ≤ b ∧ b ≤ high ∧
      (code * 64 + (b - 0x80)) * 64 ^ n ≤ last ∧ last < (code * 64 + (b - 0x80) + 1) * 64 ^ n := by
  cases s with
  | nil => cases h
  | cons b s =>
    rw [readTails] at h
    split at h
    · rename_i hrange
      obtain ⟨last, hc, hleast, hmost⟩ := code_of_tails h
      simp only [Bool.and_eq_true, decide_eq_true_eq] at hrange
      exact ⟨b.toNat, last, hc, hrange.1, hrange.2, hleast, hmost⟩
    · cases h

/-- Only a byte that is zero is read as the character zero: sequences of several bytes stand for
greater ones. -/
theorem eq_zero_of_decodeNext {b : UInt8} {rest rest' : Bytes}
    (h : decodeNext b rest = (.char '\x00', rest')) :
    b = 0 := by
  have hzero {last : Nat} (hc : '\x00' = Char.ofNat last)
      (hvalid : last < 0xd800 ∨ (0xdfff < last ∧ last < 0x110000)) : last = 0 := by
    rw [← toNat_ofNat hvalid, ← hc]
    rfl
  unfold decodeNext at h
  cases hlead : lead? b.toNat with
  | none =>
    rw [hlead] at h
    cases h
  | some lead =>
    rw [hlead] at h
    dsimp only at h
    -- A first byte of several leaves room for characters only, and none of them is zero.
    have hlong {tails bits low high : Nat} (hl : some lead = some ⟨tails + 1, bits, low, high⟩)
        (hroom : ∀ x last, low ≤ x → x ≤ high → (bits * 64 + (x - 0x80)) * 64 ^ tails ≤ last →
          last < (bits * 64 + (x - 0x80) + 1) * 64 ^ tails →
          0 < last ∧ (last < 0xd800 ∨ (0xdfff < last ∧ last < 0x110000))) : b = 0 := by
      cases hl
      obtain ⟨x, last, hc, hlow, hhigh, hleast, hmost⟩ := code_of_readTails h
      obtain ⟨hpos, hvalid⟩ := hroom x last hlow hhigh hleast hmost
      exact absurd (hzero hc hvalid) (Nat.ne_of_gt hpos)
    unfold lead? at hlead
    split at hlead
    · cases hlead
      have hcode : '\x00' = Char.ofNat b.toNat := (Piece.char.inj (congrArg Prod.fst h)).symm
      have hb : b.toNat = 0 := hzero hcode (by omega)
      exact UInt8.toNat_inj.mp hb
    · split at hlead
      · cases hlead
      · split at hlead
        · exact hlong hlead.symm (by omega)
        · split at hlead
          · exact hlong hlead.symm (by omega)
          · split at hlead
            · exact hlong hlead.symm (by omega)
            · split at hlead
              · exact hlong hlead.symm (by omega)
              · split at hlead
                · exact hlong hlead.symm (by omega)
                · split at hlead
                  · exact hlong hlead.symm (by omega)
                  · split at hlead
                    · exact hlong hlead.symm (by omega)
                    · cases hlead

theorem readTails_back (n seen low high code : Nat) (s : Bytes) :
    (readTails n seen low high code s).2 <:+ s := by
  induction n generalizing seen low high code s with
  | zero => exact List.suffix_refl s
  | succ n ih =>
    cases s with
    | nil => exact List.suffix_refl []
    | cons b s =>
      rw [readTails]
      split
      · exact (ih _ _ _ _ s).trans (List.suffix_cons b s)
      · exact List.suffix_refl _

theorem decodeNext_back (b : UInt8) (rest : Bytes) : (decodeNext b rest).2 <:+ rest := by
  unfold decodeNext
  split
  · exact List.suffix_refl rest
  · exact readTails_back _ _ _ _ _ rest

/-! ## Whole texts -/

theorem mem_zero_of_pieces {bytes : Bytes} (h : Piece.char '\x00' ∈ pieces bytes) : 0 ∈ bytes := by
  induction bytes using pieces.induct with
  | case1 => simp [pieces] at h
  | case2 b rest ih =>
    rw [pieces, List.mem_cons] at h
    rcases h with hfirst | hlater
    · have hread : decodeNext b rest = (.char '\x00', (decodeNext b rest).2) :=
        Prod.ext hfirst.symm rfl
      exact eq_zero_of_decodeNext hread ▸ List.mem_cons_self
    · exact List.mem_cons_of_mem b ((decodeNext_back b rest).mem (ih hlater))

theorem mem_pieces_of_charsOf {index : Nat} {all : List Piece} {cs : List Char}
    (h : charsOf index all = .ok cs) {c : Char} (hc : c ∈ cs) : Piece.char c ∈ all := by
  induction all generalizing index cs with
  | nil =>
    cases h
    cases hc
  | cons piece rest ih =>
    cases piece with
    | broken length atEnd => cases h
    | char d =>
      rw [charsOf] at h
      rcases hrest : charsOf (index + d.utf8Size) rest with fault | ds
      · rw [hrest] at h
        cases h
      · rw [hrest] at h
        cases h
        rcases List.mem_cons.mp hc with rfl | hmem
        · exact List.mem_cons_self
        · exact List.mem_cons_of_mem _ (ih hrest hmem)

/-- A text that is read from bytes without a zero has none. -/
theorem no_zero_of_decode? {bytes : Bytes} {s : String} (h : decode? bytes = some s)
    (hbytes : 0 ∉ bytes) :
    '\x00' ∉ s.toList := by
  intro hzero
  unfold decode? decode at h
  rcases hchars : charsOf 0 (pieces bytes) with fault | cs
  · rw [hchars] at h
    cases h
  · rw [hchars] at h
    cases h
    rw [String.toList_ofList] at hzero
    exact hbytes (mem_zero_of_pieces (mem_pieces_of_charsOf hchars hzero))

/-! ## Reading what was written -/

/-- One more byte carries six more bits. -/
theorem readTails_step {n seen low high code byte : Nat} (hlow : low ≤ byte) (hhigh : byte ≤ high)
    (hbyte : byte < 256) (rest : Bytes) :
    readTails (n + 1) seen low high code (UInt8.ofNat byte :: rest) =
      readTails n (seen + 1) 0x80 0xbf (code * 64 + (byte - 0x80)) rest := by
  have htoNat : (UInt8.ofNat byte).toNat = byte := UInt8.toNat_ofNat_of_lt' hbyte
  rw [readTails, htoNat, if_pos (by simp [hlow, hhigh])]

/-- A first byte of two or more is followed by as many bytes as it says. -/
theorem decodeNext_of_lead {byte : Nat} (hbyte : byte < 256) {lead : Lead}
    (hlead : lead? byte = some lead) (rest : Bytes) :
    decodeNext (UInt8.ofNat byte) rest =
    readTails lead.tails 1 lead.low lead.high lead.bits rest := by
  have htoNat : (UInt8.ofNat byte).toNat = byte := UInt8.toNat_ofNat_of_lt' hbyte
  unfold decodeNext
  rw [htoNat, hlead]

section

variable {code : Nat}

theorem lead?_two (hleast : 0x80 ≤ code) (hmost : code ≤ 0x7ff) :
    lead? (code / 64 % 32 + 192) = some ⟨1, code / 64, 0x80, 0xbf⟩ := by
  have hbits : code / 64 % 32 + 192 - 0xc0 = code / 64 := by omega
  unfold lead?
  rw [if_neg (by omega), if_neg (by omega), if_pos (by omega), hbits]

/-- With three bytes, the second one keeps out what fewer bytes are for, and the surrogates. -/
theorem lead?_three (hleast : 0x800 ≤ code) (hmost : code ≤ 0xffff)
    (hvalid : code < 0xd800 ∨ 0xdfff < code) :
    ∃ low high, lead? (code / 4096 % 16 + 224) = some ⟨2, code / 4096, low, high⟩ ∧
      low ≤ code / 64 % 64 + 128 ∧ code / 64 % 64 + 128 ≤ high := by
  have hbits : code / 4096 % 16 + 224 - 0xe0 = code / 4096 := by omega
  unfold lead?
  rw [if_neg (by omega), if_neg (by omega), if_neg (by omega)]
  by_cases hfirst : code / 4096 % 16 + 224 = 0xe0
  · have hzero : code / 4096 = 0 := by omega
    rw [if_pos hfirst, hzero]
    exact ⟨_, _, rfl, by omega, by omega⟩
  · rw [if_neg hfirst]
    by_cases hlast : code / 4096 % 16 + 224 = 0xed
    · have hthirteen : code / 4096 = 13 := by omega
      rw [if_pos hlast, hthirteen]
      exact ⟨_, _, rfl, by omega, by omega⟩
    · rw [if_neg hlast, if_pos (by omega), hbits]
      exact ⟨_, _, rfl, by omega, by omega⟩

/-- With four bytes, the second one keeps out what fewer bytes are for, and what is no character. -/
theorem lead?_four (hleast : 0x10000 ≤ code) (hmost : code < 0x110000) :
    ∃ low high, lead? (code / 262144 % 8 + 240) = some ⟨3, code / 262144, low, high⟩ ∧
      low ≤ code / 4096 % 64 + 128 ∧ code / 4096 % 64 + 128 ≤ high := by
  have hbits : code / 262144 % 8 + 240 - 0xf0 = code / 262144 := by omega
  unfold lead?
  rw [if_neg (by omega), if_neg (by omega), if_neg (by omega), if_neg (by omega), if_neg (by omega),
    if_neg (by omega)]
  by_cases hfirst : code / 262144 % 8 + 240 = 0xf0
  · have hzero : code / 262144 = 0 := by omega
    rw [if_pos hfirst, hzero]
    exact ⟨_, _, rfl, by omega, by omega⟩
  · rw [if_neg hfirst]
    by_cases hmiddle : code / 262144 % 8 + 240 < 0xf4
    · rw [if_pos hmiddle, hbits]
      exact ⟨_, _, rfl, by omega, by omega⟩
    · have hfour : code / 262144 = 4 := by omega
      rw [if_neg hmiddle, if_pos (by omega), hfour]
      exact ⟨_, _, rfl, by omega, by omega⟩

end

/-- The bytes of a character are read as that character. -/
theorem decodeNext_encoded (c : Char) (rest : Bytes) :
    ∃ b tails, String.utf8EncodeChar c = b :: tails ∧
      decodeNext b (tails ++ rest) = (.char c, rest) := by
  have hvalid : c.val.toNat < 0xd800 ∨ 0xdfff < c.val.toNat ∧ c.val.toNat < 0x110000 := c.valid
  have hself {code : Nat} (hcode : code = c.val.toNat) : Char.ofNat code = c := by
    rw [hcode]
    exact Char.ofNat_toNat c
  unfold String.utf8EncodeChar
  dsimp only
  generalize c.val.toNat = code at hvalid hself ⊢
  split
  · have hlead : lead? code = some ⟨0, code, 0, 0⟩ := if_pos (by omega)
    refine ⟨_, _, rfl, ?_⟩
    rw [decodeNext_of_lead (by omega) hlead]
    dsimp only
    rw [readTails, hself rfl]
    rfl
  · split
    · refine ⟨_, _, rfl, ?_⟩
      rw [decodeNext_of_lead (by omega) (lead?_two (by omega) (by omega))]
      dsimp only
      rw [List.singleton_append, readTails_step (by omega) (by omega) (by omega), readTails,
        hself (by omega)]
    · split
      · obtain ⟨low, high, hlead, hlow, hhigh⟩ := @lead?_three code (by omega) (by omega) (by omega)
        refine ⟨_, _, rfl, ?_⟩
        rw [decodeNext_of_lead (by omega) hlead]
        dsimp only
        rw [List.cons_append, List.singleton_append, readTails_step hlow hhigh (by omega),
          readTails_step (by omega) (by omega) (by omega), readTails, hself (by omega)]
      · obtain ⟨low, high, hlead, hlow, hhigh⟩ := @lead?_four code (by omega) (by omega)
        refine ⟨_, _, rfl, ?_⟩
        rw [decodeNext_of_lead (by omega) hlead]
        dsimp only
        rw [List.cons_append, List.cons_append, List.singleton_append,
          readTails_step hlow hhigh (by omega), readTails_step (by omega) (by omega) (by omega),
          readTails_step (by omega) (by omega) (by omega), readTails,
          hself (by omega)]

/-- A character beyond ASCII has no byte of ASCII. -/
theorem le_of_mem_encoded {c : Char} (h : 0x80 ≤ c.toNat) {b : UInt8}
    (hb : b ∈ String.utf8EncodeChar c) :
    0x80 ≤ b.toNat := by
  have hbyte {byte : Nat} (hlow : 0x80 ≤ byte) (hhigh : byte < 256) (heq : b = UInt8.ofNat byte) :
      0x80 ≤ b.toNat := by
    rw [heq, UInt8.toNat_ofNat_of_lt' hhigh]
    exact hlow
  have hcode : 0x80 ≤ c.val.toNat := h
  unfold String.utf8EncodeChar at hb
  dsimp only at hb
  generalize c.val.toNat = code at hcode hb
  split at hb
  · omega
  · split at hb
    · simp only [List.mem_cons, List.not_mem_nil, or_false] at hb
      rcases hb with hb | hb <;> exact hbyte (by omega) (by omega) hb
    · split at hb
      · simp only [List.mem_cons, List.not_mem_nil, or_false] at hb
        rcases hb with hb | hb | hb <;> exact hbyte (by omega) (by omega) hb
      · simp only [List.mem_cons, List.not_mem_nil, or_false] at hb
        rcases hb with hb | hb | hb | hb <;> exact hbyte (by omega) (by omega) hb

theorem encoded_of_ascii {c : Char} (h : c.toNat < 0x80) :
    String.utf8EncodeChar c = [UInt8.ofNat c.toNat] := by
  have hcode : c.val.toNat ≤ 0x7f := Nat.le_of_lt_succ h
  unfold String.utf8EncodeChar
  dsimp only
  rw [if_pos hcode]
  rfl

/-- The bytes of a text are those of its characters. -/
theorem pieces_utf8 (s : String) : pieces (utf8 s) = s.toList.map .char := by
  have hchars (cs : List Char) : pieces (cs.flatMap String.utf8EncodeChar) = cs.map .char := by
    induction cs with
    | nil => rw [List.flatMap_nil, pieces, List.map_nil]
    | cons c rest ih =>
      obtain ⟨b, tails, hbytes, hread⟩ := decodeNext_encoded c (rest.flatMap String.utf8EncodeChar)
      rw [List.flatMap_cons, hbytes, List.cons_append, pieces, hread, ih, List.map_cons]
  exact hchars s.toList

/-- A text that was written is read back. -/
theorem decodeLossy_utf8 (s : String) : decodeLossy (utf8 s) = s := by
  unfold decodeLossy
  rw [pieces_utf8, List.map_map]
  change String.ofList (s.toList.map id) = s
  rw [List.map_id, String.ofList_toList]

theorem decode?_utf8 (s : String) : decode? (utf8 s) = some s := by
  have hchars (index : Nat) (cs : List Char) : charsOf index (cs.map .char) = .ok cs := by
    induction cs generalizing index with
    | nil => rfl
    | cons c rest ih =>
      rw [List.map_cons, charsOf, ih]
      rfl
  unfold decode? decode
  rw [pieces_utf8, hchars]
  exact congrArg some (String.ofList_toList)

end Chassis.Text
