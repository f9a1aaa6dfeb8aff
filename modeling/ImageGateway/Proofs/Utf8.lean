-- The bytes of a text are read as that text again.

import Mathlib.Data.Nat.Basic
import ImageGateway.Native.Basic

namespace ImageGateway.Text.Utf8

/-! ## Bytes by their numbers -/

theorem toNat_byte {n : Nat} (h : n < 256) : (UInt8.ofNat n).toNat = n := by
  simp [Nat.mod_eq_of_lt h]

theorem isTail_iff {b : UInt8} : isTail b = true ↔ 128 ≤ b.toNat ∧ b.toNat ≤ 191 := by
  simp [isTail, UInt8.le_iff_toNat_le]

theorem isSecond_of {a b : UInt8} (htail : isTail b = true)
    (hE0 : a.toNat = 224 → 160 ≤ b.toNat) (hED : a.toNat = 237 → b.toNat ≤ 159)
    (hF0 : a.toNat = 240 → 144 ≤ b.toNat) (hF4 : a.toNat = 244 → b.toNat ≤ 143) :
    isSecond a b = true := by
  have hb := isTail_iff.1 htail
  unfold isSecond
  split
  · rename_i ha
    have ha' : a.toNat = 224 := congrArg UInt8.toNat (beq_iff_eq.1 ha)
    simpa [UInt8.le_iff_toNat_le] using ⟨hE0 ha', hb.2⟩
  · split
    · rename_i ha
      have ha' : a.toNat = 237 := congrArg UInt8.toNat (beq_iff_eq.1 ha)
      simpa [UInt8.le_iff_toNat_le] using ⟨hb.1, hED ha'⟩
    · split
      · rename_i ha
        have ha' : a.toNat = 240 := congrArg UInt8.toNat (beq_iff_eq.1 ha)
        simpa [UInt8.le_iff_toNat_le] using ⟨hF0 ha', hb.2⟩
      · split
        · rename_i ha
          have ha' : a.toNat = 244 := congrArg UInt8.toNat (beq_iff_eq.1 ha)
          simpa [UInt8.le_iff_toNat_le] using ⟨hb.1, hF4 ha'⟩
        · exact htail

theorem widthOf_eq (a : UInt8) :
    widthOf a = if a.toNat < 128 then 1
      else if 194 ≤ a.toNat ∧ a.toNat ≤ 223 then 2
      else if 224 ≤ a.toNat ∧ a.toNat ≤ 239 then 3
      else if 240 ≤ a.toNat ∧ a.toNat ≤ 244 then 4
      else 0 := by
  simp [widthOf, UInt8.le_iff_toNat_le, UInt8.lt_iff_toNat_lt]

/-! ## One character -/

variable (rest : List UInt8)

theorem pieces_one {a : UInt8} (ha : a.toNat < 128) :
    pieces (a :: rest) = .char (Char.ofNat a.toNat) 1 :: pieces rest := by
  have hwidth : widthOf a = 1 := by rw [widthOf_eq, if_pos ha]
  rw [pieces.eq_def]
  simp [hwidth]

theorem pieces_two {a b : UInt8} (ha : 194 ≤ a.toNat ∧ a.toNat ≤ 223) (hb : isTail b = true) :
    pieces (a :: b :: rest) =
      .char (Char.ofNat (a.toNat % 32 * 64 + low b)) 2 :: pieces rest := by
  have hwidth : widthOf a = 2 := by rw [widthOf_eq, if_neg (by omega), if_pos ha]
  rw [pieces.eq_def]
  simp [hwidth, hb]

theorem pieces_three {a b c : UInt8} (ha : 224 ≤ a.toNat ∧ a.toNat ≤ 239)
    (hb : isSecond a b = true) (hc : isTail c = true) :
    pieces (a :: b :: c :: rest) =
      .char (Char.ofNat ((a.toNat % 16 * 64 + low b) * 64 + low c)) 3 :: pieces rest := by
  have hwidth : widthOf a = 3 := by
    rw [widthOf_eq, if_neg (by omega), if_neg (by omega), if_pos ha]
  rw [pieces.eq_def]
  simp [hwidth, hb, hc]

theorem pieces_four {a b c d : UInt8} (ha : 240 ≤ a.toNat ∧ a.toNat ≤ 244)
    (hb : isSecond a b = true) (hc : isTail c = true) (hd : isTail d = true) :
    pieces (a :: b :: c :: d :: rest) =
      .char (Char.ofNat (((a.toNat % 8 * 64 + low b) * 64 + low c) * 64 + low d)) 4
        :: pieces rest := by
  have hwidth : widthOf a = 4 := by
    rw [widthOf_eq, if_neg (by omega), if_neg (by omega), if_neg (by omega), if_pos ha]
  rw [pieces.eq_def]
  simp [hwidth, hb, hc, hd]

/-- The bytes of a character are one piece. -/
theorem pieces_encode_append (c : Char) :
    ∃ width, pieces (String.utf8EncodeChar c ++ rest) = .char c width :: pieces rest := by
  have hback : Char.ofNat c.val.toNat = c := Char.ofNat_toNat c
  have hvalid : c.val.toNat < 55296 ∨ 57343 < c.val.toNat ∧ c.val.toNat < 1114112 := c.valid
  unfold String.utf8EncodeChar
  generalize c.val.toNat = v at hback hvalid
  dsimp only
  have htail (n : Nat) : isTail (UInt8.ofNat (n % 64 + 128)) = true := by
    rw [isTail_iff, toNat_byte (by omega)]
    omega
  have hlow (n : Nat) : low (UInt8.ofNat (n % 64 + 128)) = n % 64 := by
    rw [low, toNat_byte (by omega)]
    omega
  by_cases h1 : v ≤ 127
  · have ha : (UInt8.ofNat v).toNat = v := toNat_byte (by omega)
    rw [if_pos h1]
    refine ⟨1, (pieces_one rest (by omega)).trans ?_⟩
    rw [ha, hback]
  · rw [if_neg h1]
    by_cases h2 : v ≤ 2047
    · have ha : (UInt8.ofNat (v / 64 % 32 + 192)).toNat = v / 64 % 32 + 192 :=
        toNat_byte (by omega)
      rw [if_pos h2]
      refine ⟨2, (pieces_two rest (by omega) (htail v)).trans ?_⟩
      have hv : (v / 64 % 32 + 192) % 32 * 64 + v % 64 = v := by omega
      rw [ha, hlow, hv, hback]
    · rw [if_neg h2]
      by_cases h3 : v ≤ 65535
      · have ha : (UInt8.ofNat (v / 4096 % 16 + 224)).toNat = v / 4096 % 16 + 224 :=
          toNat_byte (by omega)
        have hb : (UInt8.ofNat (v / 64 % 64 + 128)).toNat = v / 64 % 64 + 128 :=
          toNat_byte (by omega)
        rw [if_pos h3]
        refine ⟨3, (pieces_three rest (by omega) (isSecond_of (htail (v / 64)) ?_ ?_ ?_ ?_)
          (htail v)).trans ?_⟩
        · omega
        · omega
        · omega
        · omega
        have hv : ((v / 4096 % 16 + 224) % 16 * 64 + v / 64 % 64) * 64 + v % 64 = v := by omega
        rw [ha, hlow, hlow, hv, hback]
      · have ha : (UInt8.ofNat (v / 262144 % 8 + 240)).toNat = v / 262144 % 8 + 240 :=
          toNat_byte (by omega)
        have hb : (UInt8.ofNat (v / 4096 % 64 + 128)).toNat = v / 4096 % 64 + 128 :=
          toNat_byte (by omega)
        rw [if_neg h3]
        refine ⟨4, (pieces_four rest (by omega) (isSecond_of (htail (v / 4096)) ?_ ?_ ?_ ?_)
          (htail (v / 64)) (htail v)).trans ?_⟩
        · omega
        · omega
        · omega
        · omega
        have hv : (((v / 262144 % 8 + 240) % 8 * 64 + v / 4096 % 64) * 64 + v / 64 % 64) * 64 +
            v % 64 = v := by omega
        rw [ha, hlow, hlow, hlow, hv, hback]

/-! ## Texts -/

theorem chars_encode (cs : List Char) (offset : Nat) :
    chars (pieces (cs.flatMap String.utf8EncodeChar)) offset = .ok cs := by
  induction cs generalizing offset with
  | nil => rfl
  | cons c cs ih =>
    obtain ⟨width, hpieces⟩ := pieces_encode_append (cs.flatMap String.utf8EncodeChar) c
    rw [List.flatMap_cons, hpieces]
    unfold chars
    rw [ih]
    rfl

/-- The bytes of a text are read as that text again. -/
theorem decode_encode (s : String) : decode (encode s) = .ok s := by
  unfold decode encode
  rw [chars_encode]
  exact congrArg Except.ok (String.ofList_toList ..)

theorem pieces_encode_shown (cs : List Char) :
    (pieces (cs.flatMap String.utf8EncodeChar)).map Piece.shown = cs := by
  induction cs with
  | nil => rfl
  | cons c cs ih =>
    obtain ⟨width, hpieces⟩ := pieces_encode_append (cs.flatMap String.utf8EncodeChar) c
    rw [List.flatMap_cons, hpieces, List.map_cons, ih]
    rfl

/-- The lenient reading of the bytes of a text replaces nothing. -/
theorem lossy_encode (s : String) : lossy (encode s) = s := by
  unfold lossy encode
  rw [pieces_encode_shown]
  exact String.ofList_toList ..

end ImageGateway.Text.Utf8

namespace ImageGateway.CText

theorem bytes_of_ofString? {s : String} {text : CText} (h : ofString? s = some text) :
    text.bytes = Text.Utf8.encode s := by
  unfold ofString? at h
  split at h
  · cases h
  · cases h
    rfl

theorem decode_of_ofString? {s : String} {text : CText} (h : ofString? s = some text) :
    text.decode = .ok s := by
  unfold decode
  rw [bytes_of_ofString? h, Text.Utf8.decode_encode]

theorem lossy_of_ofString? {s : String} {text : CText} (h : ofString? s = some text) :
    text.lossy = s := by
  unfold lossy
  rw [bytes_of_ofString? h, Text.Utf8.lossy_encode]

end ImageGateway.CText
