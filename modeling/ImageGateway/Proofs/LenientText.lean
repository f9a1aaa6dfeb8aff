-- What the lenient reading of bytes keeps. The bytes of a character that it finds
-- are the bytes of that character again, and whatever is no character it replaces.
-- So what was read has the bytes that were there exactly if they are UTF-8.

import ImageGateway.Proofs.Utf8

namespace ImageGateway.Text.Utf8

/-! ## The bytes of one character -/

theorem toNat_ofNat {n : Nat} (h : n < 55296 ∨ 57343 < n ∧ n < 1114112) :
    (Char.ofNat n).val.toNat = n := by
  rw [Char.ofNat, dif_pos h]
  rfl

theorem byte_eq {n : Nat} {b : UInt8} (h : n = b.toNat) : UInt8.ofNat n = b := by
  subst h
  exact UInt8.ofNat_toNat

theorem bounds_of_isSecond {a b : UInt8} (h : isSecond a b = true) :
    (128 ≤ b.toNat ∧ b.toNat ≤ 191) ∧ (a.toNat = 224 → 160 ≤ b.toNat) ∧
      (a.toNat = 237 → b.toNat ≤ 159) ∧ (a.toNat = 240 → 144 ≤ b.toNat) ∧
      (a.toNat = 244 → b.toNat ≤ 143) := by
  have heq (n : UInt8) : (a == n) = true ↔ a.toNat = n.toNat := by
    rw [beq_iff_eq, UInt8.toNat_inj]
  unfold isSecond isTail at h
  simp only [heq, UInt8.reduceToNat] at h
  repeat' split at h
  all_goals
    simp only [Bool.and_eq_true, decide_eq_true_eq, UInt8.le_iff_toNat_le,
      UInt8.reduceToNat] at h
    omega

theorem encode_one {a : UInt8} (ha : a.toNat < 128) :
    String.utf8EncodeChar (Char.ofNat a.toNat) = [a] := by
  unfold String.utf8EncodeChar
  rw [toNat_ofNat (by omega)]
  dsimp only
  rw [if_pos (by omega), UInt8.ofNat_toNat]

theorem encode_two {a b : UInt8} (ha : 194 ≤ a.toNat ∧ a.toNat ≤ 223)
    (hb : 128 ≤ b.toNat ∧ b.toNat ≤ 191) :
    String.utf8EncodeChar (Char.ofNat (a.toNat % 32 * 64 + low b)) = [a, b] := by
  unfold String.utf8EncodeChar low
  rw [toNat_ofNat (by omega)]
  dsimp only
  rw [if_neg (by omega), if_pos (by omega), byte_eq (b := a) (by omega),
    byte_eq (b := b) (by omega)]

theorem encode_three {a b c : UInt8} (ha : 224 ≤ a.toNat ∧ a.toNat ≤ 239)
    (hb : isSecond a b = true) (hc : 128 ≤ c.toNat ∧ c.toNat ≤ 191) :
    String.utf8EncodeChar (Char.ofNat ((a.toNat % 16 * 64 + low b) * 64 + low c)) = [a, b, c] := by
  obtain ⟨hb, hE0, hED, -, -⟩ := bounds_of_isSecond hb
  unfold String.utf8EncodeChar low
  rw [toNat_ofNat (by omega)]
  dsimp only
  rw [if_neg (by omega), if_neg (by omega), if_pos (by omega), byte_eq (b := a) (by omega),
    byte_eq (b := b) (by omega), byte_eq (b := c) (by omega)]

theorem encode_four {a b c d : UInt8} (ha : 240 ≤ a.toNat ∧ a.toNat ≤ 244)
    (hb : isSecond a b = true) (hc : 128 ≤ c.toNat ∧ c.toNat ≤ 191)
    (hd : 128 ≤ d.toNat ∧ d.toNat ≤ 191) :
    String.utf8EncodeChar
      (Char.ofNat (((a.toNat % 8 * 64 + low b) * 64 + low c) * 64 + low d)) = [a, b, c, d] := by
  obtain ⟨hb, -, -, hF0, hF4⟩ := bounds_of_isSecond hb
  unfold String.utf8EncodeChar low
  rw [toNat_ofNat (by omega)]
  dsimp only
  rw [if_neg (by omega), if_neg (by omega), if_neg (by omega), byte_eq (b := a) (by omega),
    byte_eq (b := b) (by omega), byte_eq (b := c) (by omega), byte_eq (b := d) (by omega)]

/-! ## Pieces -/

/-- Which bytes each piece stands for. A character stands for its own bytes. -/
inductive Cut : List UInt8 → List Piece → Prop where
  | nil : Cut [] []
  | char {c : Char} {width : Nat} {own bytes : List UInt8} {ps : List Piece}
      (hown : String.utf8EncodeChar c = own) (h : Cut bytes ps) :
    Cut (own ++ bytes) (.char c width :: ps)
  | other {p : Piece} {bytes : List UInt8} {ps : List Piece} (skipped : List UInt8)
      (hshown : p.shown = '\uFFFD') (hfault : ∀ offset, ∃ f, chars (p :: ps) offset = .error f)
      (h : Cut bytes ps) : Cut (skipped ++ bytes) (p :: ps)

theorem Cut.bad {width : Nat} {bytes : List UInt8} {ps : List Piece} (skipped : List UInt8)
    (h : Cut bytes ps) : Cut (skipped ++ bytes) (.bad width :: ps) :=
  .other skipped rfl (fun _ => ⟨_, rfl⟩) h

theorem Cut.last (width : Nat) (skipped : List UInt8) : Cut skipped [.cut width] := by
  simpa using Cut.other (p := .cut width) skipped rfl (fun _ => ⟨_, rfl⟩) .nil

theorem bounds_of_width (a : UInt8) :
    (widthOf a = 1 → a.toNat < 128) ∧ (widthOf a = 2 → 194 ≤ a.toNat ∧ a.toNat ≤ 223) ∧
      (widthOf a = 3 → 224 ≤ a.toNat ∧ a.toNat ≤ 239) ∧
      (widthOf a = 4 → 240 ≤ a.toNat ∧ a.toNat ≤ 244) := by
  rw [widthOf_eq]
  repeat' split
  all_goals omega

theorem cut_pieces (bytes : List UInt8) : Cut bytes (pieces bytes) := by
  fun_induction pieces bytes with
  | case1 => exact .nil
  | case2 a rest ha ih => exact .char (encode_one ((bounds_of_width a).1 ha)) ih
  | case4 a ha b rest hb ih =>
    exact .char (encode_two ((bounds_of_width a).2.1 ha) (isTail_iff.1 hb)) ih
  | case8 a ha b hb c rest hc ih =>
    exact .char (encode_three ((bounds_of_width a).2.2.1 ha) hb (isTail_iff.1 hc)) ih
  | case14 a ha b hb c hc d rest hd ih =>
    exact .char
      (encode_four ((bounds_of_width a).2.2.2 ha) hb (isTail_iff.1 hc) (isTail_iff.1 hd)) ih
  -- The bytes end inside a character.
  | case3 | case6 | case7 | case11 | case12 | case13 => exact .last _ _
  -- A byte comes that cannot go on with what was begun.
  | case5 a _ _ _ _ ih | case10 a _ _ _ _ ih | case17 a _ _ _ _ ih => exact .bad [a] ih
  | case9 a _ b _ _ _ _ ih | case16 a _ b _ _ _ _ ih => exact .bad [a, b] ih
  | case15 a _ b _ c _ _ _ _ ih => exact .bad [a, b, c] ih
  | case18 a _ _ _ _ _ ih => exact .bad [a] ih

theorem Cut.encode_chars {bytes : List UInt8} {ps : List Piece} (h : Cut bytes ps) {offset : Nat}
    {cs : List Char} (hchars : chars ps offset = .ok cs) :
    cs.flatMap String.utf8EncodeChar = bytes := by
  induction h generalizing offset cs with
  | nil =>
    cases hchars
    rfl
  | @char c width own bytes ps hown _ ih =>
    unfold chars at hchars
    obtain ⟨rest, hrest, rfl⟩ : ∃ rest, chars ps (offset + width) = .ok rest ∧ c :: rest = cs := by
      cases hrest : chars ps (offset + width) with
      | error fault => simp [hrest, Except.map] at hchars
      | ok rest => exact ⟨rest, rfl, by simpa [hrest, Except.map] using hchars⟩
    rw [List.flatMap_cons, hown, ih hrest]
  | other skipped _ hfault _ _ =>
    obtain ⟨fault, hfault⟩ := hfault offset
    cases hfault.symm.trans hchars

/-- The bytes of what was read strictly are the bytes that were there. -/
theorem encode_of_decode {bytes : List UInt8} {s : String} (h : decode bytes = .ok s) :
    encode s = bytes := by
  unfold decode at h
  cases hchars : chars (pieces bytes) 0 with
  | error fault => simp [hchars, Except.map] at h
  | ok cs =>
    obtain rfl : String.ofList cs = s := by simpa [hchars, Except.map] using h
    unfold encode
    rw [String.toList_ofList]
    exact (cut_pieces bytes).encode_chars hchars

/-- The lenient reading keeps the bytes exactly if they are UTF-8. -/
theorem encode_lossy_eq_iff {bytes : List UInt8} :
    encode (lossy bytes) = bytes ↔ ∃ s, decode bytes = .ok s := by
  constructor
  · intro h
    rw [← h, decode_encode]
    exact ⟨_, rfl⟩
  · rintro ⟨s, hs⟩
    rw [← encode_of_decode hs, lossy_encode]

theorem Cut.mem_encode {bytes : List UInt8} {ps : List Piece} (h : Cut bytes ps) {b : UInt8}
    (hb : b ∈ (ps.map Piece.shown).flatMap String.utf8EncodeChar) :
    b ∈ bytes ∨ b ∈ String.utf8EncodeChar '\uFFFD' := by
  induction h with
  | nil => simp at hb
  | @char c width own bytes ps hown _ ih =>
    rw [List.map_cons, List.flatMap_cons, List.mem_append] at hb
    rcases hb with hb | hb
    · rw [Piece.shown, hown] at hb
      exact .inl (List.mem_append_left _ hb)
    · exact (ih hb).imp_left (List.mem_append_right _)
  | other skipped hshown _ _ ih =>
    rw [List.map_cons, List.flatMap_cons, hshown, List.mem_append] at hb
    rcases hb with hb | hb
    · exact .inr hb
    · exact (ih hb).imp_left (List.mem_append_right _)

/-- The lenient reading brings in no zero byte. -/
theorem zero_not_mem_encode_lossy {bytes : List UInt8} (h : 0 ∉ bytes) :
    0 ∉ encode (lossy bytes) := by
  intro hzero
  unfold encode lossy at hzero
  rw [String.toList_ofList] at hzero
  rcases (cut_pieces bytes).mem_encode hzero with hzero | hzero
  · exact h hzero
  · exact absurd hzero (by decide)

end ImageGateway.Text.Utf8
