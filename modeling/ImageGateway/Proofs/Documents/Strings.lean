-- Strings of a document. Whatever way a text is spelled between the quotes, the text
-- is what is read, and passing over it ends behind the closing quote as well.

import ImageGateway.Proofs.Documents.Grammar
import ImageGateway.Proofs.Utf8

namespace ImageGateway.Json

/-! ## Escapes -/

theorem HexDigit.hexValue? {b : UInt8} {n : Nat} (h : HexDigit b n) : hexValue? b = some n := by
  have hdigit : ∀ n : Fin 10, Json.hexValue? (UInt8.ofNat (48 + n)) = some n.val := by decide
  have hsmall : ∀ n : Fin 6, Json.hexValue? (UInt8.ofNat (97 + n)) = some (10 + n.val) := by decide
  have hcapital : ∀ n : Fin 6, Json.hexValue? (UInt8.ofNat (65 + n)) = some (10 + n.val) := by
    decide
  cases h with
  | digit h => exact hdigit ⟨_, h⟩
  | small h => exact hsmall ⟨_, h⟩
  | capital h => exact hcapital ⟨_, h⟩

/-- The unit is read from its digits, which are four. -/
theorem SpellsUnit.unitOf {digits : List UInt8} {n : Nat} (h : SpellsUnit digits n) (o : Nat)
    (rest : List UInt8) :
    unitOf o (digits ++ rest) = .ok n ∧ (digits ++ rest).drop 4 = rest := by
  cases h with
  | mk ha hb hc hd =>
    refine ⟨?_, rfl⟩
    simp only [List.cons_append, Json.unitOf, ha.hexValue?, hb.hexValue?, hc.hexValue?,
      hd.hexValue?]

/-- An escaped character is one byte. -/
theorem plainEscape?_of_mem {letter : UInt8} {c : Char} (h : (letter, c) ∈ escapes) :
    ∃ b, plainEscape? letter = some b ∧ String.utf8EncodeChar c = [b] := by
  have hall : ∀ e ∈ escapes, (plainEscape? e.1).isSome ∧
      (plainEscape? e.1).toList = String.utf8EncodeChar e.2 := by decide
  obtain ⟨hsome, hbyte⟩ := hall _ h
  obtain ⟨b, hb⟩ := Option.isSome_iff_exists.1 hsome
  rw [hb] at hbyte
  exact ⟨b, hb, hbyte.symm⟩

/-! ## Characters that stand for themselves -/

/-- A byte that neither ends a string nor begins an escape, and that may stand there. -/
def PlainByte (b : UInt8) : Prop := b ≠ 34 ∧ ¬ b < 32 ∧ b ≠ 92

/-- A character is one byte, its number, or all of its bytes are beyond those of ASCII. -/
theorem utf8EncodeChar_cases (c : Char) :
    c.toNat < 128 ∧ String.utf8EncodeChar c = [UInt8.ofNat c.toNat] ∨
      ∀ b ∈ String.utf8EncodeChar c, 128 ≤ b.toNat := by
  have hvalid : c.val.toNat < 55296 ∨ 57343 < c.val.toNat ∧ c.val.toNat < 1114112 := c.valid
  have hbyte {n : Nat} (h : n < 256) : (UInt8.ofNat n).toNat = n := Text.Utf8.toNat_byte h
  unfold String.utf8EncodeChar Char.toNat
  generalize c.val.toNat = v at hvalid
  dsimp only
  by_cases h1 : v ≤ 127
  · rw [if_pos h1]
    exact .inl ⟨by omega, rfl⟩
  · right
    rw [if_neg h1]
    split
    · simp only [List.forall_mem_cons, List.not_mem_nil, false_imp_iff, implies_true, and_true]
      rw [hbyte (by omega), hbyte (by omega)]
      omega
    · split
      · simp only [List.forall_mem_cons, List.not_mem_nil, false_imp_iff, implies_true, and_true]
        rw [hbyte (by omega), hbyte (by omega), hbyte (by omega)]
        omega
      · simp only [List.forall_mem_cons, List.not_mem_nil, false_imp_iff, implies_true, and_true]
        rw [hbyte (by omega), hbyte (by omega), hbyte (by omega), hbyte (by omega)]
        omega

theorem plainByte_of_plain {c : Char} (hquote : c ≠ '"') (hescape : c ≠ '\\')
    (hcontrol : 32 ≤ c.toNat) : ∀ b ∈ String.utf8EncodeChar c, PlainByte b := by
  have hplain {b : UInt8} (hquote : b.toNat ≠ 34) (hcontrol : 32 ≤ b.toNat)
      (hescape : b.toNat ≠ 92) : PlainByte b := by
    refine ⟨?_, ?_, ?_⟩
    · rintro rfl
      exact hquote rfl
    · simpa [UInt8.lt_iff_toNat_lt] using hcontrol
    · rintro rfl
      exact hescape rfl
  intro b hb
  obtain ⟨hascii, hbytes⟩ | hbeyond := utf8EncodeChar_cases c
  · rw [hbytes] at hb
    obtain rfl := List.mem_singleton.1 hb
    have hback : (UInt8.ofNat c.toNat).toNat = c.toNat := Text.Utf8.toNat_byte (by omega)
    refine hplain ?_ ?_ ?_
    · rw [hback]
      exact fun h => hquote (Char.toNat_inj.1 h)
    · rwa [hback]
    · rw [hback]
      exact fun h => hescape (Char.toNat_inj.1 h)
  · have hb := hbeyond b hb
    exact hplain (by omega) (by omega) (by omega)

variable {fuel : Nat} {rest : List UInt8}

theorem readBytes_plain {bytes : List UInt8} (h : ∀ b ∈ bytes, PlainByte b) (o : Nat)
    (got : List UInt8) :
    readBytes (fuel + bytes.length) o got (bytes ++ rest) =
      readBytes fuel (o + bytes.length) (bytes.reverse ++ got) rest := by
  induction bytes generalizing o got with
  | nil => rfl
  | cons b bytes ih =>
    obtain ⟨⟨hquote, hcontrol, hescape⟩, hbytes⟩ := List.forall_mem_cons.1 h
    rw [List.length_cons, ← Nat.add_assoc, List.cons_append, readBytes.eq_def]
    dsimp only
    rw [if_neg (by simpa using hquote), if_neg hcontrol, if_pos hescape, ih hbytes]
    simp [Nat.add_assoc, Nat.add_comm 1]

theorem passBytes_plain {bytes : List UInt8} (h : ∀ b ∈ bytes, PlainByte b) (o : Nat) :
    passBytes (fuel + bytes.length) o (bytes ++ rest) = passBytes fuel (o + bytes.length) rest := by
  induction bytes generalizing o with
  | nil => rfl
  | cons b bytes ih =>
    obtain ⟨⟨hquote, hcontrol, hescape⟩, hbytes⟩ := List.forall_mem_cons.1 h
    rw [List.length_cons, ← Nat.add_assoc, List.cons_append, passBytes.eq_def]
    dsimp only
    rw [if_neg (by simpa using hquote), if_neg hcontrol, if_pos hescape, ih hbytes]
    simp [Nat.add_assoc, Nat.add_comm 1]

/-! ## Reading -/

section

variable {n : Nat} {digits : List UInt8} (o : Nat) (got rest : List UInt8)

theorem readBytes_escaped {letter b : UInt8} (h : plainEscape? letter = some b) :
    readBytes (fuel + 1) o got (92 :: letter :: rest) =
      readBytes fuel (o + 2) (b :: got) rest := by
  rw [readBytes.eq_def]
  simp [h]

theorem readBytes_unit (hunit : SpellsUnit digits n) (hscalar : n < 0xD800 ∨ 0xDFFF < n) :
    readBytes (fuel + 1) o got (92 :: 117 :: (digits ++ rest)) =
      readBytes fuel (o + 6) ((String.utf8EncodeChar (Char.ofNat n)).reverse ++ got) rest := by
  obtain ⟨hof, hdrop⟩ := hunit.unitOf (o + 2) rest
  have hletter : plainEscape? 117 = none := by decide
  have htrailing : isTrailing n = false := by
    simp only [isTrailing, Bool.and_eq_false_iff, decide_eq_false_iff_not]
    omega
  have hleading : isLeading n = false := by
    simp only [isLeading, Bool.and_eq_false_iff, decide_eq_false_iff_not]
    omega
  rw [readBytes.eq_def]
  simp [hletter, hof, hdrop, htrailing, hleading, codeBytes]

theorem readBytes_pair {m : Nat} {others : List UInt8} (hleading : SpellsUnit digits n)
    (hfirst : 0xD800 ≤ n ∧ n ≤ 0xDBFF) (htrailing : SpellsUnit others m)
    (hsecond : 0xDC00 ≤ m ∧ m ≤ 0xDFFF) :
    readBytes (fuel + 1) o got (92 :: 117 :: (digits ++ 92 :: 117 :: (others ++ rest))) =
      readBytes fuel (o + 12) ((String.utf8EncodeChar
        (Char.ofNat ((n - 0xD800) * 1024 + (m - 0xDC00) + 0x10000))).reverse ++ got) rest := by
  obtain ⟨hof, hdrop⟩ := hleading.unitOf (o + 2) (92 :: 117 :: (others ++ rest))
  obtain ⟨hofOthers, hdropOthers⟩ := htrailing.unitOf (o + 8) rest
  have hletter : plainEscape? 117 = none := by decide
  have hnot : isTrailing n = false := by
    simp only [isTrailing, Bool.and_eq_false_iff, decide_eq_false_iff_not]
    omega
  have hleads : isLeading n = true := by
    simp only [isLeading, Bool.and_eq_true, decide_eq_true_eq]
    omega
  have htrails : isTrailing m = true := by
    simp only [isTrailing, Bool.and_eq_true, decide_eq_true_eq]
    omega
  rw [readBytes.eq_def]
  simp [hletter, hof, hdrop, hnot, hleads, hofOthers, hdropOthers, htrails, codeBytes]

end

/-- The bytes of the characters are what is read. -/
theorem readBytes_spelled {bytes : List UInt8} {cs : List Char} (h : SpellsText bytes cs)
    (hfuel : bytes.length < fuel) (o : Nat) (got : List UInt8) :
    ∃ stop, readBytes fuel o got (bytes ++ 34 :: rest) =
      .ok (got.reverse ++ cs.flatMap String.utf8EncodeChar, ⟨stop, rest⟩) := by
  induction h generalizing fuel o got with
  | nil =>
    obtain ⟨fuel, rfl⟩ : ∃ k, fuel = k + 1 := ⟨fuel - 1, by omega⟩
    exact ⟨o + 1, by simp [readBytes.eq_def]⟩
  | @plain c bytes cs quote escape control _ ih =>
    rw [List.length_append] at hfuel
    obtain ⟨fuel, rfl⟩ : ∃ k, fuel = k + (String.utf8EncodeChar c).length :=
      ⟨fuel - (String.utf8EncodeChar c).length, by omega⟩
    have hrest : bytes.length < fuel := by omega
    rw [List.append_assoc, readBytes_plain (plainByte_of_plain quote escape control)]
    obtain ⟨stop, hread⟩ := ih hrest _ _
    exact ⟨stop, by rw [hread]; simp⟩
  | @escaped _ _ bytes _ listed _ ih =>
    obtain ⟨b, hletter, hbyte⟩ := plainEscape?_of_mem listed
    simp only [List.length_cons] at hfuel
    obtain ⟨fuel, rfl⟩ : ∃ k, fuel = k + 1 := ⟨fuel - 1, by omega⟩
    have hrest : bytes.length < fuel := by omega
    rw [List.cons_append, List.cons_append, readBytes_escaped _ _ _ hletter]
    obtain ⟨stop, hread⟩ := ih hrest _ _
    exact ⟨stop, by rw [hread]; simp [hbyte]⟩
  | @unit _ _ bytes _ spelled scalar _ ih =>
    simp only [List.length_cons, List.length_append] at hfuel
    obtain ⟨fuel, rfl⟩ : ∃ k, fuel = k + 1 := ⟨fuel - 1, by omega⟩
    have hrest : bytes.length < fuel := by omega
    rw [List.cons_append, List.cons_append, List.append_assoc,
      readBytes_unit _ _ _ spelled scalar]
    obtain ⟨stop, hread⟩ := ih hrest _ _
    exact ⟨stop, by rw [hread]; simp⟩
  | @pair _ _ _ _ bytes _ leading first trailing second _ ih =>
    simp only [List.length_cons, List.length_append] at hfuel
    obtain ⟨fuel, rfl⟩ : ∃ k, fuel = k + 1 := ⟨fuel - 1, by omega⟩
    have hrest : bytes.length < fuel := by omega
    simp only [List.cons_append, List.append_assoc]
    rw [readBytes_pair _ _ _ leading first trailing second]
    obtain ⟨stop, hread⟩ := ih hrest _ _
    exact ⟨stop, by rw [hread]; simp⟩

theorem readText_spelled {bytes : List UInt8} {s : String} (h : SpellsText bytes s.toList)
    (o : Nat) (rest : List UInt8) :
    ∃ stop, readText ⟨o, bytes ++ 34 :: rest⟩ = .ok (s, ⟨stop, rest⟩) := by
  have hfuel : bytes.length < (bytes ++ 34 :: rest).length + 1 := by
    rw [List.length_append]
    omega
  obtain ⟨stop, hread⟩ := readBytes_spelled h hfuel o []
  refine ⟨stop, ?_⟩
  unfold readText
  rw [hread]
  exact congrArg (fun s => Except.ok (s, _)) (Text.Utf8.lossy_encode s)

/-! ## Passing over -/

section

variable {n : Nat} {digits : List UInt8} (o : Nat) (rest : List UInt8)

theorem passBytes_escaped {letter b : UInt8} (h : plainEscape? letter = some b) :
    passBytes (fuel + 1) o (92 :: letter :: rest) = passBytes fuel (o + 2) rest := by
  rw [passBytes.eq_def]
  simp [h]

theorem passBytes_unit (hunit : SpellsUnit digits n) :
    passBytes (fuel + 1) o (92 :: 117 :: (digits ++ rest)) = passBytes fuel (o + 6) rest := by
  obtain ⟨hof, hdrop⟩ := hunit.unitOf (o + 2) rest
  have hletter : plainEscape? 117 = none := by decide
  rw [passBytes.eq_def]
  simp [hletter, hof, hdrop]

end

theorem passBytes_spelled {bytes : List UInt8} {cs : List Char} (h : SpellsText bytes cs)
    (hfuel : bytes.length < fuel) (o : Nat) :
    ∃ stop, passBytes fuel o (bytes ++ 34 :: rest) = .ok ⟨stop, rest⟩ := by
  induction h generalizing fuel o with
  | nil =>
    obtain ⟨fuel, rfl⟩ : ∃ k, fuel = k + 1 := ⟨fuel - 1, by omega⟩
    exact ⟨o + 1, by simp [passBytes.eq_def]⟩
  | @plain c bytes cs quote escape control _ ih =>
    rw [List.length_append] at hfuel
    obtain ⟨fuel, rfl⟩ : ∃ k, fuel = k + (String.utf8EncodeChar c).length :=
      ⟨fuel - (String.utf8EncodeChar c).length, by omega⟩
    rw [List.append_assoc, passBytes_plain (plainByte_of_plain quote escape control)]
    exact ih (by omega) _
  | escaped listed _ ih =>
    obtain ⟨b, hletter, -⟩ := plainEscape?_of_mem listed
    simp only [List.length_cons] at hfuel
    obtain ⟨fuel, rfl⟩ : ∃ k, fuel = k + 1 := ⟨fuel - 1, by omega⟩
    rw [List.cons_append, List.cons_append, passBytes_escaped _ _ hletter]
    exact ih (by omega) _
  | unit spelled _ _ ih =>
    simp only [List.length_cons, List.length_append] at hfuel
    obtain ⟨fuel, rfl⟩ : ∃ k, fuel = k + 1 := ⟨fuel - 1, by omega⟩
    rw [List.cons_append, List.cons_append, List.append_assoc, passBytes_unit _ _ spelled]
    exact ih (by omega) _
  | pair leading _ trailing _ _ ih =>
    simp only [List.length_cons, List.length_append] at hfuel
    obtain ⟨fuel, rfl⟩ : ∃ k, fuel = k + 2 := ⟨fuel - 2, by omega⟩
    simp only [List.cons_append, List.append_assoc]
    rw [passBytes_unit _ _ leading, passBytes_unit _ _ trailing]
    exact ih (by omega) _

theorem passText_spelled {bytes : List UInt8} {cs : List Char} (h : SpellsText bytes cs)
    (o : Nat) (rest : List UInt8) :
    ∃ stop, passText ⟨o, bytes ++ 34 :: rest⟩ = .ok ⟨stop, rest⟩ := by
  have hfuel : bytes.length < (bytes ++ 34 :: rest).length + 1 := by
    rw [List.length_append]
    omega
  exact passBytes_spelled h hfuel o

end ImageGateway.Json
