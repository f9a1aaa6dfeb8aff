-- Numbers of a document. A number is passed over as it is written, up to its last
-- sign, and it is read as a whole number exactly if it is written as one and has
-- 64 bits. Every other number is a double, or is out of the range of doubles.

import ImageGateway.Proofs.Documents.Grammar
import Mathlib.Algebra.Ring.Int.Defs

namespace ImageGateway.Json

/-! ## Places -/

theorem Cursor.skip_append (o : Nat) (first rest : List UInt8) :
    Cursor.skip ⟨o, first ++ rest⟩ first.length = ⟨o + first.length, rest⟩ := by
  simp [Cursor.skip]

@[simp] theorem Cursor.skip_cons (o : Nat) (b : UInt8) (rest : List UInt8) :
    Cursor.skip ⟨o, b :: rest⟩ 1 = ⟨o + 1, rest⟩ := rfl

/-- What `p` takes from the front is all of `first`, if `p` stops behind it. -/
theorem takeWhile_append {p : UInt8 → Bool} {first rest : List UInt8}
    (hfirst : ∀ b ∈ first, p b = true) (hrest : ∀ b ∈ rest.head?, p b = false) :
    (first ++ rest).takeWhile p = first := by
  rw [List.takeWhile_append_of_pos hfirst]
  cases rest with
  | nil => simp
  | cons b rest => simp [hrest b rfl]

/-! ## The value of digits -/

theorem le_valueOf (digits : List UInt8) (before : Nat) : before ≤ valueOf digits before := by
  induction digits generalizing before with
  | nil => exact Nat.le_refl before
  | cons b digits ih => exact Nat.le_trans (by omega) (ih (before * 10 + (b.toNat - 48)))

/-- Digits are taken to the last one as long as 64 bits hold their value. -/
theorem take_of_lt {digits : List UInt8} {s : Significand}
    (h : valueOf digits s.value < UInt64.size) :
    s.take digits = ⟨valueOf digits s.value, s.taken + digits.length⟩ := by
  induction digits generalizing s with
  | nil => rfl
  | cons b digits ih =>
    have hnext : s.value * 10 + (b.toNat - 48) < UInt64.size :=
      Nat.lt_of_le_of_lt (le_valueOf digits _) h
    unfold Significand.take
    rw [if_pos hnext, ih (s := ⟨_, s.taken + 1⟩) h]
    simp only [valueOf, List.foldl_cons, List.length_cons, Significand.mk.injEq, true_and]
    omega

/-- Otherwise one at least is left over. -/
theorem take_of_le {digits : List UInt8} {s : Significand} (hs : s.value < UInt64.size)
    (h : UInt64.size ≤ valueOf digits s.value) :
    (s.take digits).taken < s.taken + digits.length := by
  induction digits generalizing s with
  | nil => exact absurd h (Nat.not_le.2 hs)
  | cons b digits ih =>
    unfold Significand.take
    dsimp only
    split
    · next hnext =>
      have hrest := ih (s := ⟨s.value * 10 + (b.toNat - 48), s.taken + 1⟩) hnext h
      rw [List.length_cons]
      dsimp only at hrest
      omega
    · rw [List.length_cons]
      omega

theorem ne_of_isDigit {b c : UInt8} (hb : isDigit b = true) (hc : isDigit c = false) : b ≠ c := by
  rintro rfl
  exact nomatch hc.symm.trans hb

theorem Digits.exists_cons (digits : Digits) :
    ∃ d ds, digits.bytes = d :: ds ∧ isDigit d = true := by
  obtain ⟨d, ds, hcons⟩ := List.exists_cons_of_ne_nil digits.any
  exact ⟨d, ds, hcons, digits.only d (by simp [hcons])⟩

/-- The digits of an exponent start behind its letter and its sign. -/
theorem Exponent.skip_sign (e : Exponent) (letter : UInt8) (o : Nat) (rest : List UInt8) :
    ∃ start, Cursor.skip ⟨o, letter :: (e.power ++ rest)⟩
      (if (e.power ++ rest).head? == some 43 || (e.power ++ rest).head? == some 45 then 2 else 1) =
        ⟨start, e.digits.bytes ++ rest⟩ := by
  unfold power
  cases e.minus? with
  | none =>
    obtain ⟨d, ds, hcons, hfirst⟩ := e.digits.exists_cons
    have hplus : d ≠ 43 := ne_of_isDigit hfirst rfl
    have hminus : d ≠ 45 := ne_of_isDigit hfirst rfl
    refine ⟨o + 1, ?_⟩
    rw [if_neg (by simp [hcons, hplus, hminus])]
    rfl
  | some minus =>
    refine ⟨o + 2, ?_⟩
    rw [if_pos (by cases minus <;> rfl)]
    rfl

/-! ## Doubles -/

/-- If this reads a number at all, it is a double. -/
def Floats (r : Except Fault (Number × Cursor)) : Prop :=
  ∀ x after, r = .ok (x, after) → ∃ d, x = .floating d

theorem floats_error (f : Fault) : Floats (.error f) := nofun

theorem finish_floats (c : Cursor) (positive : Bool) (significand : Nat) (exponent : Int) :
    Floats (finish c positive significand exponent) := by
  unfold finish
  split
  · rintro _ _ ⟨⟩
    exact ⟨_, rfl⟩
  · exact floats_error _

theorem readExponent_floats (c : Cursor) (positive : Bool) (significand : Nat) (exponent : Int) :
    Floats (readExponent c positive significand exponent) := by
  unfold readExponent
  lift_lets
  intro c
  split
  next positiveExponent c _ =>
    dsimp only
    split
    · exact floats_error _
    · split
      · split
        · exact finish_floats _ _ _ _
        · split
          · exact floats_error _
          · exact finish_floats _ _ _ _
      · exact floats_error _

theorem readTail_floats (c : Cursor) (positive : Bool) (significand : Nat) (exponent : Int) :
    Floats (readTail c positive significand exponent) := by
  unfold readTail
  split
  · exact readExponent_floats _ _ _ _
  · exact readExponent_floats _ _ _ _
  · exact finish_floats _ _ _ _

theorem readFraction_floats (c : Cursor) (positive : Bool) (significand : Nat) (exponent : Int) :
    Floats (readFraction c positive significand exponent) := by
  unfold readFraction
  dsimp only
  split
  · exact floats_error _
  · exact floats_error _
  · exact readTail_floats _ _ _ _

/-! ## Whole numbers -/

/-- Neither a digit follows nor the sign of a fraction or of an exponent. -/
def EndsNumber (rest : List UInt8) : Prop :=
  ∀ b ∈ rest.head?, isDigit b = false ∧ b ≠ 46 ∧ b ≠ 101 ∧ b ≠ 69

namespace Numeral

variable {n : Numeral} {rest : List UInt8}

/-- What a reader finds where the number is written. -/
inductive Reads (n : Numeral) : Except Fault Number → Prop where
  | natural {k : UInt64} (whole : n.value? = some (k.toNat : Int)) : Reads n (.ok (.natural k))
  | negative {k : Int64} (whole : n.value? = some k.toInt) (below : k.toInt < 0) :
      Reads n (.ok (.negative k))
  /-- The number is not written as a whole one, or is beyond 64 bits. -/
  | other {r : Except Fault Number} (floats : ∀ x, r = .ok x → ∃ d, x = .floating d)
      (beyond : ∀ k, n.value? = some k → k < -2 ^ 63 ∨ 2 ^ 64 ≤ k) : Reads n r

theorem reads_of_floats {r : Except Fault (Number × Cursor)} (h : Floats r)
    (hbeyond : ∀ k, n.value? = some k → k < -2 ^ 63 ∨ 2 ^ 64 ≤ k) : n.Reads (r.map (·.1)) := by
  refine .other ?_ hbeyond
  intro x hx
  cases r with
  | error f => cases hx
  | ok found =>
    cases hx
    exact h _ _ rfl

/-- What can stand behind the whole digits. -/
theorem tail_cases (n : Numeral) :
    (∃ digits, n.fraction = some digits ∧ n.tail = 46 :: (digits.bytes ++ n.scale)) ∨
      n.fraction = none ∧ n.tail = n.scale := by
  unfold tail
  cases n.fraction with
  | some digits => exact .inl ⟨digits, rfl, rfl⟩
  | none => exact .inr ⟨rfl, rfl⟩

theorem scale_cases (n : Numeral) :
    (∃ e letter, n.exponent = some e ∧ n.scale = letter :: e.power ∧
      (letter = 69 ∨ letter = 101)) ∨ n.exponent = none ∧ n.scale = [] := by
  unfold scale
  cases n.exponent with
  | some e =>
    refine .inl ⟨e, _, rfl, rfl, ?_⟩
    cases e.capital with
    | true => exact .inl rfl
    | false => exact .inr rfl
  | none => exact .inr ⟨rfl, rfl⟩

/-- No digit stands where the exponent can stand. -/
theorem scale_not_digit (n : Numeral) (hrest : EndsNumber rest) :
    ∀ b ∈ (n.scale ++ rest).head?, isDigit b = false := by
  intro b hb
  obtain ⟨e, letter, -, hscale, hletter⟩ | ⟨-, hscale⟩ := n.scale_cases
  · rw [hscale] at hb
    cases hb
    rcases hletter with rfl | rfl <;> rfl
  · rw [hscale] at hb
    exact (hrest b hb).1

/-- Behind the whole digits there is no other digit. -/
theorem tail_not_digit (n : Numeral) (hrest : EndsNumber rest) :
    ∀ b ∈ (n.tail ++ rest).head?, isDigit b = false := by
  intro b hb
  obtain ⟨digits, -, htail⟩ | ⟨-, htail⟩ := n.tail_cases
  · rw [htail] at hb
    cases hb
    rfl
  · rw [htail] at hb
    exact n.scale_not_digit hrest b hb

/-- The first of the whole digits, where it is a zero, is the only one. -/
theorem whole_cases (n : Numeral) (hrest : EndsNumber rest) :
    ∃ d ds, n.whole.bytes = d :: ds ∧ isDigit d = true ∧
      (d == 48 && (ds ++ (n.tail ++ rest)).head?.any isDigit) = false := by
  obtain ⟨d, ds, hcons, hfirst⟩ := n.whole.exists_cons
  refine ⟨d, ds, hcons, hfirst, ?_⟩
  by_cases hzero : d = 48
  · obtain rfl : ds = [] := by simpa [hcons, hzero] using n.plain
    simpa [Option.any_eq_false] using fun _ => n.tail_not_digit hrest
  · simp [hzero]

/-- A number that is written as a whole one. -/
theorem wholeNumber_reads (hfraction : n.fraction = none) (hexponent : n.exponent = none)
    (hvalue : n.whole.value < UInt64.size) :
    n.Reads (.ok (wholeNumber (!n.minus) n.whole.value)) := by
  obtain ⟨minus, whole, plain, fraction, exponent⟩ := n
  obtain rfl : fraction = none := hfraction
  obtain rfl : exponent = none := hexponent
  dsimp only at hvalue ⊢
  have hsize : UInt64.size = 2 ^ 64 := rfl
  have hmin : Int64.minValue.toInt = -2 ^ 63 := by decide
  unfold wholeNumber
  cases minus with
  | false =>
    refine .natural ?_
    have hback : whole.value.toUInt64.toNat = whole.value :=
      Nat.mod_eq_of_lt (hsize ▸ hvalue)
    rw [hback]
    rfl
  | true =>
    rw [if_neg (by decide)]
    by_cases hrange : 0 < whole.value ∧ Int64.minValue.toInt ≤ -(whole.value : Int)
    · rw [if_pos hrange]
      have hback : (Int64.ofInt (-(whole.value : Int))).toInt = -whole.value :=
        Int64.toInt_ofInt_of_le (by omega) (by omega)
      refine .negative ?_ ?_
      · have hpositive : whole.value ≠ 0 := by omega
        rw [hback]
        simp [value?, hpositive]
      · omega
    · rw [if_neg hrange]
      refine .other ?_ fun k hk => ?_
      · rintro _ ⟨⟩
        exact ⟨_, rfl⟩
      · obtain ⟨hzero, rfl⟩ : whole.value ≠ 0 ∧ -(whole.value : Int) = k := by
          simpa [value?] using hk
        omega

/-- A whole number of too many digits is beyond 64 bits on either side of zero. -/
theorem beyond_of_le (hfraction : n.fraction = none) (hexponent : n.exponent = none)
    (hvalue : UInt64.size ≤ n.whole.value) (k : Int) (hk : n.value? = some k) :
    k < -2 ^ 63 ∨ 2 ^ 64 ≤ k := by
  have hsize : UInt64.size = 2 ^ 64 := rfl
  cases hminus : n.minus with
  | false =>
    obtain rfl : (n.whole.value : Int) = k := by
      simpa [value?, hfraction, hexponent, hminus] using hk
    omega
  | true =>
    obtain ⟨-, rfl⟩ : n.whole.value ≠ 0 ∧ -(n.whole.value : Int) = k := by
      simpa [value?, hfraction, hexponent, hminus] using hk
    omega

theorem readUnsigned_reads (n : Numeral) (o : Nat) (hrest : EndsNumber rest) :
    n.Reads ((readUnsigned ⟨o, n.whole.bytes ++ (n.tail ++ rest)⟩ (!n.minus)).map (·.1)) := by
  have hdigits := takeWhile_append n.whole.only (n.tail_not_digit hrest)
  have hskip := Cursor.skip_append o n.whole.bytes (n.tail ++ rest)
  obtain ⟨d, ds, hcons, hfirst, hplain⟩ := n.whole_cases hrest
  unfold readUnsigned
  simp only [hdigits, hskip]
  split
  · next hnil => simp [hcons] at hnil
  next b behind heq =>
  rw [hcons, List.cons_append] at heq
  cases heq
  rw [if_neg (by simp [hfirst]), if_neg (by rw [hplain]; exact Bool.false_ne_true)]
  obtain ⟨digits, hfraction, htail⟩ | ⟨hfraction, htail⟩ := n.tail_cases
  · rw [htail]
    refine reads_of_floats (readFraction_floats _ _ _ _) ?_
    simp [value?, hfraction]
  · obtain ⟨e, letter, hexponent, hscale, hletter⟩ | ⟨hexponent, hscale⟩ := n.scale_cases
    · rw [htail, hscale]
      have hvalue : ∀ k, n.value? = some k → k < -2 ^ 63 ∨ 2 ^ 64 ≤ k := by
        simp [value?, hfraction, hexponent]
      rcases hletter with rfl | rfl
      · exact reads_of_floats (readExponent_floats _ _ _ _) hvalue
      · exact reads_of_floats (readExponent_floats _ _ _ _) hvalue
    · rw [htail, hscale, List.nil_append]
      split
      · exact absurd rfl (hrest 46 rfl).2.1
      · exact absurd rfl (hrest 101 rfl).2.2.1
      · exact absurd rfl (hrest 69 rfl).2.2.2
      · by_cases hvalue : n.whole.value < UInt64.size
        · rw [take_of_lt (s := ⟨0, 0⟩) hvalue, if_pos (by simp)]
          exact wholeNumber_reads hfraction hexponent hvalue
        · have hbeyond := Nat.not_lt.1 hvalue
          have hleft := take_of_le (s := ⟨0, 0⟩) (by decide) hbeyond
          dsimp only at hleft
          rw [if_neg (by omega)]
          exact reads_of_floats (finish_floats _ _ _ _) (beyond_of_le hfraction hexponent hbeyond)

theorem readNumber_reads (n : Numeral) (o : Nat) (hrest : EndsNumber rest) :
    n.Reads ((readNumber ⟨o, n.bytes ++ rest⟩).map (·.1)) := by
  have hread (o : Nat) := n.readUnsigned_reads o hrest
  unfold readNumber bytes
  cases hminus : n.minus with
  | true =>
    rw [hminus] at hread
    rw [if_pos rfl, List.cons_append, List.append_assoc]
    exact hread (o + 1)
  | false =>
    obtain ⟨d, ds, hcons, hfirst, -⟩ := n.whole_cases hrest
    rw [hminus] at hread
    rw [if_neg Bool.false_ne_true, List.append_assoc]
    split
    · next hdash =>
      rw [hcons, List.cons_append] at hdash
      exact absurd (List.cons.inj hdash).1 (ne_of_isDigit hfirst rfl)
    · exact hread o

/-! ## Passing over -/

theorem passExponent_letter {letter : UInt8} (h : letter = 69 ∨ letter = 101) (o : Nat)
    (rest : List UInt8) :
    passExponent ⟨o, letter :: rest⟩ =
      (let c := Cursor.skip ⟨o, letter :: rest⟩
        (if rest.head? == some 43 || rest.head? == some 45 then 2 else 1)
      match c.rest with
      | [] => .error (c.fault .badNumber)
      | b :: _ =>
        if isDigit b then .ok (c.skip (c.rest.takeWhile isDigit).length)
        else .error ((c.skip 1).fault .badNumber)) := by
  rcases h with rfl | rfl <;> rfl

theorem passExponent_scale (n : Numeral) (o : Nat) (hrest : EndsNumber rest) :
    ∃ stop, passExponent ⟨o, n.scale ++ rest⟩ = .ok ⟨stop, rest⟩ := by
  obtain ⟨e, letter, -, hscale, hletter⟩ | ⟨-, hscale⟩ := n.scale_cases
  · obtain ⟨start, hstart⟩ := e.skip_sign letter o rest
    obtain ⟨d, ds, hcons, hfirst⟩ := e.digits.exists_cons
    have hdigits := takeWhile_append e.digits.only fun b hb => (hrest b hb).1
    have hskip := Cursor.skip_append start e.digits.bytes rest
    rw [hscale, List.cons_append]
    refine ⟨start + e.digits.bytes.length, ?_⟩
    rw [passExponent_letter hletter]
    dsimp only
    rw [hstart]
    dsimp only
    rw [hdigits, hskip, hcons, List.cons_append]
    exact if_pos hfirst
  · rw [hscale, List.nil_append]
    unfold passExponent
    split
    · next h => exact absurd rfl (hrest 101 (congrArg List.head? h)).2.2.1
    · next h => exact absurd rfl (hrest 69 (congrArg List.head? h)).2.2.2
    · exact ⟨o, rfl⟩

/-- The place where the whole digits start. -/
theorem skip_minus (n : Numeral) (o : Nat) (rest : List UInt8) (hrest : EndsNumber rest) :
    ∃ start, (if (n.bytes ++ rest).head? == some 45 then Cursor.skip ⟨o, n.bytes ++ rest⟩ 1
      else ⟨o, n.bytes ++ rest⟩) = ⟨start, n.whole.bytes ++ (n.tail ++ rest)⟩ := by
  unfold bytes
  cases n.minus with
  | true =>
    refine ⟨o + 1, ?_⟩
    rw [if_pos rfl, List.cons_append, List.append_assoc]
    rfl
  | false =>
    obtain ⟨d, ds, hcons, hfirst, -⟩ := n.whole_cases hrest
    have hminus : d ≠ 45 := ne_of_isDigit hfirst rfl
    refine ⟨o, ?_⟩
    rw [if_neg Bool.false_ne_true, List.append_assoc, if_neg (by simp [hcons, hminus])]

theorem passNumber_bytes (n : Numeral) (o : Nat) (hrest : EndsNumber rest) :
    ∃ stop, passNumber ⟨o, n.bytes ++ rest⟩ = .ok ⟨stop, rest⟩ := by
  obtain ⟨start, hstart⟩ := n.skip_minus o rest hrest
  have hdigits := takeWhile_append n.whole.only (n.tail_not_digit hrest)
  have hskip := Cursor.skip_append start n.whole.bytes (n.tail ++ rest)
  obtain ⟨d, ds, hcons, hfirst, hplain⟩ := n.whole_cases hrest
  unfold passNumber
  simp only [hstart, hdigits, hskip]
  split
  · next hnil => simp [hcons] at hnil
  next b behind heq =>
  rw [hcons, List.cons_append] at heq
  cases heq
  rw [if_neg (by simp [hfirst]), if_neg (by rw [hplain]; exact Bool.false_ne_true)]
  obtain ⟨digits, -, htail⟩ | ⟨-, htail⟩ := n.tail_cases
  · have hfraction := takeWhile_append digits.only (n.scale_not_digit hrest)
    have hbehind (o : Nat) := Cursor.skip_append o digits.bytes (n.scale ++ rest)
    simp only [htail, List.cons_append, List.append_assoc, Cursor.skip_cons, hfraction, hbehind]
    rw [if_neg (by simp [digits.any])]
    exact n.passExponent_scale _ hrest
  · rw [htail]
    split
    · next h =>
      obtain ⟨e, letter, -, hscale, hletter⟩ | ⟨-, hscale⟩ := n.scale_cases
      · rw [hscale] at h
        cases h
        rcases hletter with hletter | hletter <;> cases hletter
      · rw [hscale] at h
        exact absurd rfl (hrest 46 (congrArg List.head? h)).2.1
    · exact n.passExponent_scale _ hrest

end Numeral

end ImageGateway.Json
