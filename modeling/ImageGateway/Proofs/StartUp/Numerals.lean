-- Words and numbers between blanks. A text is trimmed to what stands between the
-- blanks at its ends, and it reads as a number of 32 bits exactly if it is an
-- optional sign and then digits, of a value in range.

import ImageGateway.Text.Blank
import ImageGateway.Text.Decimal
import Mathlib.Algebra.Ring.Int.Defs

namespace ImageGateway.Text

/-! ## Blanks at both ends -/

/-- The characters are those of `inner`, with blanks before and behind them or not. -/
def Around (inner cs : List Char) : Prop :=
  ∃ before after, cs = before ++ inner ++ after ∧
    (∀ c ∈ before, isBlank c = true) ∧ ∀ c ∈ after, isBlank c = true

theorem dropBlanksAtEnd_append_blanks {inner after : List Char}
    (h : ∀ c ∈ after, isBlank c = true) :
    dropBlanksAtEnd (inner ++ after) = dropBlanksAtEnd inner := by
  unfold dropBlanksAtEnd
  rw [List.reverse_append, List.dropWhile_append_of_pos (by simpa using h)]

theorem dropWhile_eq_self {cs : List Char} (h : ∀ c ∈ cs, isBlank c = false) :
    cs.dropWhile isBlank = cs := by
  cases cs with
  | nil => rfl
  | cons c cs => simp [h c List.mem_cons_self]

theorem dropBlanksAtEnd_eq_self {cs : List Char} (h : ∀ c ∈ cs, isBlank c = false) :
    dropBlanksAtEnd cs = cs := by
  unfold dropBlanksAtEnd
  rw [dropWhile_eq_self (by simpa using h), List.reverse_reverse]

/-- A trimmed text has nothing but blanks around it. -/
theorem around_trim (s : String) : Around (trim s).toList s.toList := by
  have hcut (cs : List Char) :
      cs = dropBlanksAtEnd cs ++ (cs.reverse.takeWhile isBlank).reverse := by
    have h := congrArg List.reverse
      (List.takeWhile_append_dropWhile (p := isBlank) (l := cs.reverse))
    rw [List.reverse_append, List.reverse_reverse] at h
    exact h.symm
  have hblank {cs : List Char} : ∀ c ∈ cs.takeWhile isBlank, isBlank c = true := fun c hc =>
    List.all_eq_true.1 List.all_takeWhile c hc
  refine ⟨s.toList.takeWhile isBlank,
    ((s.toList.dropWhile isBlank).reverse.takeWhile isBlank).reverse, ?_, hblank, ?_⟩
  · unfold trim
    rw [String.toList_ofList, List.append_assoc, ← hcut, List.takeWhile_append_dropWhile]
  · intro c hc
    exact hblank c (List.mem_reverse.1 hc)

/-- A word without blanks is what is left exactly of the texts that have it between blanks. -/
theorem trim_eq_iff {inner : List Char} {s : String} (h : ∀ c ∈ inner, isBlank c = false) :
    (trim s).toList = inner ↔ Around inner s.toList := by
  constructor
  · rintro rfl
    exact around_trim s
  · rintro ⟨before, after, hs, hbefore, hafter⟩
    unfold trim
    rw [String.toList_ofList, hs, List.append_assoc, List.dropWhile_append_of_pos hbefore]
    cases inner with
    | nil =>
      rw [List.nil_append, ← List.append_nil after, List.dropWhile_append_of_pos hafter]
      rfl
    | cons c inner =>
      have hc : isBlank c = false := h c List.mem_cons_self
      rw [List.cons_append, List.dropWhile_cons_of_neg (by simp [hc]), ← List.cons_append,
        dropBlanksAtEnd_append_blanks hafter, dropBlanksAtEnd_eq_self h]

/-! ## Numbers -/

/-- One digit or more. -/
structure Digits (ds : List Char) : Prop where
  any : ds ≠ []
  only : ∀ d ∈ ds, d.isDigit = true

/-- The characters are an optional sign and then digits, and they denote the number. -/
inductive Decimal : List Char → Int → Prop where
  | unsigned {ds : List Char} (h : Digits ds) : Decimal ds (Nat.ofDigitChars 10 ds 0)
  | plus {ds : List Char} (h : Digits ds) : Decimal ('+' :: ds) (Nat.ofDigitChars 10 ds 0)
  | minus {ds : List Char} (h : Digits ds) : Decimal ('-' :: ds) (-(Nat.ofDigitChars 10 ds 0))

theorem toNat_of_isDigit {c : Char} (h : c.isDigit = true) : 48 ≤ c.toNat ∧ c.toNat ≤ 57 := by
  simpa [Char.isDigit, UInt32.le_iff_toNat_le] using h

theorem isBlank_of_isDigit {c : Char} (h : c.isDigit = true) : isBlank c = false := by
  have hc := toNat_of_isDigit h
  simp only [isBlank, Bool.or_eq_false_iff, Bool.and_eq_false_iff, decide_eq_false_iff_not,
    beq_eq_false_iff_ne]
  omega

theorem digit?_of_isDigit {c : Char} (h : c.isDigit = true) :
    digit? c = some (c.toNat - '0'.toNat) := by
  have hc : '0' ≤ c ∧ c ≤ '9' := by simpa [Char.isDigit, Char.le_def] using h
  exact if_pos hc

theorem digit?_of_not_isDigit {c : Char} (h : c.isDigit = false) : digit? c = none := by
  have hc : ¬('0' ≤ c ∧ c ≤ '9') := by simpa [Char.isDigit, Char.le_def] using h
  exact if_neg hc

theorem Digits.isDigit_head {d : Char} {ds : List Char} (h : Digits (d :: ds)) :
    d.isDigit = true := h.only d List.mem_cons_self

/-- More digits never make a number smaller. -/
theorem le_ofDigitChars (value : Nat) (ds : List Char) : value ≤ Nat.ofDigitChars 10 ds value := by
  induction ds generalizing value with
  | nil => exact Nat.le_of_eq Nat.ofDigitChars_nil.symm
  | cons d ds ih =>
    rw [Nat.ofDigitChars_cons]
    exact Nat.le_trans (by omega) (ih _)

/-- Digits are read to the end exactly if their value stays below the limit. As the value only
grows, the first digit that goes beyond it is not made good later. -/
theorem readDigits_eq_ok_iff {limit value n : Nat} {beyond : IntegerFault} {cs : List Char}
    (h : value ≤ limit) :
    readDigits limit beyond value cs = .ok n ↔
      (∀ c ∈ cs, c.isDigit = true) ∧ Nat.ofDigitChars 10 cs value = n ∧ n ≤ limit := by
  induction cs generalizing value with
  | nil =>
    simp only [readDigits, Except.ok.injEq, Nat.ofDigitChars_nil]
    constructor
    · rintro rfl
      exact ⟨by simp, rfl, h⟩
    · rintro ⟨-, rfl, -⟩
      rfl
  | cons c cs ih =>
    unfold readDigits
    rw [List.forall_mem_cons, Nat.ofDigitChars_cons]
    cases hc : c.isDigit with
    | false =>
      rw [digit?_of_not_isDigit hc]
      simp
    | true =>
      rw [digit?_of_isDigit hc]
      dsimp only
      rw [Nat.mul_comm value 10]
      by_cases hfits : 10 * value + (c.toNat - '0'.toNat) ≤ limit
      · rw [if_pos hfits, ih hfits]
        simp
      · rw [if_neg hfits]
        have hgrows := le_ofDigitChars (10 * value + (c.toNat - '0'.toNat)) cs
        constructor
        · intro h
          cases h
        · rintro ⟨-, rfl, hlimit⟩
          exact absurd (Nat.le_trans hgrows hlimit) hfits

/-- The digits behind a sign, or without one. -/
theorem signed_readDigits_eq_ok_iff {limit : Nat} {beyond : IntegerFault} {cs : List Char}
    {sign : Int → Int} {n : Int} :
    (do let m ← readDigits limit beyond 0 cs; pure (m : Int)).map sign = .ok n ↔
      (∀ c ∈ cs, c.isDigit = true) ∧ sign (Nat.ofDigitChars 10 cs 0) = n ∧
        Nat.ofDigitChars 10 cs 0 ≤ limit := by
  have hread {m : Nat} : readDigits limit beyond 0 cs = .ok m ↔ _ :=
    readDigits_eq_ok_iff (Nat.zero_le limit)
  cases hcs : readDigits limit beyond 0 cs with
  | ok m =>
    obtain ⟨hdigits, rfl, hlimit⟩ := hread.1 hcs
    show Except.ok (sign _) = .ok n ↔ _
    rw [Except.ok.injEq]
    exact ⟨fun h => ⟨hdigits, h, hlimit⟩, fun h => h.2.1⟩
  | error fault =>
    show Except.error fault = .ok n ↔ _
    simp only [reduceCtorEq, false_iff]
    rintro ⟨hdigits, -, hlimit⟩
    exact nomatch hcs.symm.trans (hread.2 ⟨hdigits, rfl, hlimit⟩)

theorem decimal_minus_iff {cs : List Char} {n : Int} :
    Decimal ('-' :: cs) n ↔ Digits cs ∧ -(Nat.ofDigitChars 10 cs 0 : Int) = n := by
  constructor
  · intro h
    cases h with
    | unsigned h => exact absurd h.isDigit_head (by decide)
    | minus h => exact ⟨h, rfl⟩
  · rintro ⟨h, rfl⟩
    exact .minus h

theorem decimal_plus_iff {cs : List Char} {n : Int} :
    Decimal ('+' :: cs) n ↔ Digits cs ∧ (Nat.ofDigitChars 10 cs 0 : Int) = n := by
  constructor
  · intro h
    cases h with
    | unsigned h => exact absurd h.isDigit_head (by decide)
    | plus h => exact ⟨h, rfl⟩
  · rintro ⟨h, rfl⟩
    exact .plus h

theorem decimal_unsigned_iff {cs : List Char} {n : Int} (hminus : ∀ ds, cs ≠ '-' :: ds)
    (hplus : ∀ ds, cs ≠ '+' :: ds) :
    Decimal cs n ↔ Digits cs ∧ (Nat.ofDigitChars 10 cs 0 : Int) = n := by
  constructor
  · intro h
    cases h with
    | unsigned h => exact ⟨h, rfl⟩
    | plus h => exact absurd rfl (hplus _)
    | minus h => exact absurd rfl (hminus _)
  · rintro ⟨h, rfl⟩
    exact .unsigned h

theorem not_decimal_nil {n : Int} : ¬ Decimal [] n := by
  intro h
  cases h with
  | unsigned h => exact h.any rfl

/-- What reads as a number is its decimal form, and the number has 32 bits. -/
theorem readInt32Chars_eq_ok_iff {cs : List Char} {n : Int} :
    readInt32Chars cs = .ok n ↔ Decimal cs n ∧ -2 ^ 31 ≤ n ∧ n < 2 ^ 31 := by
  have hdigits {ds : List Char} (h : ds ≠ []) : (∀ d ∈ ds, d.isDigit = true) ↔ Digits ds :=
    ⟨fun hall => ⟨h, hall⟩, fun hds => hds.only⟩
  have hbare {ds : List Char} (h : ds ≠ []) :
      ((∀ d ∈ ds, d.isDigit = true) ∧ (Nat.ofDigitChars 10 ds 0 : Int) = n ∧
          Nat.ofDigitChars 10 ds 0 ≤ 2147483647) ↔
        (Digits ds ∧ (Nat.ofDigitChars 10 ds 0 : Int) = n) ∧ -2 ^ 31 ≤ n ∧ n < 2 ^ 31 := by
    rw [hdigits h]
    constructor
    · rintro ⟨hds, rfl, hlimit⟩
      exact ⟨⟨hds, rfl⟩, by omega, by omega⟩
    · rintro ⟨⟨hds, rfl⟩, -, hhigh⟩
      exact ⟨hds, rfl, by omega⟩
  unfold readInt32Chars
  split
  · simp [not_decimal_nil]
  · simp only [reduceCtorEq, false_iff]
    rintro ⟨h, -⟩
    exact (decimal_minus_iff.1 h).1.any rfl
  · simp only [reduceCtorEq, false_iff]
    rintro ⟨h, -⟩
    exact (decimal_plus_iff.1 h).1.any rfl
  · next ds hne =>
    rw [signed_readDigits_eq_ok_iff, decimal_minus_iff, hdigits (by simpa using hne)]
    constructor
    · rintro ⟨hds, rfl, hlimit⟩
      exact ⟨⟨hds, rfl⟩, by omega, by omega⟩
    · rintro ⟨⟨hds, rfl⟩, hlow, -⟩
      exact ⟨hds, rfl, by omega⟩
  · next ds hne =>
    rw [signed_readDigits_eq_ok_iff, decimal_plus_iff]
    exact hbare (by simpa using hne)
  · next hnil _ _ hminus hplus =>
    rw [signed_readDigits_eq_ok_iff, decimal_unsigned_iff (fun _ => hminus _) (fun _ => hplus _)]
    exact hbare (by simpa using hnil)

theorem readInt32_eq_ok_iff {s : String} {k : Int32} :
    readInt32 s = .ok k ↔ Decimal s.toList k.toInt := by
  have hrange : -2 ^ 31 ≤ k.toInt ∧ k.toInt < 2 ^ 31 := ⟨Int32.le_toInt k, Int32.toInt_lt k⟩
  unfold readInt32
  constructor
  · intro h
    cases hread : readInt32Chars s.toList with
    | error fault =>
      rw [hread] at h
      cases h
    | ok n =>
      rw [hread] at h
      cases h
      obtain ⟨hn, hlow, hhigh⟩ := readInt32Chars_eq_ok_iff.1 hread
      rwa [Int32.toInt_ofInt_of_le hlow hhigh]
  · intro h
    rw [readInt32Chars_eq_ok_iff.2 ⟨h, hrange⟩]
    show Except.ok (Int32.ofInt k.toInt) = .ok k
    rw [Int32.ofInt_toInt]

/-! ## The decimal form of a number -/

theorem digits_toDigits (n : Nat) : Digits (Nat.toDigits 10 n) :=
  ⟨Nat.toDigits_ne_nil, fun _ => Nat.isDigit_of_mem_toDigits (by decide) (by decide)⟩

/-- The decimal form denotes the number. -/
theorem decimal_toString (n : Int) : Decimal (toString n).toList n := by
  rw [Int.toString_eq_repr, Int.repr_eq_if]
  by_cases h : 0 ≤ n
  · obtain ⟨m, rfl⟩ := Int.eq_ofNat_of_zero_le h
    rw [if_pos h, Nat.toList_repr]
    have hvalue := Decimal.unsigned (digits_toDigits m)
    rwa [Nat.ofDigitChars_ten_toDigits] at hvalue
  · obtain ⟨m, rfl⟩ : ∃ m : Nat, n = -m := ⟨(-n).toNat, by omega⟩
    rw [if_neg h]
    have hvalue := Decimal.minus (digits_toDigits m)
    rw [Nat.ofDigitChars_ten_toDigits] at hvalue
    simpa using hvalue

theorem Decimal.not_blank {cs : List Char} {n : Int} (h : Decimal cs n) :
    ∀ c ∈ cs, isBlank c = false := by
  have hds {ds : List Char} (h : Digits ds) : ∀ c ∈ ds, isBlank c = false := fun c hc =>
    isBlank_of_isDigit (h.only c hc)
  cases h with
  | unsigned h => exact hds h
  | plus h => exact List.forall_mem_cons.2 ⟨rfl, hds h⟩
  | minus h => exact List.forall_mem_cons.2 ⟨rfl, hds h⟩

/-- A number is read from a text exactly if its blanks surround a form of that number. -/
theorem readInt32_trim_eq_ok_iff {s : String} {k : Int32} :
    readInt32 (trim s) = .ok k ↔ ∃ cs, Decimal cs k.toInt ∧ Around cs s.toList := by
  rw [readInt32_eq_ok_iff]
  constructor
  · intro h
    exact ⟨_, h, around_trim s⟩
  · rintro ⟨cs, hcs, haround⟩
    rwa [(trim_eq_iff hcs.not_blank).2 haround]

end ImageGateway.Text
