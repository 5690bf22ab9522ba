import Rollout.Text.Index

/-!
# How an index is written

The texts that write an index differ in the plus sign and in the zeros before its digits. Without
these they are one and the same text, the one in which the index is shown.
-/

namespace Rollout.Text

/-- Digits, at least one, of a number that fits into 64 bits. -/
structure Spells (digits : List Char) (index : Nat) : Prop where
  ne_nil : digits ≠ []
  isDigit : ∀ c ∈ digits, c.isDigit = true
  value : Nat.ofDigitChars 10 digits 0 = index
  le : index ≤ 18446744073709551615

/-- A text writes an index in digits, with or without a plus sign. -/
def WritesIndex (written : String) (index : Nat) : Prop :=
  ∃ digits, (written.toList = digits ∨ written.toList = '+' :: digits) ∧ Spells digits index

/-- Digits without the zeros before them, of which one is left if there is nothing else. -/
def withoutZeros (digits : List Char) : List Char :=
  match digits.dropWhile (· = '0') with
  | [] => ['0']
  | significant => significant

/-- A written index without the sign and the zeros before it. -/
def plainIndex (written : String) : String :=
  match written.toList with
  | '+' :: digits => String.ofList (withoutZeros digits)
  | digits => String.ofList (withoutZeros digits)

variable {digits : List Char} {written : String} {index : Nat}

/-! ## What is read as an index -/

private theorem unsignedIndex?_eq_some_iff :
    unsignedIndex? digits = some index ↔ Spells digits index := by
  have hpow : Nat.pow 2 64 = 18446744073709551616 := rfl
  rw [unsignedIndex?, ofDigits, ← Nat.ofDigitChars_eq_foldl, hpow]
  constructor
  · intro h
    split at h
    · rename_i hwell
      obtain rfl := Option.some.inj h
      exact ⟨hwell.1, List.all_eq_true.mp hwell.2.1, rfl, by omega⟩
    · cases h
  · intro h
    have hlt : Nat.ofDigitChars 10 digits 0 < 18446744073709551616 := by
      have hle := h.value ▸ h.le
      omega
    rw [if_pos ⟨h.ne_nil, List.all_eq_true.mpr h.isDigit, hlt⟩, h.value]

private theorem Spells.ne_plus (h : Spells digits index) (rest : List Char) :
    digits ≠ '+' :: rest := by
  intro hplus
  have hdigit := h.isDigit '+' (hplus ▸ List.mem_cons_self)
  exact absurd hdigit (by decide)

theorem index?_eq_some_iff : index? written = some index ↔ WritesIndex written index := by
  rw [index?, WritesIndex]
  split
  · rename_i rest hplus
    rw [unsignedIndex?_eq_some_iff, hplus]
    constructor
    · intro h
      exact ⟨rest, .inr rfl, h⟩
    · intro h
      obtain ⟨digits, hdigits | hdigits, h⟩ := h
      · exact absurd hdigits.symm (h.ne_plus rest)
      · exact (List.cons.inj hdigits).2 ▸ h
  · rename_i hplus
    rw [unsignedIndex?_eq_some_iff]
    constructor
    · intro h
      exact ⟨_, .inl rfl, h⟩
    · intro h
      obtain ⟨digits, hdigits | hdigits, h⟩ := h
      · exact hdigits ▸ h
      · exact absurd hdigits (hplus digits)

/-! ## How it is shown -/

private theorem digit_lt {c : Char} (h : c.isDigit = true) : c.toNat - '0'.toNat < 10 := by
  have hle := (Char.isDigit_iff_toNat.mp h).2
  simp only [Char.reduceToNat] at hle ⊢
  omega

private theorem toDigits_digit {c : Char} (h : c.isDigit = true) :
    Nat.toDigits 10 (c.toNat - '0'.toNat) = [c] := by
  have hle := (Char.isDigit_iff_toNat.mp h).1
  have hchar : (c.toNat - '0'.toNat).digitChar = c := by
    rw [← Char.toNat_inj, Nat.toNat_digitChar_of_lt_ten (digit_lt h)]
    simp only [Char.reduceToNat] at hle ⊢
    omega
  rw [Nat.toDigits_of_lt_base (digit_lt h), hchar]

private theorem toDigits_append {front : Nat} (hfront : 0 < front)
    (h : ∀ c ∈ digits, c.isDigit = true) :
    Nat.toDigits 10 front ++ digits = Nat.toDigits 10 (Nat.ofDigitChars 10 digits front) := by
  induction digits generalizing front with
  | nil => simp
  | cons c digits ih =>
    obtain ⟨hc, hdigits⟩ := List.forall_mem_cons.mp h
    have hnext : 0 < 10 * front + (c.toNat - '0'.toNat) := by omega
    calc
      Nat.toDigits 10 front ++ c :: digits
          = Nat.toDigits 10 front ++ Nat.toDigits 10 (c.toNat - '0'.toNat) ++ digits := by
            rw [toDigits_digit hc]; simp
      _ = Nat.toDigits 10 (10 * front + (c.toNat - '0'.toNat)) ++ digits := by
            rw [Nat.toDigits_append_toDigits (by decide) hfront (digit_lt hc)]
      _ = Nat.toDigits 10 (Nat.ofDigitChars 10 (c :: digits) front) := by
            rw [ih hnext hdigits, Nat.ofDigitChars_cons]

private theorem toDigits_ofDigitChars (h : ∀ c ∈ digits, c.isDigit = true) :
    Nat.toDigits 10 (Nat.ofDigitChars 10 digits 0) = withoutZeros digits := by
  induction digits with
  | nil => rfl
  | cons c digits ih =>
    obtain ⟨hc, hdigits⟩ := List.forall_mem_cons.mp h
    rw [Nat.ofDigitChars_cons, Nat.mul_zero, Nat.zero_add]
    by_cases hzero : c = '0'
    · subst hzero
      rw [Nat.sub_self, ih hdigits, withoutZeros, withoutZeros, List.dropWhile_cons_of_pos rfl]
    · have hpos : 0 < c.toNat - '0'.toNat := by
        refine Nat.pos_of_ne_zero fun hvalue => ?_
        have hdigit := toDigits_digit hc
        rw [hvalue, Nat.toDigits_zero] at hdigit
        exact hzero (List.cons.inj hdigit).1.symm
      rw [← toDigits_append hpos hdigits, toDigits_digit hc, withoutZeros,
        List.dropWhile_cons_of_neg (by simpa using hzero)]
      rfl

/-- An index is shown as any text that writes it, without the sign and the zeros before it. -/
theorem repr_eq_plainIndex (h : WritesIndex written index) : index.repr = plainIndex written := by
  obtain ⟨digits, hwritten, hspells⟩ := h
  have hdigits : index.repr = String.ofList (withoutZeros digits) := by
    rw [← hspells.value, Nat.repr_eq_ofList_toDigits, toDigits_ofDigitChars hspells.isDigit]
  rw [hdigits, plainIndex]
  split
  · rename_i rest hplus
    rcases hwritten with hwritten | hwritten
    · exact absurd (hwritten.symm.trans hplus) (hspells.ne_plus rest)
    · rw [(List.cons.inj (hwritten.symm.trans hplus)).2]
  · rename_i hplus
    rcases hwritten with rfl | hwritten
    · rfl
    · exact absurd hwritten (hplus digits)

theorem WritesIndex.repr (h : WritesIndex written index) : WritesIndex index.repr index := by
  obtain ⟨_, _, hspells⟩ := h
  refine ⟨index.repr.toList, .inl rfl, ?_⟩
  rw [Nat.toList_repr]
  exact ⟨Nat.toDigits_ne_nil,
    fun c hc => Nat.isDigit_of_mem_toDigits (by decide) (by decide) hc,
    Nat.ofDigitChars_ten_toDigits, hspells.le⟩

end Rollout.Text
