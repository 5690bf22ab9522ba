import Mathlib.Data.List.Basic
import Rollout.Text.Percent

/-!
# Percent encoded text

Encoded text is made of a few characters of ASCII, and decoding it gives back the text that was
encoded.
-/

namespace Rollout.Text

/-- The characters that percent encoded text is made of. -/
def isEncodedChar (c : Char) : Bool := c.isAlphanum || ['-', '_', '.', '~', '%'].contains c

theorem isEncodedChar_eq (c : Char) : isEncodedChar c = (isUnreserved c || c = '%') := by
  simp [isEncodedChar, isUnreserved, Bool.or_assoc]

/-- A text is the encoded form of another one. -/
structure Encodes (encoded text : String) : Prop where
  chars : ∀ c ∈ encoded.toList, isEncodedChar c = true
  decoded : percentDecode? encoded = some text

/-! ## Hexadecimal digits -/

theorem hexDigit?_upperHexDigit {n : Nat} (h : n < 16) : hexDigit? (upperHexDigit n) = some n := by
  have hall : ∀ m : Fin 16, hexDigit? (upperHexDigit m) = some m.val := by decide
  exact hall ⟨n, h⟩

theorem isUnreserved_upperHexDigit {n : Nat} (h : n < 16) :
    isUnreserved (upperHexDigit n) = true := by
  have hall : ∀ m : Fin 16, isUnreserved (upperHexDigit m) = true := by decide
  exact hall ⟨n, h⟩

/-! ## Decoding -/

theorem percentBytes_percentByte (b : UInt8) (rest : List Char) :
    percentBytes (percentByte b ++ rest) = b :: percentBytes rest := by
  have hb : b.toNat < 256 := b.toNat_lt
  have hhigh : hexDigit? (upperHexDigit (b.toNat / 16)) = some (b.toNat / 16) :=
    hexDigit?_upperHexDigit (by omega)
  have hlow : hexDigit? (upperHexDigit (b.toNat % 16)) = some (b.toNat % 16) :=
    hexDigit?_upperHexDigit (by omega)
  simp only [percentByte, List.cons_append, List.nil_append, percentBytes, hhigh, hlow,
    Nat.div_add_mod, UInt8.ofNat_toNat]

theorem percentBytes_flatMap_percentByte (bytes : List UInt8) (rest : List Char) :
    percentBytes (bytes.flatMap percentByte ++ rest) = bytes ++ percentBytes rest := by
  induction bytes with
  | nil => rfl
  | cons b bytes ih =>
    rw [List.flatMap_cons, List.append_assoc, percentBytes_percentByte, ih, List.cons_append]

theorem percentBytes_cons_of_ne {c : Char} (h : c ≠ '%') (rest : List Char) :
    percentBytes (c :: rest) = String.utf8EncodeChar c ++ percentBytes rest := by
  rw [percentBytes]
  rintro a b more hc
  exact absurd hc h

variable {kept : Char → Bool}

theorem percentBytes_percentEncodeBut (hkept : kept '%' = false) (s : String) :
    percentBytes (percentEncodeBut kept s).toList = s.toList.flatMap String.utf8EncodeChar := by
  rw [percentEncodeBut, String.toList_ofList]
  induction s.toList with
  | nil => rfl
  | cons c cs ih =>
    rw [List.flatMap_cons, List.flatMap_cons]
    by_cases hc : kept c = true
    · have hne : c ≠ '%' := by
        rintro rfl
        rw [hkept] at hc
        cases hc
      rw [if_pos hc, List.singleton_append, percentBytes_cons_of_ne hne, ih]
    · rw [if_neg hc, percentChar, percentBytes_flatMap_percentByte, ih]

/-- Encoded text is decoded to the text that it encodes. -/
theorem percentDecode?_percentEncodeBut (hkept : kept '%' = false) (s : String) :
    percentDecode? (percentEncodeBut kept s) = some s := by
  have hbytes : (percentBytes (percentEncodeBut kept s).toList).toByteArray = s.toByteArray := by
    rw [percentBytes_percentEncodeBut hkept]
    exact String.utf8Encode_toList
  rw [percentDecode?, hbytes, String.fromUTF8?, dif_pos s.isValidUTF8]
  rfl

theorem percentDecode?_percentEncode (s : String) : percentDecode? (percentEncode s) = some s :=
  percentDecode?_percentEncodeBut (by decide) s

theorem percentEncode_injective : Function.Injective percentEncode := by
  intro s t h
  have hdecoded := percentDecode?_percentEncode s
  rw [h, percentDecode?_percentEncode] at hdecoded
  exact (Option.some.inj hdecoded).symm

/-! ## Characters -/

theorem isEncodedChar_of_mem_percentByte {b : UInt8} {c : Char} (h : c ∈ percentByte b) :
    isEncodedChar c = true := by
  have hb : b.toNat < 256 := b.toNat_lt
  simp only [percentByte, List.mem_cons, List.not_mem_nil, or_false] at h
  rcases h with rfl | rfl | rfl
  · decide
  · rw [isEncodedChar_eq, isUnreserved_upperHexDigit (by omega), Bool.true_or]
  · rw [isEncodedChar_eq, isUnreserved_upperHexDigit (by omega), Bool.true_or]

theorem isEncodedChar_of_mem_percentEncode {s : String} {c : Char}
    (h : c ∈ (percentEncode s).toList) : isEncodedChar c = true := by
  rw [percentEncode, percentEncodeBut, String.toList_ofList, List.mem_flatMap] at h
  obtain ⟨d, _, hc⟩ := h
  by_cases hd : isUnreserved d = true
  · rw [if_pos hd, List.mem_singleton] at hc
    rw [hc, isEncodedChar_eq, hd, Bool.true_or]
  · rw [if_neg hd, percentChar, List.mem_flatMap] at hc
    obtain ⟨b, _, hcb⟩ := hc
    exact isEncodedChar_of_mem_percentByte hcb

/-- Text of unreserved characters stands for itself. -/
theorem percentEncode_eq_self {s : String} (h : ∀ c ∈ s.toList, isUnreserved c = true) :
    percentEncode s = s := by
  rw [percentEncode, percentEncodeBut, ← String.toList_inj, String.toList_ofList]
  calc s.toList.flatMap (fun c => if isUnreserved c = true then [c] else percentChar c)
    _ = s.toList.flatMap fun c => [c] := List.flatMap_congr fun c hc => if_pos (h c hc)
    _ = s.toList := List.flatMap_singleton' _

theorem percentEncode_eq_self_of_not_mem {s : String} (h : '%' ∉ (percentEncode s).toList) :
    percentEncode s = s := by
  apply percentEncode_eq_self
  intro c hc
  by_contra hreserved
  apply h
  obtain ⟨b, bytes, hbytes⟩ := List.exists_cons_of_ne_nil (String.utf8EncodeChar_ne_nil (c := c))
  rw [percentEncode, percentEncodeBut, String.toList_ofList, List.mem_flatMap]
  refine ⟨c, hc, ?_⟩
  rw [if_neg hreserved, percentChar, hbytes]
  exact List.mem_cons_self

theorem encodes_percentEncode (s : String) : Encodes (percentEncode s) s where
  chars _ := isEncodedChar_of_mem_percentEncode
  decoded := percentDecode?_percentEncode s

end Rollout.Text
