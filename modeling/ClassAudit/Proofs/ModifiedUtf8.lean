import ClassAudit.Text.Utf8
import ClassAudit.Proofs.BigEndian
import Mathlib.Tactic.Set
import Mathlib.Tactic.SplitIfs

/-!
# Reading modified UTF-8 back

`Text.ofClassFileBytes` inverts `Text.encodeModified`, NUL and supplementary characters included.
It tries `Text.decode` before `Text.decodeModified`.  This never gives another text: where the
modified form of a character differs from UTF-8 its bytes are not valid UTF-8, and everywhere else
the two forms agree.
-/

namespace ClassAudit.Text

/-! ## Bytes of characters -/

/-- A continuation byte satisfies `isContinuation` and has `payload` `k`. -/
theorem continuation_byte {k : Nat} (hk : k < 64) :
    isContinuation (0x80 + k).toUInt8 = true ∧ payload (0x80 + k).toUInt8 = k := by
  have hvalue : (0x80 + k).toUInt8.toNat = 0x80 + k := by
    rw [toNat_toUInt8]
    omega
  refine ⟨?_, ?_⟩
  · simp only [isContinuation, Bool.and_eq_true, decide_eq_true_eq, UInt8.le_iff_toNat_le,
      UInt8.lt_iff_toNat_lt, hvalue]
    exact ⟨by simp, by simp; omega⟩
  · rw [payload, hvalue]
    omega

/-- `toUInt8` is exact below 256. -/
theorem lead_byte {k : Nat} (hk : k < 256) : k.toUInt8.toNat = k := by
  rw [toNat_toUInt8]
  omega

/-- `threeValue` of the bytes of `encodeThree` is the number. -/
theorem encodeThree_value {n : Nat} (hn : n < 0x10000) :
    threeValue (0xE0 + n / 4096).toUInt8 (0x80 + n / 64 % 64).toUInt8 (0x80 + n % 64).toUInt8
      = n := by
  rw [threeValue, (continuation_byte (Nat.mod_lt _ (by decide))).2,
    (continuation_byte (Nat.mod_lt _ (by decide))).2, lead_byte (by omega)]
  omega

/-- The bytes of `encodeThree` pass `threeLead` unless the number is a surrogate. -/
theorem encodeThree_lead {n : Nat} (hlow : 0x800 ≤ n) (hn : n < 0x10000)
    (hsurrogate : n < 0xD800 ∨ 0xDFFF < n) :
    threeLead (0xE0 + n / 4096).toUInt8 (0x80 + n / 64 % 64).toUInt8 = true := by
  have ha : (0xE0 + n / 4096).toUInt8.toNat = 0xE0 + n / 4096 := lead_byte (by omega)
  have hb : (0x80 + n / 64 % 64).toUInt8.toNat = 0x80 + n / 64 % 64 := lead_byte (by omega)
  simp only [threeLead, (continuation_byte (Nat.mod_lt (n / 64) (by decide : 64 > 0))).1,
    Bool.true_and, Bool.and_eq_true, Bool.or_eq_true, bne_iff_ne, ne_eq, decide_eq_true_eq,
    UInt8.le_iff_toNat_le, ← UInt8.toNat_inj, ha, hb]
  simp
  omega

/-- The first two bytes of `encodeThree` of a surrogate. -/
theorem encodeThree_surrogate {n : Nat} (hlow : 0xD800 ≤ n) (hhigh : n ≤ 0xDFFF) :
    (0xE0 + n / 4096).toUInt8 = 0xED ∧
      (0x80 + n / 64 % 64).toUInt8.toNat = 0xA0 + (n - 0xD800) / 64 := by
  have hquot : n / 4096 = 13 := by omega
  refine ⟨by rw [hquot]; rfl, ?_⟩
  rw [lead_byte (by omega)]
  omega

/-- `threeLead` refuses the first two bytes of a surrogate. -/
theorem threeLead_surrogate {b : UInt8} (hb : 0xA0 ≤ b.toNat) : threeLead 0xED b = false := by
  have hnot : ¬ b ≤ 0x9F := by
    rw [UInt8.le_iff_toNat_le]
    simp
    omega
  simp [threeLead, hnot]

/-! ## Steps of the decoders -/

section Steps

variable {a b c : UInt8} {rest : Bytes}

/-- A lead byte from 0xC2 on is neither ASCII nor the first byte of the two-byte NUL. -/
theorem lead_long (ha : 0xC2 ≤ a.toNat) : ¬ a < 0x80 ∧ a ≠ 0 ∧ a ≠ 0xC0 := by
  refine ⟨?_, ?_, ?_⟩
  · rw [UInt8.lt_iff_toNat_lt]
    simp
    omega
  · rintro rfl
    simp at ha
  · rintro rfl
    simp at ha

/-- A lead byte from 0xE0 on leads no two-byte form. -/
theorem lead_three (ha : 0xE0 ≤ a.toNat) : ¬ a ≤ 0xDF := by
  rw [UInt8.le_iff_toNat_le]
  simp
  omega

theorem decode_one (ha : a.toNat < 0x80) :
    decode (a :: rest) = (decode rest).map (Char.ofNat a.toNat :: ·) := by
  have hlt : a < 0x80 := UInt8.lt_iff_toNat_lt.mpr ha
  simp only [decode.eq_def (a :: rest), if_pos hlt]

theorem decode_two (ha : 0xC2 ≤ a.toNat ∧ a.toNat ≤ 0xDF) (hb : isContinuation b = true) :
    decode (a :: b :: rest) = (decode rest).map (ofTwo a b :: ·) := by
  obtain ⟨hlt, -, -⟩ := lead_long ha.1
  have hlow : 0xC2 ≤ a := UInt8.le_iff_toNat_le.mpr ha.1
  have hhigh : a ≤ 0xDF := UInt8.le_iff_toNat_le.mpr ha.2
  simp [decode.eq_def (a :: _), hlt, hlow, hhigh, hb]

theorem decode_three (ha : 0xE0 ≤ a.toNat) (hb : threeLead a b = true)
    (hc : isContinuation c = true) :
    decode (a :: b :: c :: rest) = (decode rest).map (Char.ofNat (threeValue a b c) :: ·) := by
  obtain ⟨hlt, -, -⟩ := lead_long (by omega : 0xC2 ≤ a.toNat)
  simp [decode.eq_def (a :: _), hlt, lead_three ha, hb, hc]

/-- `decode` refuses a lead byte that neither the two-byte nor the three-byte form accepts. -/
theorem decode_eq_none (ha : 0x80 ≤ a.toNat ∧ a.toNat < 0xF0)
    (htwo : ¬ (0xC2 ≤ a.toNat ∧ a.toNat ≤ 0xDF)) (hthree : threeLead a b = false) :
    decode (a :: b :: rest) = none := by
  have hlt : ¬ a < 0x80 := by
    rw [UInt8.lt_iff_toNat_lt]
    simp
    omega
  have hlead : (decide (0xC2 ≤ a) && decide (a ≤ 0xDF)) = false := by
    simpa [UInt8.le_iff_toNat_le] using htwo
  have hfour : fourLead a b = false := by
    have hlow : ¬ 0xF0 ≤ a := by
      rw [UInt8.le_iff_toNat_le]
      simp
      omega
    simp [fourLead, hlow]
  simp only [decode.eq_def (a :: _), if_neg hlt, hlead, hthree, hfour, Bool.false_and,
    Bool.false_eq_true, if_false]
  -- What is left asks only whether there are two more bytes.
  match rest with
  | [] => rfl
  | [_] => rfl
  | _ :: _ :: _ => rfl

theorem decodeModified_one (hpos : 0 < a.toNat) (ha : a.toNat < 0x80) :
    decodeModified (a :: rest) = (decodeModified rest).map (Char.ofNat a.toNat :: ·) := by
  have hzero : a ≠ 0 := by
    rintro rfl
    simp at hpos
  have hlt : a < 0x80 := UInt8.lt_iff_toNat_lt.mpr ha
  simp only [decodeModified.eq_def (a :: rest), if_neg hzero, if_pos hlt]

theorem decodeModified_two (ha : 0xC2 ≤ a.toNat ∧ a.toNat ≤ 0xDF) (hb : isContinuation b = true) :
    decodeModified (a :: b :: rest) = (decodeModified rest).map (ofTwo a b :: ·) := by
  obtain ⟨hlt, hzero, hnul⟩ := lead_long ha.1
  have hlow : 0xC2 ≤ a := UInt8.le_iff_toNat_le.mpr ha.1
  have hhigh : a ≤ 0xDF := UInt8.le_iff_toNat_le.mpr ha.2
  simp [decodeModified.eq_def (a :: _), hzero, hnul, hlt, hlow, hhigh, hb]

theorem decodeModified_three (ha : 0xE0 ≤ a.toNat) (hb : threeLead a b = true)
    (hc : isContinuation c = true) :
    decodeModified (a :: b :: c :: rest) =
      (decodeModified rest).map (Char.ofNat (threeValue a b c) :: ·) := by
  obtain ⟨hlt, hzero, hnul⟩ := lead_long (by omega : 0xC2 ≤ a.toNat)
  have hcontinues : isContinuation b = true := by
    simp only [threeLead, Bool.and_eq_true] at hb
    exact hb.1.1.1.1
  simp [decodeModified.eq_def (a :: _), hzero, hnul, hlt, lead_three ha, hcontinues, hb, hc]

theorem decodeModified_surrogates {e f : UInt8} (hb : 0xA0 ≤ b.toNat ∧ b.toNat ≤ 0xAF)
    (hc : isContinuation c = true) (he : 0xB0 ≤ e.toNat ∧ e.toNat ≤ 0xBF)
    (hf : isContinuation f = true) :
    decodeModified (0xED :: b :: c :: 0xED :: e :: f :: rest) =
      (decodeModified rest).map
        (ofSurrogates (threeValue 0xED b c) (threeValue 0xED e f) :: ·) := by
  have hcontinues : isContinuation b = true := by
    simp only [isContinuation, Bool.and_eq_true, decide_eq_true_eq, UInt8.le_iff_toNat_le,
      UInt8.lt_iff_toNat_lt]
    exact ⟨by simp; omega, by simp; omega⟩
  have hb₁ : 0xA0 ≤ b := UInt8.le_iff_toNat_le.mpr hb.1
  have hb₂ : b ≤ 0xAF := UInt8.le_iff_toNat_le.mpr hb.2
  have he₁ : 0xB0 ≤ e := UInt8.le_iff_toNat_le.mpr he.1
  have he₂ : e ≤ 0xBF := UInt8.le_iff_toNat_le.mpr he.2
  have hlead : threeLead 0xED b = false := threeLead_surrogate hb.1
  simp [decodeModified.eq_def (0xED :: _), hcontinues, hlead, hc, hf, hb₁, hb₂, he₁, he₂]

end Steps

/-! ## Characters -/

/-- The forms in which `encodeModifiedChar` writes a character. -/
inductive ModifiedForm : Char → Bytes → Prop where
  | nul : ModifiedForm (Char.ofNat 0) [0xC0, 0x80]
  | one {a : UInt8} (pos : 0 < a.toNat) (lead : a.toNat < 0x80) :
      ModifiedForm (Char.ofNat a.toNat) [a]
  | two {a b : UInt8} (lead : 0xC2 ≤ a.toNat ∧ a.toNat ≤ 0xDF) (second : isContinuation b = true) :
      ModifiedForm (ofTwo a b) [a, b]
  | three {a b c : UInt8} (lead : 0xE0 ≤ a.toNat) (second : threeLead a b = true)
      (third : isContinuation c = true) :
      ModifiedForm (Char.ofNat (threeValue a b c)) [a, b, c]
  | surrogates {b c e f : UInt8} (second : 0xA0 ≤ b.toNat ∧ b.toNat ≤ 0xAF)
      (third : isContinuation c = true) (fifth : 0xB0 ≤ e.toNat ∧ e.toNat ≤ 0xBF)
      (sixth : isContinuation f = true) :
      ModifiedForm (ofSurrogates (threeValue 0xED b c) (threeValue 0xED e f))
        [0xED, b, c, 0xED, e, f]

/-- The `ModifiedForm` of a supplementary character: two surrogates of three bytes each. -/
theorem modifiedForm_supplementary (c : Char) (hc : 0x10000 ≤ c.toNat) :
    ModifiedForm c (encodeThree (0xD800 + (c.toNat - 0x10000) / 1024)
      ++ encodeThree (0xDC00 + (c.toNat - 0x10000) % 1024)) := by
  have hvalid : c.toNat < 0xD800 ∨ 0xDFFF < c.toNat ∧ c.toNat < 0x110000 := c.valid
  set high := 0xD800 + (c.toNat - 0x10000) / 1024 with hhigh
  set low := 0xDC00 + (c.toNat - 0x10000) % 1024 with hlow
  obtain ⟨ha, hb⟩ := encodeThree_surrogate (n := high) (by omega) (by omega)
  obtain ⟨hd, he⟩ := encodeThree_surrogate (n := low) (by omega) (by omega)
  have hhighValue := encodeThree_value (n := high) (by omega)
  have hlowValue := encodeThree_value (n := low) (by omega)
  rw [ha] at hhighValue
  rw [hd] at hlowValue
  have hform := ModifiedForm.surrogates (b := (0x80 + high / 64 % 64).toUInt8)
    (e := (0x80 + low / 64 % 64).toUInt8) (by omega)
    (continuation_byte (Nat.mod_lt high (by decide : 64 > 0))).1 (by omega)
    (continuation_byte (Nat.mod_lt low (by decide : 64 > 0))).1
  have hvalue : 0x10000 + (high - 0xD800) * 1024 + (low - 0xDC00) = c.toNat := by omega
  rw [hhighValue, hlowValue, ofSurrogates, hvalue, Char.ofNat_toNat] at hform
  rw [encodeThree, encodeThree, ha, hd]
  exact hform

/-- `encodeModifiedChar` writes a `ModifiedForm`. -/
theorem modifiedForm_encodeModifiedChar (c : Char) : ModifiedForm c (encodeModifiedChar c) := by
  have hvalid : c.toNat < 0xD800 ∨ 0xDFFF < c.toNat ∧ c.toNat < 0x110000 := c.valid
  rw [encodeModifiedChar]
  -- The cases are the lengths of the written character, NUL first.
  split_ifs with hzero hone htwo hthree
  · have hform := ModifiedForm.nul
    rwa [← hzero, Char.ofNat_toNat] at hform
  · have ha : c.toNat.toUInt8.toNat = c.toNat := lead_byte (by omega)
    have hform := ModifiedForm.one (a := c.toNat.toUInt8) (by omega) (by omega)
    rwa [ha, Char.ofNat_toNat] at hform
  · have ha : (0xC0 + c.toNat / 64).toUInt8.toNat = 0xC0 + c.toNat / 64 := lead_byte (by omega)
    obtain ⟨hb, hpayload⟩ := continuation_byte (Nat.mod_lt c.toNat (by decide : 64 > 0))
    have hform := ModifiedForm.two (a := (0xC0 + c.toNat / 64).toUInt8) (by omega) hb
    have hvalue : (0xC0 + c.toNat / 64) % 32 * 64 + c.toNat % 64 = c.toNat := by omega
    rwa [ofTwo, ha, hpayload, hvalue, Char.ofNat_toNat] at hform
  · have ha : (0xE0 + c.toNat / 4096).toUInt8.toNat = 0xE0 + c.toNat / 4096 :=
      lead_byte (by omega)
    have hform := ModifiedForm.three (by omega) (encodeThree_lead (by omega) hthree (by omega))
      (continuation_byte (Nat.mod_lt c.toNat (by decide : 64 > 0))).1
    rwa [encodeThree_value hthree, Char.ofNat_toNat] at hform
  · exact modifiedForm_supplementary c (by omega)

/-- `decodeModified` reads a `ModifiedForm` off the front. -/
theorem ModifiedForm.decodeModified {c : Char} {bytes : Bytes} (h : ModifiedForm c bytes)
    (rest : Bytes) :
    decodeModified (bytes ++ rest) = (decodeModified rest).map (c :: ·) := by
  cases h with
  | nul => simp [decodeModified.eq_def (0xC0 :: _)]
  | one hpos hlead => exact decodeModified_one hpos hlead
  | two hlead hsecond => exact decodeModified_two hlead hsecond
  | three hlead hsecond hthird => exact decodeModified_three hlead hsecond hthird
  | surrogates hsecond hthird hfifth hsixth =>
    exact decodeModified_surrogates hsecond hthird hfifth hsixth

/-- `decode`, for plain UTF-8, reads a `ModifiedForm` off the front or fails. -/
theorem ModifiedForm.decode {c : Char} {bytes : Bytes} (h : ModifiedForm c bytes) (rest : Bytes) :
    decode (bytes ++ rest) = none ∨ decode (bytes ++ rest) = (decode rest).map (c :: ·) := by
  cases h with
  | nul => exact Or.inl (decode_eq_none (by decide) (by decide) (by decide))
  | one _ hlead => exact Or.inr (decode_one hlead)
  | two hlead hsecond => exact Or.inr (decode_two hlead hsecond)
  | three hlead hsecond hthird => exact Or.inr (decode_three hlead hsecond hthird)
  | surrogates hsecond _ _ _ =>
    exact Or.inl (decode_eq_none (by decide) (by decide) (threeLead_surrogate hsecond.1))

/-! ## Texts -/

theorem decodeModified_encodeModified (text : List Char) :
    decodeModified (encodeModified text) = some text := by
  induction text with
  | nil => rfl
  | cons c rest ih =>
    rw [encodeModified, List.flatMap_cons, (modifiedForm_encodeModifiedChar c).decodeModified]
    rw [encodeModified] at ih
    rw [ih]
    rfl

/-- `decode` of `encodeModified text` fails or gives `text`. -/
theorem decode_encodeModified (text : List Char) :
    decode (encodeModified text) = none ∨ decode (encodeModified text) = some text := by
  induction text with
  | nil => exact Or.inr rfl
  | cons c rest ih =>
    rw [encodeModified, List.flatMap_cons]
    rw [encodeModified] at ih
    rcases (modifiedForm_encodeModifiedChar c).decode (rest.flatMap encodeModifiedChar) with h | h
    · exact Or.inl h
    · rw [h]
      rcases ih with hrest | hrest <;> simp [hrest]

/-- `ofClassFileBytes` inverts `encodeModified`. -/
theorem ofClassFileBytes_encodeModified (text : String) :
    ofClassFileBytes (encodeModified text.toList) = some text := by
  rw [ofClassFileBytes]
  rcases decode_encodeModified text.toList with h | h
  · simp [h, decodeModified_encodeModified]
  · simp [h]

end ClassAudit.Text
