import ClassAudit.Check.Secret
import ClassAudit.Proofs.KeywordPattern
import ClassAudit.Proofs.Naming
import Mathlib

/-!
# Forms of secrets

`Secret.classify?` recognizes secrets by four patterns: `keywordPattern`, `accessKeyPattern`,
`tokenPattern` and `keyPattern`.  The last three are tied to both ends of the text, so the texts of
their languages are the ones they match (`Regex.isMatch_tied`).  Each test of `classify?` equals the
search for its pattern, and `classify?_by_patterns` states the whole decision with the patterns in
place of the tests.
-/

namespace ClassAudit.Secret

open Naming (inRange_iff isCapital isLetterOrDigit_iff contains_capital)
open Regex Regex.Stretches
open Unicode.CodeSet (contains_iff)
open scoped Computability

/-! ## The patterns -/

/-- The pattern of access keys. -/
def accessKeyPattern : String := "^AKIA[0-9A-Z]\x7b16\x7d$"

/-- The pattern of signed tokens. -/
def tokenPattern : String := "^[A-Za-z0-9_-]+\\.[A-Za-z0-9_-]+\\.[A-Za-z0-9_-]+$"

/-- The pattern of encoded keys. -/
def keyPattern : String := "^[A-Za-z0-9+/=_\\-]+$"

/-- The expression of `accessKeyPattern`. -/
def accessKeyRegex : Regex :=
  .seq (.assert .textStart) (.seq (.literal ['A', 'K', 'I', 'A'])
    (.seq (.rep (.oneOf ⟨#[(48, 57), (65, 90)]⟩) 16 (some 16) true) (.assert .textEnd)))

/-- One part of the expression `tokenRegex`. -/
def tokenPart : Regex :=
  .rep (.oneOf ⟨#[(45, 45), (48, 57), (65, 90), (95, 95), (97, 122)]⟩) 1 none true

/-- The expression of `tokenPattern`. -/
def tokenRegex : Regex :=
  .seq (.assert .textStart) (.seq tokenPart (.seq (.literal ['.']) (.seq tokenPart
    (.seq (.literal ['.']) (.seq tokenPart (.assert .textEnd))))))

/-- The expression of `keyPattern`. -/
def keyRegex : Regex :=
  .seq (.assert .textStart) (.seq (.rep (.oneOf ⟨#[(43, 43), (45, 45), (47, 57), (61, 61), (65, 90),
    (95, 95), (97, 122)]⟩) 1 none true) (.assert .textEnd))

set_option maxRecDepth 10000 in
theorem parse?_accessKeyPattern : Pattern.parse? accessKeyPattern = some accessKeyRegex := by
  cbv

set_option maxRecDepth 10000 in
theorem parse?_tokenPattern : Pattern.parse? tokenPattern = some tokenRegex := by
  cbv

set_option maxRecDepth 10000 in
theorem parse?_keyPattern : Pattern.parse? keyPattern = some keyRegex := by
  cbv

/-! ## Sets of characters -/

theorem contains_tokenChar (c : Char) :
    (⟨#[(45, 45), (48, 57), (65, 90), (95, 95), (97, 122)]⟩ : Unicode.CodeSet).contains c.toNat
      = isTokenChar c := by
  have heq : ∀ d : Char, c = d ↔ c.toNat = d.toNat := fun d => Char.toNat_inj.symm
  rw [Bool.eq_iff_iff, contains_iff ⟨by decide, by decide⟩, isTokenChar]
  simp [inRange_iff, isLetterOrDigit_iff, heq]
  omega

theorem contains_keyChar (c : Char) :
    (⟨#[(43, 43), (45, 45), (47, 57), (61, 61), (65, 90), (95, 95), (97, 122)]⟩
      : Unicode.CodeSet).contains c.toNat = isKeyChar c := by
  have heq : ∀ d : Char, c = d ↔ c.toNat = d.toNat := fun d => Char.toNat_inj.symm
  rw [Bool.eq_iff_iff, contains_iff ⟨by decide, by decide⟩, isKeyChar]
  simp [inRange_iff, isLetterOrDigit_iff, heq]
  omega

/-! ## Matching -/

theorem isAccessKey_iff {text : String} :
    isAccessKey text = true ↔ ∃ rest, text.toList = "AKIA".toList ++ rest ∧ rest.length = 16 ∧
      ∀ c ∈ rest, isCapital c = true := by
  simp only [isAccessKey, Text.startsWith, Bool.and_eq_true, List.isPrefixOf_iff_prefix,
    decide_eq_true_eq, List.all_eq_true]
  constructor
  · rintro ⟨⟨⟨rest, hrest⟩, hlength⟩, hall⟩
    rw [← hrest] at hlength hall
    exact ⟨rest, hrest.symm, hlength, fun c hc => (Bool.or_comm _ _).trans (hall c hc)⟩
  · rintro ⟨rest, hrest, hlength, hall⟩
    rw [hrest]
    exact ⟨⟨⟨rest, rfl⟩, hlength⟩, fun c hc => (Bool.or_comm _ _).trans (hall c hc)⟩

theorem isMatch_accessKeyRegex (text : String) :
    accessKeyRegex.isMatch text = isAccessKey text := by
  have hspells := spellsRest_seq (spells_literal ['A', 'K', 'I', 'A']) (spellsRest_seq
    (spells_rep_some (spells_oneOf contains_capital) 16 16 true) spellsRest_textEnd)
  rw [Bool.eq_iff_iff, accessKeyRegex, isMatch_tied hspells, mul_one, Language.mem_mul,
    isAccessKey_iff]
  constructor
  · rintro ⟨_, rfl, rest, ⟨n, hlow, hhigh, hn⟩, htext⟩
    obtain ⟨hlength, hall⟩ := mem_single_pow.mp hn
    exact ⟨rest, htext.symm, by omega, hall⟩
  · rintro ⟨rest, htext, hlength, hall⟩
    exact ⟨_, rfl, rest, ⟨16, le_rfl, le_rfl, mem_single_pow.mpr ⟨hlength, hall⟩⟩, htext.symm⟩

theorem isMatch_keyRegex (text : String) :
    keyRegex.isMatch text = (!text.toList.isEmpty && text.toList.all isKeyChar) := by
  have hspells := spellsRest_seq (spells_rep (spells_oneOf contains_keyChar) 1 true)
    spellsRest_textEnd
  rw [Bool.eq_iff_iff, keyRegex, isMatch_tied hspells, single_pow_one_mul_kstar, mul_one]
  show text.toList ≠ [] ∧ _ ↔ _
  simp

theorem looksRandom_eq (text : String) : looksRandom text
    = (keyRegex.isMatch text && text.toList.any Text.isDigit && text.toList.any Text.isLetter) := by
  rw [isMatch_keyRegex, looksRandom]
  cases text.toList <;> simp

theorem not_mem_of_mem_words {word : List Char} (h : word ∈ words isTokenChar) : '.' ∉ word :=
  fun hmem => absurd (h.2 '.' hmem) (by decide)

theorem isSignedToken_iff {text : String} :
    isSignedToken text = true ↔ ∃ front middle back, front ∈ words isTokenChar ∧
      middle ∈ words isTokenChar ∧ back ∈ words isTokenChar ∧
        text.toList = front ++ '.' :: (middle ++ '.' :: back) := by
  have hwords : isSignedToken text = true ↔ (Text.pieces '.' text.toList).length = 3 ∧
      ∀ word ∈ Text.pieces '.' text.toList, word ∈ words isTokenChar := by
    show _ ↔ _ ∧ ∀ word ∈ Text.pieces '.' text.toList,
      word ≠ [] ∧ ∀ c ∈ word, isTokenChar c = true
    simp [isSignedToken]
  rw [hwords]
  constructor
  · rintro ⟨hlength, hall⟩
    obtain ⟨front, middle, back, hpieces⟩ := List.length_eq_three.mp hlength
    rw [hpieces] at hall
    simp only [List.forall_mem_cons] at hall
    refine ⟨front, middle, back, hall.1, hall.2.1, hall.2.2.1, ?_⟩
    simpa using Text.join_pieces hpieces
  · rintro ⟨front, middle, back, hfront, hmiddle, hback, htext⟩
    have hmore : ∀ word ∈ [middle, back], word ∈ words isTokenChar := by
      simp [hmiddle, hback]
    have hpieces := Text.pieces_join (not_mem_of_mem_words hfront)
      fun word hword => not_mem_of_mem_words (hmore word hword)
    have hjoin : text.toList = front ++ ([middle, back].map ('.' :: ·)).flatten := by
      simpa using htext
    rw [hjoin, hpieces]
    exact ⟨rfl, List.forall_mem_cons.mpr ⟨hfront, hmore⟩⟩

theorem isMatch_tokenRegex (text : String) : tokenRegex.isMatch text = isSignedToken text := by
  have hpart := spells_rep (spells_oneOf contains_tokenChar) 1 true
  rw [single_pow_one_mul_kstar] at hpart
  have hspells := spellsRest_seq hpart (spellsRest_seq (spells_literal ['.']) (spellsRest_seq hpart
    (spellsRest_seq (spells_literal ['.']) (spellsRest_seq hpart spellsRest_textEnd))))
  rw [Bool.eq_iff_iff, tokenRegex, tokenPart, isMatch_tied hspells, mul_one, isSignedToken_iff]
  simp only [Language.mem_mul]
  constructor
  · rintro ⟨front, hfront, _, ⟨_, rfl, _, ⟨middle, hmiddle, _, ⟨_, rfl, back, hback, rfl⟩, rfl⟩,
      rfl⟩, htext⟩
    exact ⟨front, middle, back, hfront, hmiddle, hback, htext.symm⟩
  · rintro ⟨front, middle, back, hfront, hmiddle, hback, htext⟩
    exact ⟨front, hfront, _, ⟨['.'], rfl, _, ⟨middle, hmiddle, _, ⟨['.'], rfl, back, hback, rfl⟩,
      rfl⟩, rfl⟩, htext.symm⟩

/-- **Secrets are classified by four patterns.**  The patterns parse, and each test of `classify?`
is a search for the expression of its pattern. -/
theorem classify?_by_patterns :
    (Pattern.parse? keywordPattern = some keywordRegex ∧
      Pattern.parse? accessKeyPattern = some accessKeyRegex ∧
      Pattern.parse? tokenPattern = some tokenRegex ∧
      Pattern.parse? keyPattern = some keyRegex) ∧
    ∀ (criteria : Criteria) (text : String), classify? criteria text =
      if criteria.secretPatterns.any (·.isMatch text) then some .high
      else if text.utf8ByteSize < minCandidateLength then none
      else if keywordRegex.isMatch text && isAssignment text then some .high
      else if accessKeyRegex.isMatch text then some .high
      else if text.utf8ByteSize < criteria.settings.secretMinLength then none
      else if tokenRegex.isMatch text
          || (keyRegex.isMatch text && text.toList.any Text.isDigit
            && text.toList.any Text.isLetter) then some .medium
      else none := by
  refine ⟨⟨parse?_keywordPattern, parse?_accessKeyPattern, parse?_tokenPattern,
    parse?_keyPattern⟩, fun criteria text => ?_⟩
  rw [classify?, isMatch_keywordRegex, isMatch_accessKeyRegex, isMatch_tokenRegex,
    ← looksRandom_eq]

end ClassAudit.Secret
