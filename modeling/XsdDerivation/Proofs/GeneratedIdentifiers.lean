import Mathlib
import XsdDerivation.Identifier

/-!
# Letters and digits of identifiers

Cutting a text into words and joining the words loses none of its letters and numbers and adds
none, and capitalizing changes nothing but their case. So the identifier of an ASCII name says, up
to letter case, which letters and digits the name has after its last colon.
-/

namespace XsdDerivation

namespace Text

variable {s word : List Char} {list : List (List Char)} {c : Char}

/-! ### Words -/

/-- The pieces of a text have its letters and numbers, in order. -/
theorem flatten_pieces (s : List Char) : (pieces s).flatten = s.filter isAlphanumeric := by
  induction s with
  | nil => rfl
  | cons c rest ih =>
    cases hc : isAlphanumeric c with
    | true =>
      rw [pieces, if_pos hc, List.filter_cons_of_pos hc, ← ih]
      cases pieces rest <;> rfl
    | false =>
      have hnot : ¬isAlphanumeric c = true := by simp [hc]
      rw [pieces, if_neg hnot, List.filter_cons_of_neg hnot, List.flatten_cons, ih]
      rfl

/-- Wherever a piece is cut, its words have the characters read before and those of the rest. -/
theorem flatten_splitHumps (last : LastCase) (word : List Char) (c : Char) (rest : List Char) :
    (splitHumps last word (c :: rest)).flatten = word.reverse ++ c :: rest := by
  induction rest generalizing last word c with
  | nil => simp [splitHumps]
  | cons next rest ih =>
    rw [splitHumps]
    -- A word may end after `c` or before it, or go on. In each case `c` is read once.
    split
    · rw [List.flatten_cons, ih]
      simp
    · split
      · rw [List.flatten_cons, ih]
        rfl
      · rw [ih]
        simp

/-- The words of a text have its letters and numbers, in order. -/
theorem flatten_words (s : List Char) : (words s).flatten = s.filter isAlphanumeric := by
  have hpiece (piece : List Char) : (splitHumps .none [] piece).flatten = piece := by
    cases piece with
    | nil => rfl
    | cons c rest => exact flatten_splitHumps .none [] c rest
  rw [← flatten_pieces, words, List.flatMap_def, List.flatten_flatten, List.map_map]
  simp [Function.comp_def, hpiece]

/-! ### ASCII -/

/-- The text has ASCII characters only. -/
def IsAscii (s : List Char) : Prop :=
  ∀ c ∈ s, c.toNat < 128

instance : DecidablePred IsAscii :=
  fun s => List.decidableBAll (fun c : Char => c.toNat < 128) s

/-- A property of ASCII characters may be tested on their codes. -/
theorem of_ascii {motive : Char → Prop} (hcodes : ∀ code < 128, motive (Char.ofNat code))
    (hascii : c.toNat < 128) : motive c :=
  Char.ofNat_toNat c ▸ hcodes c.toNat hascii

theorem isAlphanumeric_of_ascii (hascii : c.toNat < 128) : isAlphanumeric c = c.isAlphanum :=
  of_ascii (motive := fun c => isAlphanumeric c = c.isAlphanum) (by decide +kernel) hascii

theorem uppercase_of_ascii (hascii : c.toNat < 128) : uppercase c = [c.toUpper] :=
  of_ascii (motive := fun c => uppercase c = [c.toUpper]) (by decide +kernel) hascii

theorem lowercase_of_ascii (hascii : c.toNat < 128) : lowercase c = [c.toLower] :=
  of_ascii (motive := fun c => lowercase c = [c.toLower]) (by decide +kernel) hascii

theorem isDigit_toUpper_of_ascii (hascii : c.toNat < 128) : c.toUpper.isDigit = c.isDigit :=
  of_ascii (motive := fun c => c.toUpper.isDigit = c.isDigit) (by decide +kernel) hascii

theorem isAlphanum_toLower (c : Char) : c.toLower.isAlphanum = c.isAlphanum := by
  by_cases hupper : c.isUpper = true
  · have halpha : c.isAlpha = true := by simp [Char.isAlpha, hupper]
    simp [Char.isAlphanum, halpha]
  · rw [Char.toLower_eq_of_not_isUpper hupper]

theorem isDigit_of_isAlpha (halpha : c.isAlpha = true) : c.isDigit = false := by
  simp [Char.isAlpha, Char.isUpper, Char.isLower, Char.isDigit, UInt32.le_iff_toNat_le] at halpha ⊢
  omega

theorem filter_isAlphanumeric_of_ascii (hascii : IsAscii s) :
    s.filter isAlphanumeric = s.filter Char.isAlphanum :=
  List.filter_congr fun c hc => isAlphanumeric_of_ascii (hascii c hc)

/-- No ASCII letter has a final form. -/
theorem lowercaseTail_of_ascii (hascii : IsAscii s) : lowercaseTail s = s.map Char.toLower := by
  induction s with
  | nil => rfl
  | cons c rest ih =>
    rw [IsAscii, List.forall_mem_cons] at hascii
    have hsigma : c ≠ 'Σ' := by
      rintro rfl
      exact absurd hascii.1 (by decide)
    rw [lowercaseTail, if_neg fun hfinal => hsigma hfinal.1, lowercase_of_ascii hascii.1,
      ih hascii.2]
    rfl

theorem capitalize_cons_of_ascii (hascii : IsAscii (c :: s)) :
    capitalize (c :: s) = c.toUpper :: s.map Char.toLower := by
  rw [IsAscii, List.forall_mem_cons] at hascii
  rw [capitalize, uppercase_of_ascii hascii.1, lowercaseTail_of_ascii hascii.2]
  rfl

/-- Capitalizing a word changes nothing but letter case. -/
theorem toLower_capitalize (hascii : IsAscii word) :
    (capitalize word).map Char.toLower = word.map Char.toLower := by
  cases word with
  | nil => rfl
  | cons c rest =>
    rw [capitalize_cons_of_ascii hascii]
    simp [Function.comp_def]

/-- Capitalizing words changes nothing but letter case, and the first letter becomes a capital. -/
theorem flatMap_capitalize (hascii : IsAscii list.flatten) :
    (list.flatMap capitalize).map Char.toLower = list.flatten.map Char.toLower ∧
      (list.flatMap capitalize).head? = list.flatten.head?.map Char.toUpper := by
  induction list with
  | nil => exact ⟨rfl, rfl⟩
  | cons word list ih =>
    rw [List.flatten_cons, IsAscii, List.forall_mem_append] at hascii
    obtain ⟨hlower, hfirst⟩ := ih hascii.2
    rw [List.flatMap_cons, List.flatten_cons, List.map_append, List.map_append, hlower,
      toLower_capitalize hascii.1]
    refine ⟨rfl, ?_⟩
    cases word with
    | nil => exact hfirst
    | cons c rest =>
      rw [capitalize_cons_of_ascii hascii.1]
      rfl

theorem isAscii_flatten_words (hascii : IsAscii s) : IsAscii (words s).flatten := by
  intro c hc
  rw [flatten_words] at hc
  exact hascii c (List.mem_of_mem_filter hc)

/-- The camel-case form of a text has its letters and digits, but for their case. -/
theorem toLower_camelCase (hascii : IsAscii s) :
    (camelCase s).map Char.toLower = (s.filter Char.isAlphanum).map Char.toLower := by
  rw [camelCase, (flatMap_capitalize (isAscii_flatten_words hascii)).1, flatten_words,
    filter_isAlphanumeric_of_ascii hascii]

/-- The camel-case form of a text has letters and digits only. -/
theorem isAlphanum_of_mem_camelCase (hascii : IsAscii s) (hmem : c ∈ camelCase s) :
    c.isAlphanum = true := by
  have hlower := List.mem_map_of_mem (f := Char.toLower) hmem
  rw [toLower_camelCase hascii] at hlower
  obtain ⟨letter, hletter, heq⟩ := List.mem_map.mp hlower
  rw [← isAlphanum_toLower, ← heq, isAlphanum_toLower]
  exact (List.mem_filter.mp hletter).2

/-- The camel-case form of a text begins with its first letter or digit. -/
theorem head?_camelCase (hascii : IsAscii s) :
    (camelCase s).head? = (s.filter Char.isAlphanum).head?.map Char.toUpper := by
  rw [camelCase, (flatMap_capitalize (isAscii_flatten_words hascii)).2, flatten_words,
    filter_isAlphanumeric_of_ascii hascii]

end Text

/-! ### Identifiers -/

namespace Identifier

variable {text part letters : List Char} {name : String}

/-- The part of a text after its last colon, or all of a text without one. -/
structure AfterLastColon (text part : List Char) : Prop where
  /-- The part has no colon. -/
  colon : ':' ∉ part
  /-- Either nothing stands before the part or a colon does. -/
  ends : part = text ∨ ':' :: part <:+ text

/-- The letters and digits of a text, in order. -/
def lettersAndDigits (text : List Char) : List Char :=
  text.filter Char.isAlphanum

/-- The identifier is a legal one and says which letters and digits a name has. -/
structure Tells (identifier letters : List Char) : Prop where
  /-- Up to case it has them, after an X if there are none or a digit comes first. -/
  spelled : ∃ spelling, spelling.map Char.toLower = letters.map Char.toLower ∧
    identifier = if letters.head?.all Char.isDigit then 'X' :: spelling else spelling
  /-- It begins with a capital. -/
  capital : ∃ c ∈ identifier.head?, c.isUpper = true
  /-- It has letters and digits only. -/
  legal : ∀ c ∈ identifier, c.isAlphanum = true

/-- Every text has one such part. -/
theorem afterLastColon_iff : AfterLastColon text part ↔ part = unprefixed text := by
  constructor
  · rintro ⟨hcolon, hends⟩
    have hpart : ∀ c ∈ part.reverse, decide (c ≠ ':') = true :=
      fun c hc => decide_eq_true fun heq => hcolon (heq ▸ List.mem_reverse.mp hc)
    rcases hends with rfl | ⟨before, rfl⟩
    · rw [unprefixed, List.takeWhile_eq_self_iff.mpr hpart, List.reverse_reverse]
    · rw [unprefixed, List.reverse_append, List.reverse_cons, List.append_assoc,
        List.takeWhile_append_of_pos hpart]
      simp
  · rintro rfl
    have hsplit : text = (text.reverse.dropWhile (· ≠ ':')).reverse ++ unprefixed text := by
      rw [unprefixed, ← List.reverse_append, List.takeWhile_append_dropWhile, List.reverse_reverse]
    refine ⟨fun hmem => ?_, ?_⟩
    · have hcolon := List.mem_takeWhile_imp (List.mem_reverse.mp hmem)
      simp at hcolon
    · cases hbefore : text.reverse.dropWhile (· ≠ ':') with
      | nil =>
        rw [hbefore] at hsplit
        exact .inl hsplit.symm
      | cons c before =>
        have hnot := List.head?_dropWhile_not (· ≠ ':') text.reverse
        rw [hbefore] at hnot hsplit
        obtain rfl : c = ':' := by simpa using hnot
        exact .inr ⟨before.reverse, by simpa using hsplit.symm⟩

theorem mem_of_mem_unprefixed {c : Char} (hmem : c ∈ unprefixed text) : c ∈ text :=
  List.mem_reverse.mp ((List.takeWhile_sublist _).subset (List.mem_reverse.mp hmem))

theorem guarded_eq (text : List Char) :
    guarded text = if text.head?.all Char.isDigit then 'X' :: text else text := by
  cases text <;> rfl

/-- Whether the camel-case form of a text is guarded depends on its first letter or digit. -/
theorem chars_of_ascii (hascii : Text.IsAscii (unprefixed text)) :
    chars text =
      if (lettersAndDigits (unprefixed text)).head?.all Char.isDigit then
        'X' :: Text.camelCase (unprefixed text)
      else Text.camelCase (unprefixed text) := by
  have hfirst : (Text.camelCase (unprefixed text)).head?.all Char.isDigit =
      (lettersAndDigits (unprefixed text)).head?.all Char.isDigit := by
    rw [Text.head?_camelCase hascii, lettersAndDigits]
    cases hhead : ((unprefixed text).filter Char.isAlphanum).head? with
    | none => rfl
    | some c =>
      have hc := List.mem_of_mem_filter (List.mem_of_mem_head? hhead)
      exact Text.isDigit_toUpper_of_ascii (hascii c hc)
  rw [chars, guarded_eq, hfirst]

/-- The identifier of an ASCII name tells its letters and digits. -/
theorem tells_chars (hascii : Text.IsAscii (unprefixed text)) :
    Tells (chars text) (lettersAndDigits (unprefixed text)) := by
  have hlegal : ∀ c ∈ Text.camelCase (unprefixed text), c.isAlphanum = true :=
    fun c => Text.isAlphanum_of_mem_camelCase hascii
  rw [chars_of_ascii hascii]
  refine ⟨⟨_, Text.toLower_camelCase hascii, rfl⟩, ?_, ?_⟩
  · split
    · exact ⟨'X', rfl, by decide⟩
    · rename_i hunguarded
      rw [Text.head?_camelCase hascii, ← lettersAndDigits]
      cases hhead : (lettersAndDigits (unprefixed text)).head? with
      | none => simp [hhead] at hunguarded
      | some c =>
        have halphanum : c.isAlphanum = true :=
          (List.mem_filter.mp (List.mem_of_mem_head? hhead)).2
        have hdigit : c.isDigit = false := by simpa [hhead] using hunguarded
        have halpha : c.isAlpha = true := by simpa [Char.isAlphanum, hdigit] using halphanum
        exact ⟨c.toUpper, rfl, by simpa using halpha⟩
  · split
    · exact List.forall_mem_cons.mpr ⟨by decide, hlegal⟩
    · exact hlegal

/-- Without a guard an identifier tells all the letters and digits. -/
theorem Tells.toLower_eq {identifier : List Char} (htells : Tells identifier letters)
    (hletter : letters.head?.any Char.isAlpha = true) :
    identifier.map Char.toLower = letters.map Char.toLower := by
  obtain ⟨spelling, hspelling, hidentifier⟩ := htells.spelled
  have hguard : letters.head?.all Char.isDigit = false := by
    cases hhead : letters.head? with
    | none => simp [hhead] at hletter
    | some c =>
      rw [hhead] at hletter
      exact Text.isDigit_of_isAlpha hletter
  rw [hidentifier, hguard, if_neg Bool.false_ne_true, hspelling]

/-- **Identifiers are legal and lose nothing.** The identifier of an ASCII name tells which letters
and digits the name has after its last colon, so that names that begin with a letter there share it
only if these agree up to case. -/
theorem ofName_tells (hascii : Text.IsAscii name.toList)
    (hpart : AfterLastColon name.toList part) :
    Tells (ofName name).toList (lettersAndDigits part) ∧
      ∀ (other : String) (otherPart : List Char), Text.IsAscii other.toList →
        AfterLastColon other.toList otherPart →
        (lettersAndDigits part).head?.any Char.isAlpha = true →
        (lettersAndDigits otherPart).head?.any Char.isAlpha = true →
        ofName other = ofName name →
          (lettersAndDigits otherPart).map Char.toLower =
            (lettersAndDigits part).map Char.toLower := by
  have htells {name : String} {part : List Char} (hascii : Text.IsAscii name.toList)
      (hpart : AfterLastColon name.toList part) :
      Tells (ofName name).toList (lettersAndDigits part) := by
    rw [ofName, String.toList_ofList, afterLastColon_iff.mp hpart]
    exact tells_chars fun c hc => hascii c (mem_of_mem_unprefixed hc)
  refine ⟨htells hascii hpart, ?_⟩
  intro other otherPart hascii' hpart' hletter hletter' hsame
  rw [← (htells hascii hpart).toLower_eq hletter, ← (htells hascii' hpart').toLower_eq hletter',
    hsame]

/-- Two names share an identifier although their letters and digits differ in case. -/
theorem ofName_tells_sharedIdentifier :
    Text.IsAscii "a:xml:first-NAME.2b".toList ∧
      AfterLastColon "a:xml:first-NAME.2b".toList "first-NAME.2b".toList ∧
      Text.IsAscii "FIRSTName2b".toList ∧
      AfterLastColon "FIRSTName2b".toList "FIRSTName2b".toList ∧
      ofName "FIRSTName2b" = ofName "a:xml:first-NAME.2b" ∧
      Tells (ofName "a:xml:first-NAME.2b").toList "firstNAME2b".toList ∧
      "FIRSTName2b".toList.map Char.toLower = "firstNAME2b".toList.map Char.toLower := by
  have hpart : AfterLastColon "a:xml:first-NAME.2b".toList "first-NAME.2b".toList :=
    ⟨by decide, .inr ⟨"a:xml".toList, by decide⟩⟩
  have hpart' : AfterLastColon "FIRSTName2b".toList "FIRSTName2b".toList := ⟨by decide, .inl rfl⟩
  have hsame : ofName "FIRSTName2b" = ofName "a:xml:first-NAME.2b" := by decide +kernel
  obtain ⟨htells, hshared⟩ := ofName_tells (by decide) hpart
  exact ⟨by decide, hpart, by decide, hpart', hsame, htells,
    hshared "FIRSTName2b" _ (by decide) hpart' (by decide) (by decide) hsame⟩

end Identifier

end XsdDerivation
