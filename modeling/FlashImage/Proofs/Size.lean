import FlashImage.Layout.Document
import FlashImage.Proofs.Text.Blank
import FlashImage.Proofs.Text.Numeral
import FlashImage.Text.Column

/-!
Which texts are sizes, and that the text of a size is one of them.

A size is a number, or a count with a unit. No text is both: a text with a unit has a letter that no
decimal number has, and it lacks the letter that marks a number in base 16. So it does not matter
that a number is tried first.
-/

set_option autoImplicit false
set_option relaxedAutoImplicit false

namespace FlashImage

open Text

def decimalChars : List Char := ['+', '0', '1', '2', '3', '4', '5', '6', '7', '8', '9']

private theorem decimalChars_apart : ∀ c ∈ decimalChars,
    isBlank c = false ∧ lowerChar c = [c] ∧ c ∉ ['b', 'i', 'k', 'm', 'x', 'X'] := by
  simp only [decimalChars, List.forall_mem_cons]
  refine ⟨?_, ?_, ?_, ?_, ?_, ?_, ?_, ?_, ?_, ?_, ?_, fun c hc => nomatch hc⟩ <;> decide +kernel

private theorem mem_decimalChars {s : List Char} {n : Nat} (h : IsNumeral 10 s n) :
    ∀ c ∈ s, c ∈ decimalChars := by
  have hdigits {s : List Char} (h : IsDigits 10 s n) : ∀ c ∈ s, c ∈ decimalChars := by
    obtain ⟨-, ds, hds, -⟩ := h
    refine ((List.forall₂_and_left s ds).1 (hds.imp fun c d hc => ⟨?_, hc⟩)).1
    rw [eq_digitChar_of_isDigit hc]
    exact (by decide : ∀ d < 10, Nat.digitChar d ∈ decimalChars) d hc.1
  rcases h with h | ⟨digits, rfl, h⟩
  · exact hdigits h
  · exact List.forall_mem_cons.2 ⟨by decide, hdigits h⟩

private theorem isBlank_of_isNumeral {s : List Char} {n : Nat} (h : IsNumeral 10 s n) :
    ∀ c ∈ s, isBlank c = false :=
  fun c hc => (decimalChars_apart c (mem_decimalChars h c hc)).1

private theorem lower_of_isNumeral {s : List Char} {n : Nat} (h : IsNumeral 10 s n) : lower s = s :=
  lower_eq_self fun c hc => (decimalChars_apart c (mem_decimalChars h c hc)).2.1

private theorem readTrimmedNumber_eq_ok_iff {s : List Char} {k : UInt32} :
    readTrimmedNumber s = .ok k ↔ IsNumeral 10 s k.toNat ∨
      ∃ mark digits, s = '0' :: mark :: digits ∧ (mark = 'x' ∨ mark = 'X') ∧
        IsNumeral 16 digits k.toNat := by
  have hmapped {fault : NumeralFault → NumberFault} {result : Except NumeralFault UInt32} :
      result.mapError fault = .ok k ↔ result = .ok k := by
    cases result <;> simp [Except.mapError]
  have hmarked {mark : Char} {digits : List Char} (hmark : mark = 'x' ∨ mark = 'X') :
      ¬ IsNumeral 10 ('0' :: mark :: digits) k.toNat := by
    intro h
    have hapart := decimalChars_apart mark (mem_decimalChars h mark (by simp))
    rcases hmark with rfl | rfl <;> exact hapart.2.2 (by simp)
  rw [readTrimmedNumber.eq_def]
  split
  · rw [hmapped, readNumeral_eq_ok_iff (by decide), or_iff_right (hmarked (.inl rfl))]
    simp
  · rw [hmapped, readNumeral_eq_ok_iff (by decide), or_iff_right (hmarked (.inr rfl))]
    simp
  · rename_i hlower hupper
    rw [hmapped, readNumeral_eq_ok_iff (by decide), or_iff_left]
    rintro ⟨mark, digits, rfl, rfl | rfl, -⟩
    · exact hlower digits rfl
    · exact hupper digits rfl

namespace Size

/-- The units in lower case, each with the number of bytes that it stands for. -/
inductive UnitText : List Char → Nat → Prop
  | b : UnitText ['b'] 1
  | kb : UnitText ['k', 'b'] 1024
  | kib : UnitText ['k', 'i', 'b'] 1024
  | mb : UnitText ['m', 'b'] 1048576
  | mib : UnitText ['m', 'i', 'b'] 1048576

/-- A text without white space around it stands for a number of bytes. -/
inductive Denotes : List Char → Nat → Prop
  /-- It is a number. -/
  | decimal {s : List Char} {n : Nat} (numeral : IsNumeral 10 s n) : Denotes s n
  /-- It is a number in base 16 behind a mark. -/
  | hexadecimal {mark : Char} {digits : List Char} {n : Nat} (marked : mark = 'x' ∨ mark = 'X')
      (numeral : IsNumeral 16 digits n) : Denotes ('0' :: mark :: digits) n
  /-- It is a count and a unit in upper or lower case, perhaps with white space between them. -/
  | withUnit {s count blanks unit : List Char} {m factor : Nat}
      (text : lower s = count ++ (blanks ++ unit)) (numeral : IsNumeral 10 count m)
      (fits : m < 2 ^ 32) (blank : ∀ c ∈ blanks, isBlank c = true)
      (unit : UnitText unit factor) : Denotes s (m * factor)

variable {s count blanks unit : List Char} {m factor : Nat}

private theorem unitText_of_mem_endings : ∀ p ∈ endings, UnitText p.1 p.2.factor := by
  simp only [endings, List.forall_mem_cons]
  exact ⟨.mib, .mb, .kib, .kb, .b, fun p hp => nomatch hp⟩

theorem UnitText.subset (h : UnitText unit factor) : unit ⊆ ['b', 'i', 'k', 'm'] := by
  cases h <;> simp

private theorem UnitText.b_mem (h : UnitText unit factor) : 'b' ∈ unit := by
  cases h <;> decide

private theorem dropEnding?_eq_some {ending : List Char} (h : dropEnding? ending s = some count) :
    s = count ++ ending := by
  rw [dropEnding?] at h
  split at h
  · rename_i hsuffix
    obtain ⟨before, rfl⟩ := List.isSuffixOf_iff_suffix.1 hsuffix
    cases h
    simp
  · cases h

private theorem of_splitUnit? {u : SizeUnit} (h : splitUnit? s = some (count, u)) :
    ∃ before ending, s = before ++ ending ∧ count = trim before ∧ UnitText ending u.factor := by
  obtain ⟨⟨ending, u'⟩, hmem, hfound⟩ := List.exists_of_findSome?_eq_some h
  obtain ⟨before, hdrop, heq⟩ := Option.map_eq_some_iff.1 hfound
  cases heq
  exact ⟨before, ending, dropEnding?_eq_some hdrop, rfl, unitText_of_mem_endings _ hmem⟩

private theorem splitUnit?_append (h : UnitText unit factor)
    (apart : ∀ c ∈ count, c ∉ ['i', 'k', 'm']) :
    ∃ u, u.factor = factor ∧ splitUnit? (count ++ unit) = some (trim count, u) := by
  have hdrop (ending rest : List Char) : dropEnding? ending (count ++ rest) =
      if ending.reverse.isPrefixOf (rest.reverse ++ count.reverse) then
        some ((count ++ rest).take ((count ++ rest).length - ending.length)) else none := by
    rw [dropEnding?, List.isSuffixOf, List.reverse_append]
  cases h with
  | b =>
    refine ⟨.byte, rfl, ?_⟩
    cases hreverse : count.reverse with
    | nil => simp [splitUnit?, endings, hdrop, hreverse]
    | cons c rest =>
      have hc := apart c (List.mem_reverse.1 (hreverse ▸ List.mem_cons_self))
      have hne : 'i' ≠ c ∧ 'k' ≠ c ∧ 'm' ≠ c := by
        refine ⟨?_, ?_, ?_⟩ <;> rintro rfl <;> simp at hc
      simp [splitUnit?, endings, hdrop, hreverse, hne]
  | kb => exact ⟨.kibibyte, rfl, by simp [splitUnit?, endings, hdrop]⟩
  | kib => exact ⟨.kibibyte, rfl, by simp [splitUnit?, endings, hdrop]⟩
  | mb => exact ⟨.mebibyte, rfl, by simp [splitUnit?, endings, hdrop]⟩
  | mib => exact ⟨.mebibyte, rfl, by simp [splitUnit?, endings, hdrop]⟩

private theorem readTrimmedNumber_of_unit (text : lower s = count ++ (blanks ++ unit))
    (numeral : IsNumeral 10 count m) (blank : ∀ c ∈ blanks, isBlank c = true)
    (unit : UnitText unit factor) (k : UInt32) : readTrimmedNumber s ≠ .ok k := by
  intro h
  rcases readTrimmedNumber_eq_ok_iff.1 h with h | ⟨mark, digits, rfl, hmark, -⟩
  · have hb : 'b' ∈ lower s := by
      rw [text]
      simp [unit.b_mem]
    rw [lower_of_isNumeral h] at hb
    exact (decimalChars_apart 'b' (mem_decimalChars h 'b' hb)).2.2 (by simp)
  · have hmarkLower : lowerChar mark = ['x'] := by
      rcases hmark with rfl | rfl <;> decide +kernel
    have hx : 'x' ∈ lower ('0' :: mark :: digits) := by
      simp [lower, hmarkLower]
    rw [text, List.mem_append, List.mem_append] at hx
    rcases hx with hx | hx | hx
    · exact (decimalChars_apart 'x' (mem_decimalChars numeral 'x' hx)).2.2 (by simp)
    · cases blank 'x' hx
    · exact absurd (unit.subset hx) (by simp)

private theorem bytes?_eq_some_iff {size : Size} {k : UInt32} :
    size.bytes? = some k ↔ k.toNat = size.count.toNat * size.unit.factor := by
  have hbytes : size.bytes? = if size.count.toNat * size.unit.factor < UInt32.size then
      some (UInt32.ofNat (size.count.toNat * size.unit.factor)) else none := rfl
  rw [hbytes]
  constructor
  · intro h
    split at h
    · rename_i hfits
      cases h
      exact UInt32.toNat_ofNat_of_lt hfits
    · cases h
  · intro h
    rw [← h, if_pos k.toNat_lt, UInt32.ofNat_toNat]

private theorem read_eq_ok_iff {text : String} {k : UInt32} :
    Size.read text = .ok k ↔ readTrimmedNumber (trim text.toList) = .ok k ∨
      (∀ n, readTrimmedNumber (trim text.toList) ≠ .ok n) ∧
        ∃ count u n, splitUnit? (lower (trim text.toList)) = some (count, u) ∧
          readNumeral 10 count = .ok n ∧ k.toNat = n.toNat * u.factor := by
  rw [Size.read]
  cases hnumber : readTrimmedNumber (trim text.toList) with
  | ok n => simp
  | error fault =>
    simp only [reduceCtorEq, false_or, ne_eq, not_false_eq_true, implies_true, true_and]
    cases hsplit : splitUnit? (lower (trim text.toList)) with
    | none => simp
    | some found =>
      obtain ⟨count, u⟩ := found
      simp only [Option.some.injEq, Prod.mk.injEq, and_assoc, exists_and_left, exists_eq_left']
      cases hcount : readNumeral 10 count with
      | error fault => simp
      | ok n =>
        have hbytes : bytes? ⟨n, u⟩ = some k ↔ _ := bytes?_eq_some_iff
        cases h : bytes? ⟨n, u⟩ <;> simp_all

private theorem denotes_of_read {text : String} {k : UInt32} (h : Size.read text = .ok k) :
    Denotes (trim text.toList) k.toNat := by
  have hhead := isBlank_head_trim text.toList
  rw [read_eq_ok_iff, readTrimmedNumber_eq_ok_iff] at h
  generalize trim text.toList = s at hhead h ⊢
  rcases h with (h | ⟨mark, digits, rfl, hmark, h⟩) | ⟨-, count, u, n, hsplit, hcount, hk⟩
  · exact .decimal h
  · exact .hexadecimal hmark h
  · obtain ⟨before, ending, htext, rfl, hunit⟩ := of_splitUnit? hsplit
    have hbefore : ∀ c ∈ before.head?, isBlank c = false := by
      intro c hc
      refine isBlank_head_lower hhead c ?_
      rw [htext, List.head?_append, hc]
      rfl
    obtain ⟨blanks, heq, hblanks⟩ := exists_trim hbefore
    rw [hk]
    refine .withUnit ?_ ((readNumeral_eq_ok_iff (by decide)).1 hcount) n.toNat_lt hblanks hunit
    rw [htext, ← List.append_assoc, ← heq]

private theorem splitUnit?_lower (text : lower s = count ++ (blanks ++ unit))
    (numeral : IsNumeral 10 count m) (blank : ∀ c ∈ blanks, isBlank c = true)
    (unit : UnitText unit factor) :
    ∃ u, u.factor = factor ∧ splitUnit? (lower s) = some (count, u) := by
  have hcount := isBlank_of_isNumeral numeral
  have hapart : ∀ c ∈ count ++ blanks, c ∉ ['i', 'k', 'm'] := by
    refine List.forall_mem_append.2 ⟨fun c hc hletter => ?_, fun c hc hletter => ?_⟩
    · have hother := (decimalChars_apart c (mem_decimalChars numeral c hc)).2.2
      exact hother (by simp_all)
    · have hblank := blank c hc
      simp only [List.mem_cons, List.not_mem_nil, or_false] at hletter
      rcases hletter with rfl | rfl | rfl <;> cases hblank
  obtain ⟨u, hu, hsplit⟩ := splitUnit?_append unit hapart
  have htrim : trim ([] ++ (count ++ blanks)) = count :=
    trim_append (List.forall_mem_nil _) blank (fun c hc => hcount c (List.mem_of_head? hc))
      fun c hc => hcount c (List.mem_of_getLast? hc)
  rw [List.nil_append] at htrim
  exact ⟨u, hu, by rw [text, ← List.append_assoc, hsplit, htrim]⟩

private theorem read_of_denotes {text : String} {k : UInt32}
    (h : Denotes (trim text.toList) k.toNat) :
    Size.read text = .ok k := by
  rw [read_eq_ok_iff, readTrimmedNumber_eq_ok_iff]
  generalize trim text.toList = s at h ⊢
  generalize hk : k.toNat = n at h ⊢
  cases h with
  | decimal numeral => exact .inl (.inl numeral)
  | hexadecimal marked numeral => exact .inl (.inr ⟨_, _, rfl, marked, numeral⟩)
  | @withUnit _ count blanks unit m factor text numeral fits blank unit =>
    obtain ⟨u, hu, hsplit⟩ := splitUnit?_lower text numeral blank unit
    have hm : (UInt32.ofNat m).toNat = m := UInt32.toNat_ofNat_of_lt fits
    have hread : readNumeral 10 count = .ok (UInt32.ofNat m) := by
      rw [readNumeral_eq_ok_iff (by decide), hm]
      exact numeral
    refine .inr ⟨readTrimmedNumber_of_unit text numeral blank unit, _, _, _, hsplit, hread, ?_⟩
    rw [hm, hu]

/-- A text is read as a size if it stands for a number of bytes that fits in 32 bits: a decimal
number or one in base 16, or a decimal count with a unit in upper or lower case. White space may
stand around it and in front of the unit. The bytes are counted exactly. -/
theorem reads_iff_denotes (text : String) (n : Nat) :
    (Size.read text).map UInt32.toNat = .ok n ↔ n < 2 ^ 32 ∧ Denotes (trim text.toList) n := by
  constructor
  · intro h
    cases hread : Size.read text with
    | error fault =>
      rw [hread] at h
      cases h
    | ok k =>
      rw [hread] at h
      obtain rfl : k.toNat = n := Except.ok.inj h
      exact ⟨k.toNat_lt, denotes_of_read hread⟩
  · rintro ⟨hn, h⟩
    have hword : (UInt32.ofNat n).toNat = n := UInt32.toNat_ofNat_of_lt hn
    rw [← hword] at h
    rw [read_of_denotes h]
    exact congrArg Except.ok hword

/-- A number in base 16 may end in the letter of a unit. -/
example : Size.read " 0x1B" = .ok 27 := by decide +kernel

/-- The sign that stands for kelvins is a letter too. -/
example : Size.read "+4 \u212Aib" = .ok 4096 := by decide +kernel

private theorem exists_format (n : Nat) : ∃ (m : Nat) (unit : SizeUnit),
    (format n).toList = Nat.toDigits 10 m ++ ([' '] ++ unit.symbol.toList) ∧
      m * unit.factor = n := by
  have htext (m : Nat) (unit : SizeUnit) : (toString m ++ (" " ++ unit.symbol)).toList =
      Nat.toDigits 10 m ++ ([' '] ++ unit.symbol.toList) := by
    rw [String.toList_append, String.toList_append]
    exact congrArg (· ++ _) Nat.toList_repr
  rw [format]
  split
  · rename_i h
    exact ⟨_, .mebibyte, htext _ .mebibyte, Nat.div_mul_cancel (Nat.dvd_of_mod_eq_zero h.2)⟩
  split
  · rename_i h
    exact ⟨_, .kibibyte, htext _ .kibibyte, Nat.div_mul_cancel (Nat.dvd_of_mod_eq_zero h.2)⟩
  · exact ⟨n, .byte, htext n .byte, Nat.mul_one n⟩

private theorem unitText_symbol (unit : SizeUnit) :
    UnitText (lower unit.symbol.toList) unit.factor := by
  cases unit with
  | byte =>
    have hlower : lower SizeUnit.byte.symbol.toList = ['b'] := by decide +kernel
    exact hlower ▸ .b
  | kibibyte =>
    have hlower : lower SizeUnit.kibibyte.symbol.toList = ['k', 'i', 'b'] := by decide +kernel
    exact hlower ▸ .kib
  | mebibyte =>
    have hlower : lower SizeUnit.mebibyte.symbol.toList = ['m', 'i', 'b'] := by decide +kernel
    exact hlower ▸ .mib

private theorem denotes_format {front : List Char} (hfront : ∀ c ∈ front, isBlank c = true)
    (n : UInt32) :
    Denotes (trim (front ++ (format n.toNat).toList)) n.toNat := by
  obtain ⟨m, unit, htext, hn⟩ := exists_format n.toNat
  have hnumeral : IsNumeral 10 (Nat.toDigits 10 m) m := .inl (isDigits_toDigits (by decide) m)
  have hfits : m < UInt32.size := by
    have hfactor : 0 < unit.factor := by cases unit <;> decide
    exact (Nat.le_mul_of_pos_right m hfactor).trans_lt (hn ▸ n.toNat_lt)
  have hfirst : ∀ c ∈ (format n.toNat).toList.head?, isBlank c = false := by
    intro c hc
    rw [htext, List.head?_append_of_ne_nil _ (isDigits_toDigits (by decide) m).1] at hc
    exact isBlank_of_isNumeral hnumeral c (List.mem_of_head? hc)
  have hlast : ∀ c ∈ (format n.toNat).toList.getLast?, isBlank c = false := by
    intro c hc
    have hsymbol : unit.symbol.toList.getLast? = some 'B' := by cases unit <;> rfl
    rw [htext, List.getLast?_append, List.getLast?_append, hsymbol] at hc
    cases hc
    rfl
  have htrim := trim_append hfront (List.forall_mem_nil _) hfirst hlast
  have hlower : lower (Nat.toDigits 10 m ++ ([' '] ++ unit.symbol.toList)) =
      Nat.toDigits 10 m ++ ([' '] ++ lower unit.symbol.toList) := by
    have hblank : lower [' '] = [' '] := by decide +kernel
    rw [lower_append, lower_append, lower_of_isNumeral hnumeral, hblank]
  rw [List.append_nil] at htrim
  rw [htrim, htext, ← hn]
  exact .withUnit hlower hnumeral hfits (List.forall_mem_singleton.2 rfl) (unitText_symbol unit)

/-- The text of a size of 32 bits is read as this size, also as it stands in a column of a table,
and by the reader of layouts. -/
theorem read_format (n : UInt32) : Size.read (format n.toNat) = .ok n ∧
    ∀ width, Size.read (atRight width (format n.toNat)) = .ok n ∧
      Toml.readSize (.text (atRight width (format n.toNat))) = .ok n := by
  have hcolumn (width : Nat) : Size.read (atRight width (format n.toNat)) = .ok n := by
    have hblank : ∀ c ∈ List.replicate (width - (format n.toNat).length) ' ', isBlank c = true := by
      intro c hc
      rw [List.eq_of_mem_replicate hc]
      rfl
    apply read_of_denotes
    rw [atRight, blanks, String.toList_append, String.toList_ofList]
    exact denotes_format hblank n
  refine ⟨read_of_denotes (denotes_format (List.forall_mem_nil _) n), fun width => ?_⟩
  refine ⟨hcolumn width, ?_⟩
  rw [Toml.readSize, Toml.readNumeric, hcolumn]
  rfl

end Size
end FlashImage
