import FlashImage.Text.Numeral
import Mathlib

/-!
Which texts are numerals of 32 bits, and which numbers they stand for.

A numeral is read digit by digit and given up at the first overflow. A number never gets smaller
while digits are appended to it, so what is given up is too large as a whole.
-/

set_option autoImplicit false
set_option relaxedAutoImplicit false

namespace FlashImage.Text

/-- A character is the digit of a value, in either case. Bases of more than 16 are not meant. -/
def IsDigit (base : Nat) (c : Char) (d : Nat) : Prop := d < base ∧ c.toLower = Nat.digitChar d

/-- A text consists of digits, at least one, that stand for a number. -/
def IsDigits (base : Nat) (s : List Char) (n : Nat) : Prop :=
  s ≠ [] ∧ ∃ ds, List.Forall₂ (IsDigit base) s ds ∧ n = Nat.ofDigits base ds.reverse

/-- A text consists of digits that stand for a number, perhaps behind a plus sign. -/
def IsNumeral (base : Nat) (s : List Char) (n : Nat) : Prop :=
  IsDigits base s n ∨ ∃ digits, s = '+' :: digits ∧ IsDigits base digits n

private theorem toNat_toLower (c : Char) :
    c.toLower.toNat = if 65 ≤ c.toNat ∧ c.toNat ≤ 90 then c.toNat + 32 else c.toNat := by
  have hupper : (c.val ≥ 'A'.val ∧ c.val ≤ 'Z'.val) ↔ 65 ≤ c.toNat ∧ c.toNat ≤ 90 := Iff.rfl
  rw [Char.toLower]
  by_cases h : 65 ≤ c.toNat ∧ c.toNat ≤ 90
  · rw [dif_pos (hupper.2 h), if_pos h]
    have hsum : (c.val + 32).toNat = c.val.toNat + 32 := by
      rw [UInt32.toNat_add]
      have hlast : c.val.toNat ≤ 90 := h.2
      exact Nat.mod_eq_of_lt (by simp; omega)
    exact hsum
  · rw [dif_neg (hupper.not.2 h), if_neg h]

private theorem toNat_digitChar : ∀ d < 16,
    (Nat.digitChar d).toNat = if d < 10 then d + 48 else d + 87 := by decide

private theorem digitValue?_eq_some_iff {base d : Nat} {c : Char} (hbase : base ≤ 16) :
    digitValue? base c = some d ↔ IsDigit base c d := by
  have hdigit : ('0' ≤ c ∧ c ≤ '9') ↔ 48 ≤ c.toNat ∧ c.toNat ≤ 57 := Iff.rfl
  have hlower : ('a' ≤ c ∧ c ≤ 'f') ↔ 97 ≤ c.toNat ∧ c.toNat ≤ 102 := Iff.rfl
  have hupper : ('A' ≤ c ∧ c ≤ 'F') ↔ 65 ≤ c.toNat ∧ c.toNat ≤ 70 := Iff.rfl
  have hcodes : c.toLower = Nat.digitChar d ↔ c.toLower.toNat = (Nat.digitChar d).toNat :=
    Char.toNat_inj.symm
  have hvalues : '0'.toNat = 48 ∧ 'a'.toNat = 97 ∧ 'A'.toNat = 65 := by decide
  rw [digitValue?, Option.filter_eq_some_iff, decide_eq_true_eq, and_comm, IsDigit]
  refine and_congr_right fun hd => ?_
  rw [hcodes, toNat_toLower, toNat_digitChar d (by omega), hvalues.1, hvalues.2.1, hvalues.2.2]
  simp only [hdigit, hlower, hupper]
  split_ifs <;> simp only [Option.some.injEq, false_iff] <;> omega

theorem eq_digitChar_of_isDigit {c : Char} {d : Nat} (h : IsDigit 10 c d) :
    c = Nat.digitChar d := by
  have hd := h.1
  have hcodes := congrArg Char.toNat h.2
  rw [toNat_toLower, toNat_digitChar d (by omega)] at hcodes
  apply Char.toNat_inj.1
  rw [toNat_digitChar d (by omega)]
  split_ifs at hcodes ⊢ <;> omega

private theorem readDigits_eq_ok_iff {base : Nat} (hbase : 1 ≤ base ∧ base ≤ 16) {n k : Nat}
    {s : List Char}
    (hn : n < UInt32.size) : readDigits base n s = .ok k ↔ k < UInt32.size ∧
      ∃ ds, List.Forall₂ (IsDigit base) s ds ∧
        k = n * base ^ ds.length + Nat.ofDigits base ds.reverse := by
  induction s generalizing n with
  | nil =>
    simp only [readDigits, Except.ok.injEq, List.forall₂_nil_left_iff, exists_eq_left]
    simp only [List.length_nil, pow_zero, mul_one, List.reverse_nil, Nat.ofDigits_nil, add_zero]
    constructor
    · rintro rfl
      exact ⟨hn, rfl⟩
    · exact fun h => h.2.symm
  | cons c s ih =>
    have hvalue (d : Nat) (ds : List Nat) :
        n * base ^ (d :: ds).length + Nat.ofDigits base (d :: ds).reverse =
          (n * base + d) * base ^ ds.length + Nat.ofDigits base ds.reverse := by
      rw [Nat.ofDigits_reverse_cons, List.length_cons, pow_succ]
      ring
    rw [readDigits]
    cases hdigit : digitValue? base c with
    | none =>
      refine iff_of_false (fun h => nomatch h) ?_
      rintro ⟨-, ds, hds, -⟩
      cases hds with
      | cons hc _ => cases hdigit.symm.trans ((digitValue?_eq_some_iff hbase.2).2 hc)
    | some d =>
      have hc := (digitValue?_eq_some_iff hbase.2).1 hdigit
      simp only
      split
      · rename_i hfits
        rw [ih hfits]
        refine and_congr_right fun _ => ⟨?_, ?_⟩
        · rintro ⟨ds, hds, rfl⟩
          exact ⟨d :: ds, .cons hc hds, (hvalue d ds).symm⟩
        · rintro ⟨_, hds, rfl⟩
          cases hds with
          | @cons _ d' _ ds hc' hds =>
            cases hdigit.symm.trans ((digitValue?_eq_some_iff hbase.2).2 hc')
            exact ⟨ds, hds, hvalue d ds⟩
      · rename_i hover
        refine iff_of_false (fun h => nomatch h) ?_
        rintro ⟨hk, _, hds, rfl⟩
        cases hds with
        | @cons _ d' _ ds hc' hds =>
          cases hdigit.symm.trans ((digitValue?_eq_some_iff hbase.2).2 hc')
          rw [hvalue] at hk
          have hgrows : n * base + d ≤ (n * base + d) * base ^ ds.length :=
            Nat.le_mul_of_pos_right _ (Nat.pow_pos hbase.1)
          omega

private theorem not_isDigit_plus {base d : Nat} (hbase : base ≤ 16) : ¬ IsDigit base '+' d := by
  intro h
  cases (digitValue?_eq_some_iff hbase).2 h

private theorem readDigits_zero_eq_ok_iff {base : Nat} (hbase : 1 ≤ base ∧ base ≤ 16)
    {s : List Char}
    (nonempty : s ≠ []) {k : UInt32} :
    (readDigits base 0 s).map UInt32.ofNat = .ok k ↔ IsDigits base s k.toNat := by
  have hread : (readDigits base 0 s).map UInt32.ofNat = .ok k ↔
      readDigits base 0 s = .ok k.toNat := by
    cases h : readDigits base 0 s with
    | error fault => exact iff_of_false (fun h => nomatch h) (fun h => nomatch h)
    | ok j =>
      have hj := ((readDigits_eq_ok_iff hbase (by decide)).1 h).1
      simp only [Except.map, Except.ok.injEq]
      constructor
      · rintro rfl
        exact (UInt32.toNat_ofNat_of_lt hj).symm
      · rintro rfl
        exact UInt32.ofNat_toNat
  rw [hread, readDigits_eq_ok_iff hbase (by decide), IsDigits]
  simp only [Nat.zero_mul, Nat.zero_add]
  exact and_congr (iff_of_true k.toNat_lt nonempty) Iff.rfl

theorem readNumeral_eq_ok_iff {base : Nat} (hbase : 1 ≤ base ∧ base ≤ 16) {s : List Char}
    {k : UInt32} : readNumeral base s = .ok k ↔ IsNumeral base s k.toNat := by
  have hplus {rest : List Char} : ¬ IsDigits base ('+' :: rest) k.toNat := by
    rintro ⟨-, _, hds, -⟩
    cases hds with
    | cons hc _ => exact not_isDigit_plus hbase.2 hc
  rw [readNumeral.eq_def, IsNumeral]
  split
  · refine iff_of_false (fun h => nomatch h) ?_
    rintro (h | ⟨digits, hs, -⟩)
    · exact h.1 rfl
    · cases hs
  · refine iff_of_false (fun h => nomatch h) ?_
    rintro (h | ⟨digits, hs, h⟩)
    · exact hplus h
    · cases hs
      exact h.1 rfl
  · rename_i rest hrest
    rw [readDigits_zero_eq_ok_iff hbase hrest, or_iff_right hplus]
    simp
  · rename_i hempty hlone hsigned
    rw [readDigits_zero_eq_ok_iff hbase hempty, or_iff_left]
    rintro ⟨digits, hs, -⟩
    exact hsigned digits hs

theorem isDigits_toDigits {base : Nat} (hbase : 1 < base ∧ base ≤ 16) (n : Nat) :
    IsDigits base (Nat.toDigits base n) n := by
  have hdigit {d : Nat} (hd : d < base) : IsDigit base (Nat.digitChar d) d :=
    ⟨hd, (by decide : ∀ d < 16, (Nat.digitChar d).toLower = Nat.digitChar d) d (by omega)⟩
  -- The last digit is written behind those of the quotient.
  induction n using Nat.strong_induction_on with
  | _ n ih =>
    by_cases hn : n < base
    · rw [Nat.toDigits_of_lt_base hn]
      exact ⟨List.cons_ne_nil _ _, [n], .cons (hdigit hn) .nil, by simp⟩
    · obtain ⟨-, ds, hds, hvalue⟩ := ih (n / base) (Nat.div_lt_self (by omega) hbase.1)
      have hlast := hdigit (Nat.mod_lt n (by omega : 0 < base))
      rw [Nat.toDigits_of_base_le hbase.1 (by omega)]
      refine ⟨by simp, ds ++ [n % base], List.rel_append hds (.cons hlast .nil), ?_⟩
      rw [List.reverse_append, List.reverse_singleton, List.singleton_append, Nat.ofDigits_cons,
        ← hvalue]
      exact (Nat.mod_add_div n base).symm

end FlashImage.Text
