import FlashImage.Proofs.Toml.Line

/-!
How a number is read that has been written in base 16.
-/

set_option autoImplicit false
set_option relaxedAutoImplicit false

namespace FlashImage.Toml

open Text

def hexChar (d : Nat) : Char := (Nat.digitChar d).toUpper

private theorem digitValue?_hexChar : ∀ d < 16, digitValue? 16 (hexChar d) = some d := by decide

private theorem hexChar_ne_underscore : ∀ d < 16, hexChar d ≠ '_' := by decide

private theorem isWordChar_hexChar : ∀ d < 16, isWordChar (hexChar d) = true := by decide

private theorem hexChar_ne_hyphen : ∀ d < 16, hexChar d ≠ '-' := by decide

private theorem hexChar_ne_colon : ∀ d < 16, hexChar d ≠ ':' := by decide

private theorem groupedDigits?_hexChar {ds : List Nat} (nonempty : ds ≠ [])
    (hds : ∀ d ∈ ds, d < 16) :
    groupedDigits? 16 (ds.map hexChar) = some ds := by
  induction ds with
  | nil => exact absurd rfl nonempty
  | cons d ds ih =>
    have hd := digitValue?_hexChar d (hds d List.mem_cons_self)
    cases ds with
    | nil =>
      simp only [List.map_cons, List.map_nil, groupedDigits?, hd]
      rfl
    | cons d' ds =>
      have hd' := hexChar_ne_underscore d' (hds d' (by simp))
      have hrest := ih (List.cons_ne_nil d' ds) fun d h => hds d (List.mem_cons_of_mem _ h)
      rw [List.map_cons] at hrest
      rw [List.map_cons, List.map_cons, groupedDigits?, hd, hrest]
      · rfl
      · exact fun rest heq => hd' (List.cons.inj heq).1
      · exact fun heq => nomatch heq

private theorem ofDigits_append_singleton (ds : List Nat) (d : Nat) :
    ofDigits 16 (ds ++ [d]) = ofDigits 16 ds * 16 + d := by
  simp [ofDigits, List.foldl_append]

private theorem ofDigits_zeros (k : Nat) (ds : List Nat) :
    ofDigits 16 (List.replicate k 0 ++ ds) = ofDigits 16 ds := by
  have hzeros : (List.replicate k 0).foldl (fun n d => n * 16 + d) 0 = 0 := by
    induction k with
    | zero => rfl
    | succ k ih => simpa [List.replicate_succ] using ih
  rw [ofDigits, List.foldl_append, hzeros, ofDigits]

private theorem exists_digits_of_upperHex (n : Nat) :
    ∃ ds : List Nat, ds ≠ [] ∧ (∀ d ∈ ds, d < 16) ∧ (upperHex n).toList = ds.map hexChar ∧
      ofDigits 16 ds = n := by
  simp only [upperHex, String.toList_ofList]
  -- The last digit is written behind those of the quotient.
  induction n using Nat.strong_induction_on with
  | _ n ih =>
    by_cases hn : n < 16
    · refine ⟨[n], List.cons_ne_nil _ _, by simpa using hn, ?_, by simp [ofDigits]⟩
      rw [Nat.toDigits_of_lt_base hn]
      rfl
    · obtain ⟨ds, -, hds, htext, hvalue⟩ := ih (n / 16) (by omega)
      refine ⟨ds ++ [n % 16], by simp, ?_, ?_, ?_⟩
      · intro d hd
        rcases List.mem_append.1 hd with hd | hd
        · exact hds d hd
        · rw [List.mem_singleton.1 hd]
          exact Nat.mod_lt _ (by decide)
      · rw [Nat.toDigits_of_base_le (by decide) (by omega), List.map_append, htext,
          List.map_append]
        rfl
      · rw [ofDigits_append_singleton, hvalue]
        omega

private theorem exists_digits_of_zeroFilled (width n : Nat) :
    ∃ ds : List Nat, ds ≠ [] ∧ (∀ d ∈ ds, d < 16) ∧
      (zeroFilled width (upperHex n)).toList = ds.map hexChar ∧ ofDigits 16 ds = n := by
  obtain ⟨ds, nonempty, hds, htext, hvalue⟩ := exists_digits_of_upperHex n
  refine ⟨List.replicate (width - (upperHex n).length) 0 ++ ds, by simp [nonempty], ?_, ?_, ?_⟩
  · intro d hd
    rcases List.mem_append.1 hd with hd | hd
    · rw [List.eq_of_mem_replicate hd]
      decide
    · exact hds d hd
  · rw [zeroFilled, String.toList_append, String.toList_ofList, htext, List.map_append,
      List.map_replicate]
    rfl
  · rw [ofDigits_zeros, hvalue]

private theorem based?_eq (base : Nat) (s : List Char) :
    integer?.based? base s = (groupedDigits? base s).bind fun ds =>
      if (ofDigits base ds : Int) < integerLimit then some (ofDigits base ds : Int) else none := rfl

private theorem afterDate?_eq_none {s : List Char} (h : '-' ∉ s) : afterDate? s = none := by
  rw [afterDate?.eq_def]
  split
  · simp at h
  · rfl

private theorem afterTime?_eq_none {s : List Char} (h : ':' ∉ s) : afterTime? s = none := by
  rw [afterTime?.eq_def]
  split
  · simp at h
  · rfl

private theorem not_mem_hexWord {ds : List Nat} (hds : ∀ d ∈ ds, d < 16) {c : Char}
    (hc : ∀ d < 16, hexChar d ≠ c) (hstart : '0' ≠ c ∧ 'x' ≠ c) :
    c ∉ '0' :: 'x' :: ds.map hexChar := by
  intro hmem
  rcases List.mem_cons.1 hmem with rfl | hmem
  · exact hstart.1 rfl
  rcases List.mem_cons.1 hmem with rfl | hmem
  · exact hstart.2 rfl
  · obtain ⟨d, hd, heq⟩ := List.mem_map.1 hmem
    exact hc d (hds d hd) heq

private theorem word?_of_hex {ds : List Nat} (nonempty : ds ≠ []) (hds : ∀ d ∈ ds, d < 16)
    (hlimit : (ofDigits 16 ds : Int) < integerLimit) :
    afterDate? ('0' :: 'x' :: ds.map hexChar) = none ∧
      word? ('0' :: 'x' :: ds.map hexChar) = some (.integer (ofDigits 16 ds)) := by
  have hdate := afterDate?_eq_none (not_mem_hexWord hds hexChar_ne_hyphen (by decide))
  have htime := afterTime?_eq_none (not_mem_hexWord hds hexChar_ne_colon (by decide))
  have hinteger : integer? ('0' :: 'x' :: ds.map hexChar) = some (ofDigits 16 ds : Int) := by
    rw [integer?, based?_eq, groupedDigits?_hexChar nonempty hds, Option.bind_some, if_pos hlimit]
  refine ⟨hdate, ?_⟩
  rw [word?, if_neg (by simp), if_neg (by simp), if_neg (by simp [isMoment, htime, hdate]),
    hinteger]

theorem readValue_hex (depth width : Nat) {n : Nat} (hn : (n : Int) < integerLimit)
    (rest : List Char) :
    readValue depth ('0' :: 'x' :: ((zeroFilled width (upperHex n)).toList ++ '\n' :: rest)) =
      some (.integer n, '\n' :: rest) := by
  obtain ⟨ds, nonempty, hds, htext, rfl⟩ := exists_digits_of_zeroFilled width n
  obtain ⟨hdate, hword⟩ := word?_of_hex nonempty hds hn
  have hchars : ∀ c ∈ '0' :: 'x' :: ds.map hexChar, isWordChar c = true := by
    simp only [List.forall_mem_cons, List.forall_mem_map]
    exact ⟨by decide, by decide, fun d hd => isWordChar_hexChar d (hds d hd)⟩
  have hend : ∀ c ∈ ('\n' :: rest).head?, isWordChar c = false := by
    rintro c ⟨⟩
    decide
  have hspan := takeWhile_append_of_head hchars hend
  rw [htext, ← List.cons_append, ← List.cons_append, readValue, readWord, hspan.1, hspan.2, hdate]
  · rw [hword]
    rfl
  all_goals simp

end FlashImage.Toml
