import FlashImage.Text.Blank
import FlashImage.Text.Case
import Mathlib

/-!
Texts without white space at their ends, and lower case, which neither makes white space nor changes
the characters of decimal numerals.
-/

set_option autoImplicit false
set_option relaxedAutoImplicit false

namespace FlashImage.Text

variable {s front back : List Char}

private theorem dropWhile_isBlank_of_head (hs : ∀ c ∈ s.head?, isBlank c = false) :
    s.dropWhile isBlank = s := by
  cases s with
  | nil => rfl
  | cons c s => exact List.dropWhile_cons_of_neg (by simp [hs c rfl])

private theorem trimStart_append (hfront : ∀ c ∈ front, isBlank c = true)
    (hs : ∀ c ∈ s.head?, isBlank c = false) : trimStart (front ++ s) = s := by
  rw [trimStart, List.dropWhile_append_of_pos hfront, dropWhile_isBlank_of_head hs]

private theorem trimEnd_append (hback : ∀ c ∈ back, isBlank c = true)
    (hs : ∀ c ∈ s.getLast?, isBlank c = false) : trimEnd (s ++ back) = s := by
  have hreversed : ∀ c ∈ back.reverse, isBlank c = true := fun c hc =>
    hback c (List.mem_reverse.1 hc)
  rw [trimEnd, List.reverse_append, List.dropWhile_append_of_pos hreversed,
    dropWhile_isBlank_of_head (by rwa [List.head?_reverse]), List.reverse_reverse]

theorem trim_append (hfront : ∀ c ∈ front, isBlank c = true) (hback : ∀ c ∈ back, isBlank c = true)
    (hfirst : ∀ c ∈ s.head?, isBlank c = false) (hlast : ∀ c ∈ s.getLast?, isBlank c = false) :
    trim (front ++ (s ++ back)) = s := by
  cases s with
  | nil =>
    have hall : ∀ c ∈ front ++ back, isBlank c = true := List.forall_mem_append.2 ⟨hfront, hback⟩
    rw [List.nil_append, trim, trimStart, List.dropWhile_eq_nil_iff.2 hall]
    rfl
  | cons c s =>
    rw [trim, trimStart_append hfront (by simpa using hfirst), trimEnd_append hback hlast]

private theorem exists_trimEnd (s : List Char) :
    ∃ back, s = trimEnd s ++ back ∧ ∀ c ∈ back, isBlank c = true := by
  refine ⟨(s.reverse.takeWhile isBlank).reverse, ?_, fun c hc => ?_⟩
  · rw [trimEnd, ← List.reverse_append, List.takeWhile_append_dropWhile, List.reverse_reverse]
  · exact List.mem_takeWhile_imp (List.mem_reverse.1 hc)

theorem exists_trim (hs : ∀ c ∈ s.head?, isBlank c = false) :
    ∃ back, s = trim s ++ back ∧ ∀ c ∈ back, isBlank c = true := by
  rw [trim, trimStart, dropWhile_isBlank_of_head hs]
  exact exists_trimEnd s

theorem isBlank_head_trim (s : List Char) : ∀ c ∈ (trim s).head?, isBlank c = false := by
  obtain ⟨back, hback, -⟩ := exists_trimEnd (trimStart s)
  have hdropped := List.head?_dropWhile_not isBlank s
  intro c hc
  have hhead : (trimStart s).head? = some c := by
    rw [hback, List.head?_append, ← trim, hc]
    rfl
  rw [trimStart] at hhead
  rwa [hhead] at hdropped

private theorem caseRuns_apart : ∀ r ∈ caseRuns, 0x20 < r.lower ∧
    (r.lower + (r.last - r.first) < 0x85 ∨ 0xA0 < r.lower) ∧
    (r.lower + (r.last - r.first) < 0x1680 ∨ 0x1680 < r.lower) ∧
    (r.lower + (r.last - r.first) < 0x2000 ∨ 0x205F < r.lower) ∧
    (r.lower + (r.last - r.first) < 0x3000 ∨ 0x3000 < r.lower) := by
  decide +kernel

private theorem isBlank_lowerChar {c : Char} (hc : isBlank c = false) :
    ∀ c' ∈ lowerChar c, isBlank c' = false := by
  rw [lowerChar]
  split
  · simp [isBlank]
  split
  · rename_i r hfind
    have hapart := caseRuns_apart r (List.mem_of_find?_eq_some hfind)
    have hhas := List.find?_some hfind
    simp only [CaseRun.has, Bool.and_eq_true, decide_eq_true_eq] at hhas
    rw [List.forall_mem_singleton, isBlank, Char.toNat_ofNat]
    split
    · simp only [Bool.or_eq_false_iff, Bool.and_eq_false_iff, decide_eq_false_iff_not,
        beq_eq_false_iff_ne]
      omega
    · rfl
  · exact List.forall_mem_singleton.2 hc

theorem isBlank_head_lower (hs : ∀ c ∈ s.head?, isBlank c = false) :
    ∀ c ∈ (lower s).head?, isBlank c = false := by
  cases s with
  | nil => exact fun c hc => nomatch hc
  | cons c s =>
    intro c' hc'
    have hlower := isBlank_lowerChar (hs c rfl)
    have hnonempty : lowerChar c ≠ [] := by
      rw [lowerChar]
      split
      · exact List.cons_ne_nil _ _
      · split <;> exact List.cons_ne_nil _ _
    rw [lower, List.flatMap_cons, List.head?_append_of_ne_nil _ hnonempty] at hc'
    exact hlower c' (List.mem_of_head? hc')

theorem lower_append (s t : List Char) : lower (s ++ t) = lower s ++ lower t := List.flatMap_append

theorem lower_eq_self (hs : ∀ c ∈ s, lowerChar c = [c]) : lower s = s := by
  rw [lower, List.flatMap_congr hs]
  exact List.flatMap_singleton' s

end FlashImage.Text
