import FlashImage.Files.Walk
import FlashImage.Proofs.Layout.WellFormed
import Mathlib

/-!
What a path becomes when a name is appended to it.
-/

set_option autoImplicit false
set_option relaxedAutoImplicit false

namespace FlashImage

theorem PlainName.noSlash {name : String} (plain : PlainName name) : '/' ∉ name.toList :=
  plain.2.2.2.1

namespace Path

private theorem splitSlash_cons {c : Char} (h : c ≠ '/') (s : List Char) :
    ∃ part parts, splitSlash s = part :: parts ∧ splitSlash (c :: s) = (c :: part) :: parts := by
  cases hs : splitSlash s with
  | nil =>
    exfalso
    cases s with
    | nil => simp [splitSlash] at hs
    | cons d s =>
      rw [splitSlash] at hs
      split at hs
      · cases hs
      · split at hs <;> cases hs
  | cons part parts =>
    refine ⟨part, parts, rfl, ?_⟩
    rw [splitSlash, if_neg h, hs]

theorem splitSlash_append (s rest : List Char) :
    splitSlash (s ++ '/' :: rest) = splitSlash s ++ splitSlash rest := by
  induction s with
  | nil => simp [splitSlash]
  | cons c s ih =>
    by_cases hc : c = '/'
    · rw [List.cons_append, splitSlash, splitSlash, if_pos hc, if_pos hc, ih]
      rfl
    · obtain ⟨part, parts, hs, hcons⟩ := splitSlash_cons hc s
      rw [List.cons_append, splitSlash, if_neg hc, ih, hcons, hs]
      rfl

private theorem splitSlash_of_not_mem {s : List Char} (h : '/' ∉ s) : splitSlash s = [s] := by
  induction s with
  | nil => rfl
  | cons c s ih =>
    rw [List.mem_cons, not_or] at h
    rw [splitSlash, if_neg (Ne.symm h.1), ih h.2]

theorem not_isAbsolute_of_not_mem {path : String} (h : '/' ∉ path.toList) :
    isAbsolute path = false := by
  rw [isAbsolute, beq_eq_false_iff_ne]
  intro hhead
  exact h (List.mem_of_mem_head? hhead)

theorem join_cases (directory : String) {path : String} (relative : isAbsolute path = false) :
    directory = "" ∧ join directory path = path ∨
      (∃ s, directory.toList = s ++ ['/'] ∧
        (join directory path).toList = s ++ '/' :: path.toList) ∨
      directory.toList ≠ [] ∧
        (join directory path).toList = directory.toList ++ '/' :: path.toList := by
  rw [join, relative]
  simp only [Bool.false_eq_true, if_false]
  split
  · rename_i hlast
    exact .inl ⟨String.toList_eq_nil_iff.1 (List.getLast?_eq_none_iff.1 hlast), rfl⟩
  · rename_i hlast
    obtain ⟨s, hs⟩ := List.getLast?_eq_some_iff.1 hlast
    exact .inr (.inl ⟨s, hs, by simp [hs]⟩)
  · rename_i hlast
    refine .inr (.inr ⟨fun hnil => ?_, by simp⟩)
    rw [hnil] at hlast
    cases hlast

theorem exists_parts_join (directory : String) {name : String}
    (h : '/' ∉ name.toList) :
    ∃ before, parts (join directory name) = before ++ [name] ∧
      (parts directory = before ∨ parts directory = before ++ [""]) := by
  have hname := splitSlash_of_not_mem h
  rcases join_cases directory (not_isAbsolute_of_not_mem h) with
    ⟨rfl, hjoin⟩ | ⟨s, hs, hjoin⟩ | ⟨-, hjoin⟩
  · refine ⟨[], ?_, .inr (by simp [parts, splitSlash])⟩
    simp [parts, hjoin, hname]
  · refine ⟨(splitSlash s).map String.ofList, ?_, .inr ?_⟩
    · simp [parts, hjoin, splitSlash_append, hname]
    · simp [parts, hs, splitSlash_append, splitSlash]
  · exact ⟨parts directory, by simp [parts, hjoin, splitSlash_append, hname], .inl rfl⟩

theorem isAbsolute_join (directory : String) {name : String} (h : '/' ∉ name.toList) :
    isAbsolute (join directory name) = isAbsolute directory := by
  have hname := not_isAbsolute_of_not_mem h
  rcases join_cases directory hname with ⟨rfl, hjoin⟩ | ⟨s, hs, hjoin⟩ | ⟨hne, hjoin⟩
  · rw [hjoin, hname]
    rfl
  · rw [isAbsolute, isAbsolute, hjoin, hs]
    cases s <;> rfl
  · rw [isAbsolute, isAbsolute, hjoin, List.head?_append_of_ne_nil _ hne]

theorem endsWith_join (directory : String) {name : String} {c : Char}
    (relative : isAbsolute name = false) (hlast : name.toList.getLast? = some c) (hc : c ≠ '/') :
    (join directory name).endsWith "/" = false := by
  have hne : name.toList ≠ [] := by
    intro hnil
    rw [hnil] at hlast
    cases hlast
  have happend : ∃ s, (join directory name).toList = s ++ name.toList := by
    rcases join_cases directory relative with ⟨-, hjoin⟩ | ⟨s, -, hjoin⟩ | ⟨-, hjoin⟩
    · exact ⟨[], by rw [hjoin, List.nil_append]⟩
    · exact ⟨s ++ ['/'], by simp [hjoin]⟩
    · exact ⟨directory.toList ++ ['/'], by simp [hjoin]⟩
  obtain ⟨s, hs⟩ := happend
  rw [Bool.eq_false_iff, ne_eq, String.endsWith_eq_endsWith_toSlice,
    String.Slice.endsWith_string_iff, String.copy_toSlice, hs]
  rintro ⟨t, ht⟩
  have hslash : (s ++ name.toList).getLast? = some '/' := by
    rw [← ht]
    exact List.getLast?_concat
  rw [List.getLast?_append_of_ne_nil _ hne, hlast] at hslash
  exact hc (Option.some.inj hslash)

theorem splitLast_of_parts {path name : String} {before : List String} (plain : PlainName name)
    (h : parts path = before ++ [name]) : splitLast path = (before, .name name false) := by
  have hdrop : (name :: before.reverse).dropWhile (fun part => decide (part = "")) =
      name :: before.reverse := List.dropWhile_cons_of_neg (by simpa using plain.1)
  have hhead : ((name :: before.reverse).head? == some "") = false := by simpa using plain.1
  rw [splitLast, h, List.reverse_append, List.reverse_singleton, List.singleton_append]
  simp only [hhead]
  rw [hdrop]
  split
  · rename_i heq
    cases heq
  · rename_i heq
    exact absurd (List.cons.inj heq).1 plain.2.1
  · rename_i heq
    exact absurd (List.cons.inj heq).1 plain.2.2.1
  · rename_i heq
    cases heq
    rw [List.reverse_reverse]

end Path
end FlashImage
