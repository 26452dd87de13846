import FlashImage.Toml.Document
import Mathlib

/-!
How lines are read that have been written one after another.

A line gives a key a text or a number, or it is a header. Texts are written as they are, so a line
is read only if its text holds nothing but characters that stand for themselves.
-/

set_option autoImplicit false
set_option relaxedAutoImplicit false

namespace FlashImage.Toml

/-- A text has none of the two characters that have a meaning of their own in a basic string. -/
def Unescaped (s : String) : Prop := ∀ c ∈ s.toList, c ≠ '"' ∧ c ≠ '\\'

def Plain (s : String) : Prop := ∀ c ∈ s.toList, isPlain c = true

instance (s : String) : Decidable (Unescaped s) :=
  List.decidableBAll (fun c => c ≠ '"' ∧ c ≠ '\\') s.toList

instance (s : String) : Decidable (Plain s) :=
  List.decidableBAll (fun c => isPlain c = true) s.toList

private theorem readBasic_cons {c : Char} (hquote : c ≠ '"') (hescape : c ≠ '\\')
    (rest : List Char) :
    readBasic (c :: rest) = if isPlain c then pushFront c (readBasic rest) else none := by
  rw [readBasic]
  · simp only [hescape, ne_eq, not_false_eq_true, true_and]
  · exact hquote
  · exact fun _ _ _ _ _ heq _ => hescape heq
  · exact fun _ _ _ _ _ _ _ _ _ heq _ => hescape heq
  · exact fun _ _ heq _ => hescape heq

theorem readBasic_append {s : List Char} (unescaped : ∀ c ∈ s, c ≠ '"' ∧ c ≠ '\\')
    (plain : ∀ c ∈ s, isPlain c = true) (rest : List Char) :
    readBasic (s ++ '"' :: rest) = some (s, rest) := by
  induction s with
  | nil => rfl
  | cons c s ih =>
    have hc := unescaped c List.mem_cons_self
    rw [List.cons_append, readBasic_cons hc.1 hc.2, if_pos (plain c List.mem_cons_self),
      ih (fun c h => unescaped c (List.mem_cons_of_mem _ h))
        (fun c h => plain c (List.mem_cons_of_mem _ h))]
    rfl

theorem readBasic_eq_none {s : List Char} (unescaped : ∀ c ∈ s, c ≠ '"' ∧ c ≠ '\\')
    (control : ¬ ∀ c ∈ s, isPlain c = true) (rest : List Char) :
    readBasic (s ++ '"' :: rest) = none := by
  induction s with
  | nil => exact absurd (fun c h => nomatch h) control
  | cons c s ih =>
    have hc := unescaped c List.mem_cons_self
    rw [List.cons_append, readBasic_cons hc.1 hc.2]
    by_cases hplain : isPlain c = true
    · rw [if_pos hplain, ih (fun c h => unescaped c (List.mem_cons_of_mem _ h))]
      · rfl
      · intro hs
        exact control (List.forall_mem_cons.2 ⟨hplain, hs⟩)
    · rw [if_neg hplain]

theorem readValue_quoted (depth : Nat) {s : List Char}
    (unescaped : ∀ c ∈ s, c ≠ '"' ∧ c ≠ '\\') (rest : List Char) :
    readValue depth ('"' :: (s ++ '"' :: '\n' :: rest)) =
      (readBasic (s ++ '"' :: '\n' :: rest)).map fun (s, rest) =>
        (.text (String.ofList s), rest) := by
  have hstring : readString ('"' :: (s ++ '"' :: '\n' :: rest)) =
      readString.asString (readBasic (s ++ '"' :: '\n' :: rest)) := by
    cases s with
    | nil => rfl
    | cons c s =>
      have hc := (unescaped c List.mem_cons_self).1
      rw [List.cons_append, readString]
      intro rest' heq
      exact hc (List.cons.inj heq).1
  have hvalue : readValue depth ('"' :: (s ++ '"' :: '\n' :: rest)) =
      (readString ('"' :: (s ++ '"' :: '\n' :: rest))).bind fun found =>
        some (.text found.1, found.2) := by
    rw [readValue]
    rfl
  rw [hvalue, hstring, readString.asString]
  cases readBasic (s ++ '"' :: '\n' :: rest) <;> rfl

def Bare (key : String) : Prop := key.toList ≠ [] ∧ ∀ c ∈ key.toList, isBare c = true

instance (key : String) : Decidable (Bare key) :=
  have := List.decidableBAll (fun c => isBare c = true) key.toList
  inferInstanceAs (Decidable (key.toList ≠ [] ∧ ∀ c ∈ key.toList, isBare c = true))

private theorem not_isBlank_of_isBare {c : Char} (h : isBare c = true) : isBlank c = false := by
  rw [Bool.eq_false_iff]
  intro hblank
  rw [isBlank, Bool.or_eq_true, beq_iff_eq, beq_iff_eq] at hblank
  rcases hblank with rfl | rfl <;> revert h <;> decide

private theorem ne_of_isBare {c d : Char} (h : isBare c = true) (hd : isBare d = false) :
    c ≠ d := by
  rintro rfl
  rw [h] at hd
  cases hd

theorem takeWhile_append_of_head {p : Char → Bool} {s rest : List Char} (hs : ∀ c ∈ s, p c = true)
    (hrest : ∀ c ∈ rest.head?, p c = false) :
    (s ++ rest).takeWhile p = s ∧ (s ++ rest).dropWhile p = rest := by
  rw [List.takeWhile_append_of_pos hs, List.dropWhile_append_of_pos hs]
  cases rest with
  | nil => exact ⟨List.append_nil s, rfl⟩
  | cons c rest =>
    have hc : ¬p c = true := by simp [hrest c rfl]
    rw [List.takeWhile_cons_of_neg hc, List.dropWhile_cons_of_neg hc]
    exact ⟨List.append_nil s, rfl⟩

private theorem readName_of_bare {key : String} (bare : Bare key) {rest : List Char}
    (hrest : ∀ c ∈ rest.head?, isBare c = false) :
    readName (key.toList ++ rest) = some (key, rest) := by
  obtain ⟨htake, hdrop⟩ := takeWhile_append_of_head bare.2 hrest
  obtain ⟨c, cs, hkey⟩ := List.exists_cons_of_ne_nil bare.1
  have hc : isBare c = true := bare.2 c (hkey ▸ List.mem_cons_self)
  have hname : readName (key.toList ++ rest) =
      if ((key.toList ++ rest).takeWhile isBare).isEmpty then none
      else some (String.ofList ((key.toList ++ rest).takeWhile isBare),
        (key.toList ++ rest).dropWhile isBare) := by
    rw [hkey, List.cons_append, readName]
    · exact fun _ heq => ne_of_isBare hc (by decide) (List.cons.inj heq).1
    · exact fun _ heq => ne_of_isBare hc (by decide) (List.cons.inj heq).1
  rw [hname, htake, hdrop, String.ofList_toList, hkey]
  rfl

theorem skipBlanks_of_head {c : Char} (h : isBlank c = false) (s : List Char) :
    skipBlanks (c :: s) = c :: s := by
  rw [skipBlanks, List.dropWhile_cons_of_neg]
  simp [h]

private theorem readPair_of_bare {key : String} (bare : Bare key)
    (item : List Char → Option (Value × List Char)) (s : List Char) :
    readPair item (key.toList ++ ' ' :: '=' :: ' ' :: s) =
      (item (skipBlanks s)).bind fun (v, rest) => some (([key], v), skipBlanks rest) := by
  have hname : readName (key.toList ++ ' ' :: '=' :: ' ' :: s) =
      some (key, ' ' :: '=' :: ' ' :: s) := by
    refine readName_of_bare bare fun c hc => ?_
    cases hc
    decide
  have hskip : skipBlanks (key.toList ++ ' ' :: '=' :: ' ' :: s) =
      key.toList ++ ' ' :: '=' :: ' ' :: s := by
    obtain ⟨c, cs, hkey⟩ := List.exists_cons_of_ne_nil bare.1
    rw [hkey]
    exact skipBlanks_of_head (not_isBlank_of_isBare (bare.2 c (hkey ▸ List.mem_cons_self))) _
  have hpath : readPath (key.toList ++ ' ' :: '=' :: ' ' :: s) =
      some ([key], '=' :: ' ' :: s) := by
    rw [readPath, depthLimit, readNames, hskip, hname]
    rfl
  rw [readPair, hpath]
  rfl

theorem readStatements_cons {c : Char} (hblank : isBlank c = false)
    (hline : beginsBlankLine c = false) (limit : Nat) (s : List Char) :
    readStatements (limit + 1) (c :: s) =
      (readStatement (c :: s)).bind fun (statement, rest) =>
        (readStatements limit rest).map (statement :: ·) := by
  rw [readStatements, skipBlanks_of_head hblank]
  simp only [hline, Bool.false_eq_true, if_false]
  cases readStatement (c :: s) with
  | none => rfl
  | some read => exact (Option.map_eq_bind).symm

theorem readStatements_entry {key : String} (bare : Bare key) (limit : Nat) (s : List Char) :
    readStatements (limit + 1) (key.toList ++ ' ' :: '=' :: ' ' :: s) =
      (readValue (depthLimit - 1) (skipBlanks s)).bind fun (v, rest) =>
        (lineEnd? (skipBlanks rest)).bind fun rest =>
          (readStatements limit rest).map (.entry [key] v :: ·) := by
  obtain ⟨c, cs, hkey⟩ := List.exists_cons_of_ne_nil bare.1
  have hc : isBare c = true := bare.2 c (hkey ▸ List.mem_cons_self)
  have hline : beginsBlankLine c = false := by
    simp only [beginsBlankLine, Bool.or_eq_false_iff, beq_eq_false_iff_ne]
    exact ⟨⟨ne_of_isBare hc (by decide), ne_of_isBare hc (by decide)⟩, ne_of_isBare hc (by decide)⟩
  have hstatement : readStatement (key.toList ++ ' ' :: '=' :: ' ' :: s) =
      (readPair (readValue (depthLimit - 1)) (key.toList ++ ' ' :: '=' :: ' ' :: s)).bind
        fun found => (lineEnd? found.2).bind fun rest =>
          some (.entry found.1.1 found.1.2, rest) := by
    rw [hkey, List.cons_append, readStatement]
    · rfl
    · exact fun _ heq => ne_of_isBare hc (by decide) (List.cons.inj heq).1
    · exact fun _ heq => ne_of_isBare hc (by decide) (List.cons.inj heq).1
  have hcons := readStatements_cons (not_isBlank_of_isBare hc) hline limit
    (cs ++ ' ' :: '=' :: ' ' :: s)
  rw [← List.cons_append, ← hkey, hstatement, readPair_of_bare bare] at hcons
  rw [hcons]
  cases readValue (depthLimit - 1) (skipBlanks s) with
  | none => rfl
  | some found =>
    simp only [Option.bind_some]
    cases lineEnd? (skipBlanks found.2) <;> rfl

/-- A text of whole lines reads as some statements in front of those of the text behind it, if what
is written between its quotes is literal, and else not at all. -/
def Lines (text : String) (literal : Prop) (statements : List Statement) : Prop :=
  ∃ k ≤ text.toList.length, ∀ limit rest,
    (literal → readStatements (limit + k) (text.toList ++ rest) =
      (readStatements limit rest).map (statements ++ ·)) ∧
    (¬literal → readStatements (limit + k) (text.toList ++ rest) = none)

namespace Lines

variable {text text' : String} {literal literal' : Prop} {statements statements' : List Statement}

theorem nil : Lines "" True [] :=
  ⟨0, Nat.zero_le _, fun limit rest =>
    ⟨fun _ => (Option.map_id' (x := readStatements limit rest)).symm, fun h => (h trivial).elim⟩⟩

theorem of_eq (h : Lines text literal statements) (htext : text = text')
    (iff : literal ↔ literal') (hstatements : statements = statements') :
    Lines text' literal' statements' := by
  rwa [propext iff, htext, hstatements] at h

theorem append (h : Lines text literal statements) (h' : Lines text' literal' statements') :
    Lines (text ++ text') (literal ∧ literal') (statements ++ statements') := by
  obtain ⟨k, hk, hread⟩ := h
  obtain ⟨k', hk', hread'⟩ := h'
  refine ⟨k + k', ?_, fun limit rest => ?_⟩
  · rw [String.toList_append, List.length_append]
    exact Nat.add_le_add hk hk'
  have hlimit : limit + (k + k') = limit + k' + k := by omega
  have htext : (text ++ text').toList ++ rest = text.toList ++ (text'.toList ++ rest) := by
    rw [String.toList_append, List.append_assoc]
  rw [hlimit, htext]
  refine ⟨fun hboth => ?_, fun hnot => ?_⟩
  · rw [(hread _ _).1 hboth.1, (hread' _ _).1 hboth.2, Option.map_map]
    congr 1
    funext others
    exact (List.append_assoc _ _ _).symm
  · by_cases hfirst : literal
    · rw [(hread _ _).1 hfirst, (hread' _ _).2 (fun hsecond => hnot ⟨hfirst, hsecond⟩)]
      rfl
    · exact (hread _ _).2 hfirst

theorem join {α : Type} {f : α → String} {p : α → Prop} {g : α → List Statement} {xs : List α}
    (h : ∀ x ∈ xs, Lines (f x) (p x) (g x)) :
    Lines (String.join (xs.map f)) (∀ x ∈ xs, p x) (xs.flatMap g) := by
  induction xs with
  | nil => exact nil.of_eq rfl (by simp) rfl
  | cons x xs ih =>
    have hrest := ih fun y hy => h y (List.mem_cons_of_mem x hy)
    have hall := (h x List.mem_cons_self).append hrest
    rw [← String.join_cons, ← List.map_cons] at hall
    exact hall.of_eq rfl (by simp) List.flatMap_cons.symm

theorem ofOption {α : Type} {f : α → String} {p : α → Prop} {g : α → List Statement}
    {x : Option α} (h : ∀ a ∈ x, Lines (f a) (p a) (g a)) :
    Lines ((x.map f).getD "") (∀ a ∈ x, p a) (x.toList.flatMap g) := by
  cases x with
  | none => exact nil.of_eq rfl (by simp) rfl
  | some a => exact (h a rfl).of_eq rfl (by simp) (by simp)

theorem readDocument (h : Lines text literal statements)
    (unmarked : dropMark text.toList = text.toList) :
    (literal → readDocument text = addStatements [] statements) ∧
      (¬literal → readDocument text = none) := by
  obtain ⟨k, hk, hread⟩ := h
  have hlimit : text.toList.length - k + k = text.toList.length := by omega
  obtain ⟨hliteral, hnot⟩ := hread (text.toList.length - k) []
  -- There are no more lines than characters, so the limit of the reader is not reached.
  have hend : readStatements (text.toList.length - k) [] = some [] := by
    cases text.toList.length - k <;> rfl
  rw [hlimit, List.append_nil, hend] at hliteral
  rw [hlimit, List.append_nil] at hnot
  refine ⟨fun literal => ?_, fun control => ?_⟩
  · simp only [Toml.readDocument, unmarked, hliteral literal]
    simp
  · simp only [Toml.readDocument, unmarked, hnot control]
    rfl

end Lines
end FlashImage.Toml
