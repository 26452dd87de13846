import FlashImage.Codec.Lz4.Block

/-!
Blocks are read back from their bytes.

A half byte of 15 says that a length goes on behind it, so a length is read back whether it fits its
half byte or not. The last literals of a block are those that nothing follows.
-/

set_option autoImplicit false
set_option relaxedAutoImplicit false

namespace FlashImage.Lz4

private theorem toNat_token (literals extra : Nat) :
    (token literals extra).toNat = min literals 15 * 16 + min extra 15 := by
  rw [token, UInt8.toNat_ofNat']
  omega

private theorem token_div (literals extra : Nat) :
    (token literals extra).toNat / 16 = min literals 15 := by
  rw [toNat_token]
  omega

private theorem token_mod (literals extra : Nat) :
    (token literals extra).toNat % 16 = min extra 15 := by
  rw [toNat_token]
  omega

private theorem readExtension_append (n count : Nat) (b : UInt8) (rest : Bytes) (hb : b ≠ 255) :
    readExtension n (List.replicate count 255 ++ b :: rest) =
      some (n + 255 * count + b.toNat, rest) := by
  induction count generalizing n with
  | zero => simp [readExtension, hb]
  | succ count ih =>
    rw [List.replicate_succ, List.cons_append, readExtension, if_pos rfl, ih]
    simp only [Option.some.injEq, Prod.mk.injEq, and_true]
    omega

private theorem readLength_extension (length : Nat) (rest : Bytes) :
    readLength (min length 15) (extension length ++ rest) = some (length, rest) := by
  unfold readLength extension
  by_cases hshort : length < 15
  · rw [if_pos hshort, if_pos (by omega), List.nil_append, Nat.min_eq_left (by omega)]
  · have hlast : (UInt8.ofNat ((length - 15) % 255)).toNat = (length - 15) % 255 := by
      rw [UInt8.toNat_ofNat']
      omega
    have hne : UInt8.ofNat ((length - 15) % 255) ≠ 255 := by
      intro heq
      rw [heq] at hlast
      have : (255 : UInt8).toNat = 255 := rfl
      omega
    rw [if_neg hshort, if_neg (by omega), List.append_assoc, List.singleton_append,
      readExtension_append _ _ _ _ hne, hlast]
    simp only [Option.some.injEq, Prod.mk.injEq, and_true]
    omega

private theorem readLiterals_append (literals rest : Bytes) :
    readLiterals (min literals.length 15) (extension literals.length ++ (literals ++ rest)) =
      some (literals, rest) := by
  simp [readLiterals, readLength_extension]

private theorem readCopy_append {distance : Nat} (extra : Nat) (rest : Bytes)
    (hdistance : distance < UInt16.size) :
    readCopy (min extra 15) (Bytes.littleEndian 2 distance ++ (extension extra ++ rest)) =
      some (distance, extra, rest) := by
  have hread : Bytes.toNat (Bytes.littleEndian 2 distance) = distance := by
    rw [Bytes.toNat_littleEndian]
    exact Nat.mod_eq_of_lt hdistance
  simp only [Bytes.littleEndian] at hread
  simp only [Bytes.littleEndian, List.cons_append, List.nil_append, readCopy, readLength_extension,
    Option.map_some, hread]

namespace Block

variable {t : UInt8} {input rest literals : Bytes}

private theorem parse_of_last (h : readLiterals (t.toNat / 16) input = some (literals, [])) :
    parse (t :: input) = some ⟨[], literals⟩ := by
  rw [parse]
  split <;> simp_all

private theorem parse_of_sequence {behind : Bytes} {distance extra : Nat}
    (hl : readLiterals (t.toNat / 16) input = some (literals, behind))
    (hc : readCopy (t.toNat % 16) behind = some (distance, extra, rest)) :
    parse (t :: input) = (parse rest).map fun block =>
      ⟨⟨literals, distance, extra⟩ :: block.sequences, block.last⟩ := by
  rw [parse]
  split
  · simp_all
  · rename_i heq
    obtain ⟨-, rfl⟩ := Prod.mk.inj (Option.some.inj (hl.symm.trans heq))
    cases hc
  · rename_i heq
    obtain ⟨rfl, rfl⟩ := Prod.mk.inj (Option.some.inj (hl.symm.trans heq))
    split <;> simp_all

theorem parse_bytes (b : Block) (h : ∀ s ∈ b.sequences, s.distance < UInt16.size) :
    parse b.bytes = some b := by
  obtain ⟨sequences, last⟩ := b
  induction sequences with
  | nil =>
    refine parse_of_last ?_
    rw [token_div]
    simpa using readLiterals_append last []
  | cons s rest ih =>
    have hrest : parse (bytes ⟨rest, last⟩) = some ⟨rest, last⟩ :=
      ih fun s' hs' => h s' (List.mem_cons_of_mem s hs')
    have hbytes : bytes ⟨s :: rest, last⟩ = token s.literals.length s.extra ::
        (extension s.literals.length ++ (s.literals ++ (Bytes.littleEndian 2 s.distance ++
          (extension s.extra ++ bytes ⟨rest, last⟩)))) := by
      simp only [bytes, Sequence.bytes, List.flatMap_cons, List.cons_append, List.append_assoc]
    have hl := readLiterals_append s.literals (Bytes.littleEndian 2 s.distance ++
      (extension s.extra ++ bytes ⟨rest, last⟩))
    have hc := readCopy_append s.extra (bytes ⟨rest, last⟩) (h s List.mem_cons_self)
    rw [← token_div _ s.extra] at hl
    rw [← token_mod s.literals.length] at hc
    rw [hbytes, parse_of_sequence hl hc, hrest, Option.map_some]

end Block
end FlashImage.Lz4
