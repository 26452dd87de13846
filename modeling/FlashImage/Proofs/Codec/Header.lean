import FlashImage.Codec.Header
import Mathlib.Algebra.GroupWithZero.Nat

/-!
Reading headers back.

A payload that has been put behind its header is found again whatever follows it, and so is all that
the header records. Nothing is found if something is missing at the end. What has been found is put
together again to the bytes that it was found in.
-/

set_option autoImplicit false
set_option relaxedAutoImplicit false

namespace FlashImage

private theorem Codec.ofSignature?_of_signature? {codec : Codec} {mark : Bytes}
    (h : codec.signature? = some mark) : Codec.ofSignature? mark = some codec := by
  cases codec with
  | none => cases h
  | lz4 =>
    cases h
    decide
  | lzma =>
    cases h
    decide

private theorem Codec.length_of_signature? {codec : Codec} {mark : Bytes}
    (h : codec.signature? = some mark) : mark.length = 4 := by
  cases codec <;> cases h <;> rfl

private theorem Codec.signature?_of_ofSignature? {codec : Codec} {mark : Bytes}
    (h : Codec.ofSignature? mark = some codec) : codec.signature? = some mark := by
  simpa using List.find?_some h

namespace CompressedHeader

/-- The numbers of a header fit in their fields. -/
structure Fits (h : CompressedHeader) : Prop where
  compressedSize : h.compressedSize < UInt32.size
  size : h.size < UInt32.size
  version : h.version < UInt16.size

private theorem read?_of_fits {h : CompressedHeader} {mark : Bytes} (fits : h.Fits)
    (hmark : h.codec.signature? = some mark) : read? (mark ++ h.fields) = some h := by
  have hcodec := Codec.ofSignature?_of_signature? hmark
  have hlength := Codec.length_of_signature? hmark
  have hcompressed : Bytes.toNat (Bytes.littleEndian 4 h.compressedSize) = h.compressedSize := by
    rw [Bytes.toNat_littleEndian]
    exact Nat.mod_eq_of_lt fits.compressedSize
  have hsize : Bytes.toNat (Bytes.littleEndian 4 h.size) = h.size := by
    rw [Bytes.toNat_littleEndian]
    exact Nat.mod_eq_of_lt fits.size
  have hversion : Bytes.toNat (Bytes.littleEndian 2 h.version) = h.version := by
    rw [Bytes.toNat_littleEndian]
    exact Nat.mod_eq_of_lt fits.version
  match mark, hlength with
  | [m₀, m₁, m₂, m₃], _ =>
    simp only [Bytes.littleEndian] at hcompressed hsize hversion
    simp only [fields, Bytes.littleEndian, List.cons_append, List.nil_append, read?, hcodec,
      hcompressed, hsize, hversion, Option.map_some]

private theorem length_fields (h : CompressedHeader) : h.fields.length = 12 := by
  simp [fields]

variable {codec : Codec} {size : Nat} {payload out : Bytes}

theorem of_wrap (h : wrap codec size payload = .ok out) :
    (new codec payload.length size).Fits ∧
      ∃ mark, codec.signature? = some mark ∧
        out = mark ++ (new codec payload.length size).fields ++ payload := by
  unfold wrap at h
  split at h
  · cases h
  rename_i mark hmark
  split at h
  · rename_i hlengths
    cases h
    have hversion : currentVersion < UInt16.size := by decide
    exact ⟨⟨hlengths.1, hlengths.2, hversion⟩, mark, hmark, rfl⟩
  · cases h

private theorem length_of_mark {mark : Bytes} (hmark : codec.signature? = some mark)
    (h : CompressedHeader) : (mark ++ h.fields).length = length := by
  rw [List.length_append, length_fields, Codec.length_of_signature? hmark, length]

theorem signature?_of_wrap (h : wrap codec size payload = .ok out) :
    codec.signature? = some (out.take 4) := by
  obtain ⟨-, mark, hmark, rfl⟩ := of_wrap h
  rw [hmark, List.append_assoc, List.take_left' (Codec.length_of_signature? hmark)]

theorem drop_length_of_wrap (h : wrap codec size payload = .ok out) :
    out.drop length = payload := by
  obtain ⟨-, mark, hmark, rfl⟩ := of_wrap h
  exact List.drop_left' (length_of_mark hmark _)

private theorem parse_append_of_wrap (h : wrap codec size payload = .ok out) (suffix : Bytes) :
    parse (out ++ suffix) = some (new codec payload.length size, payload) := by
  obtain ⟨fits, mark, hmark, rfl⟩ := of_wrap h
  have hlength := length_of_mark hmark (new codec payload.length size)
  unfold parse
  rw [List.append_assoc, List.take_left' hlength, List.drop_left' hlength, read?_of_fits fits hmark]
  simp [new]

theorem parse_of_wrap (h : wrap codec size payload = .ok out) :
    parse out = some (new codec payload.length size, payload) := by
  simpa using parse_append_of_wrap h []

private theorem of_read? {bytes : Bytes} {h : CompressedHeader} (hread : read? bytes = some h) :
    h.Fits ∧ ∃ mark, h.codec.signature? = some mark ∧ bytes = mark ++ h.fields := by
  unfold read? at hread
  split at hread
  · rename_i m₀ m₁ m₂ m₃ c₀ c₁ c₂ c₃ s₀ s₁ s₂ s₃ v₀ v₁ svn flags
    obtain ⟨codec, hcodec, rfl⟩ := Option.map_eq_some_iff.1 hread
    have hfits : (⟨codec, Bytes.toNat [c₀, c₁, c₂, c₃], Bytes.toNat [s₀, s₁, s₂, s₃],
        Bytes.toNat [v₀, v₁], svn, flags⟩ : CompressedHeader).Fits :=
      ⟨Nat.lt_of_lt_of_eq (Bytes.toNat_lt _) (by simp [UInt32.size]),
        Nat.lt_of_lt_of_eq (Bytes.toNat_lt _) (by simp [UInt32.size]),
        Nat.lt_of_lt_of_eq (Bytes.toNat_lt _) (by simp [UInt16.size])⟩
    refine ⟨hfits, _, Codec.signature?_of_ofSignature? hcodec, ?_⟩
    have hcompressed := Bytes.littleEndian_toNat [c₀, c₁, c₂, c₃]
    have hsize := Bytes.littleEndian_toNat [s₀, s₁, s₂, s₃]
    have hversion := Bytes.littleEndian_toNat [v₀, v₁]
    simp only [List.length_cons, List.length_nil, Nat.zero_add, Nat.reduceAdd]
      at hcompressed hsize hversion
    simp only [fields, hcompressed, hsize, hversion, List.cons_append, List.nil_append]
  · cases hread

private theorem parse_eq_some_iff {data : Bytes} {h : CompressedHeader} :
    parse data = some (h, payload) ↔
      h.Fits ∧ h.compressedSize = payload.length ∧ ∃ mark suffix,
        h.codec.signature? = some mark ∧ data = mark ++ h.fields ++ payload ++ suffix := by
  constructor
  · intro hparse
    unfold parse at hparse
    split at hparse
    · cases hparse
    rename_i hread
    simp only at hparse
    split at hparse
    · rename_i hle
      cases hparse
      obtain ⟨fits, mark, hmark, hbytes⟩ := of_read? hread
      refine ⟨fits, (List.length_take_of_le hle).symm, mark,
        (data.drop length).drop h.compressedSize, hmark, ?_⟩
      rw [← hbytes, List.append_assoc, List.take_append_drop, List.take_append_drop]
    · cases hparse
  · rintro ⟨fits, hcompressed, mark, suffix, hmark, rfl⟩
    have hlength := length_of_mark hmark h
    unfold parse
    rw [List.append_assoc, List.take_left' hlength, List.drop_left' hlength,
      read?_of_fits fits hmark]
    simp [hcompressed]

private theorem parse_append {data : Bytes} {h : CompressedHeader}
    (hparse : parse data = some (h, payload)) (suffix : Bytes) :
    parse (data ++ suffix) = some (h, payload) := by
  obtain ⟨fits, hcompressed, mark, suffix', hmark, rfl⟩ := parse_eq_some_iff.1 hparse
  refine parse_eq_some_iff.2 ⟨fits, hcompressed, mark, suffix' ++ suffix, hmark, ?_⟩
  rw [List.append_assoc]

private theorem length_le_of_parse {data : Bytes} {h : CompressedHeader}
    (hparse : parse data = some (h, payload)) : length + payload.length ≤ data.length := by
  obtain ⟨-, -, mark, suffix, hmark, rfl⟩ := parse_eq_some_iff.1 hparse
  rw [List.length_append, List.length_append, length_of_mark hmark]
  exact Nat.le_add_right _ _

private theorem length_of_wrap (h : wrap codec size payload = .ok out) :
    out.length = length + payload.length := by
  obtain ⟨-, mark, hmark, rfl⟩ := of_wrap h
  rw [List.length_append, length_of_mark hmark]

private theorem parse_of_wrap_prefix (h : wrap codec size payload = .ok out) {part : Bytes}
    (hpart : part <+: out) (hne : part ≠ out) : parse part = none := by
  refine Option.eq_none_iff_forall_ne_some.2 fun ⟨header, payload'⟩ hparse => ?_
  obtain ⟨suffix, rfl⟩ := hpart
  -- What parses holds the whole payload, so nothing can follow it.
  have hwhole := parse_append hparse suffix
  rw [parse_of_wrap h] at hwhole
  cases hwhole
  have hlength := length_of_wrap h
  have hle := length_le_of_parse hparse
  rw [List.length_append] at hlength
  have hsuffix : suffix = [] := List.eq_nil_of_length_eq_zero (by omega)
  exact hne (by rw [hsuffix, List.append_nil])

private theorem wrap_eq_error_iff (hcodec : codec ≠ .none) :
    (∃ e, wrap codec size payload = .error e) ↔
      UInt32.size ≤ payload.length ∨ UInt32.size ≤ size := by
  obtain ⟨mark, hmark⟩ : ∃ mark, codec.signature? = some mark := by
    cases codec with
    | none => exact absurd rfl hcodec
    | lz4 => exact ⟨_, rfl⟩
    | lzma => exact ⟨_, rfl⟩
  by_cases hlengths : payload.length < UInt32.size ∧ size < UInt32.size
  · have hok : wrap codec size payload =
        .ok (mark ++ fields (new codec payload.length size) ++ payload) := by
      simp only [wrap, hmark, if_pos hlengths]
    simp [hok, hlengths]
  · have herror : wrap codec size payload = .error (.configuration (.codecLength codec)) := by
      simp only [wrap, hmark, if_neg hlengths]
    refine ⟨fun _ => ?_, fun _ => ⟨_, herror⟩⟩
    omega

private theorem wrap_of_parse {data : Bytes} {h : CompressedHeader}
    (hparse : parse data = some (h, payload)) (hnew : h = new h.codec h.compressedSize h.size) :
    wrap h.codec h.size payload = .ok (data.take (length + payload.length)) := by
  obtain ⟨fits, hcompressed, mark, suffix, hmark, rfl⟩ := parse_eq_some_iff.1 hparse
  have hlengths : payload.length < UInt32.size ∧ h.size < UInt32.size :=
    ⟨hcompressed ▸ fits.compressedSize, fits.size⟩
  have htake : (mark ++ h.fields ++ payload ++ suffix).take (length + payload.length) =
      mark ++ h.fields ++ payload :=
    List.take_left' (by rw [List.length_append, length_of_mark hmark])
  simp only [wrap, hmark, if_pos hlengths]
  rw [htake, ← hcompressed, ← hnew]

/-- Wrapping fails exactly on lengths that need more than 32 bits. What it gives starts with the
mark of the codec and parses, whatever follows it, to a new header and the payload; with something
missing at the end it does not parse. Whatever parses to a header that a new one could have is
wrapped again to the bytes that were parsed. -/
theorem wrap_parse_inverse :
    (∀ codec size payload, codec ≠ .none →
      ((∃ e, wrap codec size payload = .error e) ↔ 2 ^ 32 ≤ payload.length ∨ 2 ^ 32 ≤ size) ∧
      ∀ out, wrap codec size payload = .ok out →
        codec.signature? = some (out.take 4) ∧
        (∀ suffix, parse (out ++ suffix) =
          some (⟨codec, payload.length, size, 1, 0, 0⟩, payload)) ∧
        ∀ part, part <+: out → part ≠ out → parse part = none) ∧
    ∀ data h payload, parse data = some (h, payload) → h.version = 1 → h.svn = 0 → h.flags = 0 →
      wrap h.codec h.size payload = .ok (data.take (16 + payload.length)) := by
  constructor
  · intro codec size payload hcodec
    refine ⟨wrap_eq_error_iff hcodec, fun out h => ?_⟩
    exact ⟨signature?_of_wrap h, parse_append_of_wrap h, fun part => parse_of_wrap_prefix h⟩
  · rintro data ⟨codec, compressedSize, size, version, svn, flags⟩ payload hparse rfl rfl rfl
    exact wrap_of_parse hparse rfl

/-- A payload of four bytes with padding behind it: the header is found in front of the padding and
nothing in front of the last byte of the payload, and what has been found is wrapped again. -/
theorem wrap_parse_inverse_padded :
    let out : Bytes :=
      [0x4C, 0x5A, 0x34, 0x20, 4, 0, 0, 0, 10, 0, 0, 0, 1, 0, 0, 0, 0x30, 0x61, 0x00, 0xFF]
    wrap .lz4 10 [0x30, 0x61, 0x00, 0xFF] = .ok out ∧
      parse (out ++ [0xFF, 0xFF]) = some (⟨.lz4, 4, 10, 1, 0, 0⟩, [0x30, 0x61, 0x00, 0xFF]) ∧
      parse out.dropLast = none ∧
      wrap .lz4 10 [0x30, 0x61, 0x00, 0xFF] = .ok ((out ++ [0xFF, 0xFF]).take 20) ∧
      ∃ e, wrap .lzma (2 ^ 32) [] = .error e := by
  intro out
  have hout : wrap .lz4 10 [0x30, 0x61, 0x00, 0xFF] = .ok out := rfl
  obtain ⟨-, hparse, hpart⟩ :=
    (wrap_parse_inverse.1 .lz4 10 [0x30, 0x61, 0x00, 0xFF] (by decide)).2 out hout
  refine ⟨hout, hparse _, hpart _ (List.dropLast_prefix out) (by decide), ?_, ?_⟩
  · exact wrap_parse_inverse.2 _ _ _ (hparse [0xFF, 0xFF]) rfl rfl rfl
  · exact (wrap_parse_inverse.1 .lzma (2 ^ 32) [] (by decide)).1.2 (.inr (Nat.le_refl _))

end CompressedHeader
end FlashImage
