import FlashImage.Codec.Compressor
import FlashImage.Proofs.Codec.Header
import FlashImage.Proofs.Codec.Lz4.Format
import FlashImage.Proofs.Codec.Lz4.Search

/-!
Data that have been compressed into the LZ4 block format are read back.

The sequences that have been found stand for the data up to the end of the last copy, and each
further sequence carries this on: its literals reach up to the copy, and the copy repeats data that
the sequences before it and its own bytes already stand for.
-/

set_option autoImplicit false
set_option relaxedAutoImplicit false

namespace FlashImage.Lz4

variable {d : Array UInt8}

private theorem copyBack_of_repeats {distance start stop p count : Nat}
    (h : Repeats d distance start stop) (hp : start ≤ p) (hcount : p + count ≤ stop) :
    copyBack distance count (d.extract 0 p) = some (d.extract 0 (p + count)) := by
  induction count generalizing p with
  | zero => rfl
  | succ count ih =>
    have hstop := h.within
    have hreach := h.reach
    have hpos := h.pos
    have hsize : (d.extract 0 p).size = p := by
      rw [Array.size_extract]
      omega
    have hbyte : d[p - distance] = d[p] := by
      have hagree := h.agree p hp (by omega)
      rw [Array.getD_eq_getD_getElem?, Array.getD_eq_getD_getElem?] at hagree
      simpa [show p < d.size by omega, show p - distance < d.size by omega] using hagree.symm
    have hnext : (d.extract 0 p).push d[p] = d.extract 0 (p + 1) := by
      rw [Array.push_extract_getElem, Nat.zero_min]
    rw [copyBack, dif_pos (by omega)]
    simp only [hsize, Array.getElem_extract, Nat.zero_add, hbyte, hnext]
    rw [ih (by omega) (by omega), Nat.add_assoc, Nat.add_comm 1]

private theorem expandSequences_append (first others : List Sequence) (out : Array UInt8) :
    expandSequences (first ++ others) out =
      (expandSequences first out).bind (expandSequences others) := by
  induction first generalizing out with
  | nil => rfl
  | cons s rest ih =>
    rw [List.cons_append, expandSequences, expandSequences]
    cases copyBack s.distance (s.extra + minCopy) (out ++ s.literals) with
    | none => rfl
    | some out => exact ih out

/-- No sequence copies from before the start of the output, if it has some size in front of them. -/
def InReach : (size : Nat) → List Sequence → Prop
  | _, [] => True
  | size, s :: rest =>
    0 < s.distance ∧ s.distance ≤ size + s.literals.length ∧
      InReach (size + s.literals.length + (s.extra + minCopy)) rest

private theorem of_copyBack {distance count : Nat} {out out' : Array UInt8}
    (h : copyBack distance count out = some out') :
    out'.size = out.size + count ∧ (0 < count → 0 < distance ∧ distance ≤ out.size) := by
  induction count generalizing out with
  | zero =>
    cases h
    exact ⟨rfl, fun hpos => absurd hpos (Nat.lt_irrefl 0)⟩
  | succ count ih =>
    rw [copyBack] at h
    split at h
    · rename_i hreach
      obtain ⟨hsize, -⟩ := ih h
      rw [Array.size_push] at hsize
      exact ⟨by omega, fun _ => hreach⟩
    · cases h

private theorem size_append (out : Array UInt8) (literals : Bytes) :
    (out ++ literals).size = out.size + literals.length := by
  rw [← Array.length_toList, Array.toList_appendList, List.length_append, Array.length_toList]

private theorem inReach_of_expandSequences {sequences : List Sequence} {out out' : Array UInt8}
    (h : expandSequences sequences out = some out') : InReach out.size sequences := by
  induction sequences generalizing out with
  | nil => trivial
  | cons s rest ih =>
    rw [expandSequences] at h
    split at h
    · cases h
    · rename_i copied hcopy
      obtain ⟨hsize, hreach⟩ := of_copyBack hcopy
      obtain ⟨hpos, hle⟩ := hreach (Nat.lt_of_lt_of_le (by decide) (Nat.le_add_left minCopy _))
      rw [size_append] at hsize hle
      exact ⟨hpos, hle, hsize ▸ ih h⟩

/-- Sequences that stand for the data up to a position, with distances that can be written. -/
structure StandFor (d : Array UInt8) (sequences : List Sequence) (stop : Nat) : Prop where
  within : stop ≤ d.size
  near : ∀ s ∈ sequences, s.distance < UInt16.size
  expands : expandSequences sequences #[] = some (d.extract 0 stop)

/-- A sequence with the data up to a copy and the copy itself goes on with the data. -/
theorem StandFor.push {sequences : List Sequence} {lit start distance extra : Nat}
    (h : StandFor d sequences lit) (hlit : lit ≤ start)
    (repeats : Repeats d distance start (start + minCopy + extra)) :
    StandFor d (sequences ++ [⟨(d.extract lit start).toList, distance, extra⟩])
      (start + minCopy + extra) := by
  refine ⟨repeats.within, ?_, ?_⟩
  · intro s hs
    rcases List.mem_append.1 hs with hs | hs
    · exact h.near s hs
    · obtain rfl := List.mem_singleton.1 hs
      exact Nat.lt_succ_of_le repeats.near
  · have hliterals : d.extract 0 lit ++ (d.extract lit start).toList = d.extract 0 start := by
      rw [← Array.toList_inj, Array.toList_appendList, ← Array.toList_append,
        Array.extract_append_extract, Nat.zero_min, Nat.max_eq_right hlit]
    have hcopy : copyBack distance (extra + minCopy) (d.extract 0 start) =
        some (d.extract 0 (start + minCopy + extra)) := by
      rw [copyBack_of_repeats repeats (Nat.le_refl start) (by omega), Nat.add_comm extra,
        Nat.add_assoc]
    rw [expandSequences_append, h.expands, Option.bind_some, expandSequences]
    simp only [hliterals, hcopy, expandSequences]

private theorem standFor_sequencesFrom {table : Array Nat} {lit cur : Nat} (hle : lit ≤ cur)
    {found : Array Sequence} (pos : 0 < cur) (earlier : Earlier table cur)
    (h : StandFor d found.toList lit) :
    StandFor d (sequencesFrom d table lit cur hle found).1.toList
      (sequencesFrom d table lit cur hle found).2 := by
  fun_induction sequencesFrom d table lit cur hle found with
  | case1 => exact h
  | case2 table lit cur hle found m table₁ hs start extra stop _ hlit _ literals table₂ ih =>
    obtain ⟨hrepeats, hearlier⟩ := repeats_of_match earlier hs
    have hstop : 0 < stop := by
      simp only [minCopy, stop]
      omega
    refine ih hstop (hearlier.set _ (Nat.sub_lt hstop Nat.two_pos)) ?_
    rw [Array.toList_push]
    exact h.push hlit hrepeats

private theorem earlier_start (entry : Nat) :
    Earlier ((Array.replicate tableSize 0).setIfInBounds entry 0) 1 := by
  refine Earlier.set (fun i => ?_) entry Nat.one_pos
  rw [Array.getD_eq_getD_getElem?, Array.getElem?_replicate]
  split <;> exact Nat.one_pos

private theorem standFor_nil (d : Array UInt8) : StandFor d [] 0 :=
  ⟨Nat.zero_le d.size, fun _ hs => absurd hs List.not_mem_nil, by simp [expandSequences]⟩

private theorem expand_ofData (d : Array UInt8) :
    (∀ s ∈ (Block.ofData d).sequences, s.distance < UInt16.size) ∧
      (Block.ofData d).expand = some d.toList := by
  unfold Block.ofData
  split
  · exact ⟨(standFor_nil d).near, by simp [Block.expand, expandSequences]⟩
  · have hempty : StandFor d (#[] : Array Sequence).toList 0 := standFor_nil d
    have h := standFor_sequencesFrom (Nat.zero_le 1) Nat.one_pos (earlier_start (slot d 0)) hempty
    refine ⟨h.near, ?_⟩
    rw [Block.expand, h.expands, Option.map_some, ← Array.toList_append,
      Array.extract_append_extract, Nat.zero_min, Nat.max_eq_right h.within, Array.extract_size]

private theorem parse_compress (raw : Bytes) :
    ∃ block, Block.parse (compress raw) = some block ∧ InReach 0 block.sequences ∧
      block.expand = some raw := by
  obtain ⟨hnear, hexpand⟩ := expand_ofData raw.toArray
  refine ⟨Block.ofData raw.toArray, Block.parse_bytes _ hnear, ?_, hexpand⟩
  obtain ⟨out, hout, -⟩ := Option.map_eq_some_iff.1 hexpand
  exact inReach_of_expandSequences hout

end FlashImage.Lz4

namespace FlashImage.Codec

/-- Data that have been compressed with LZ4 are found behind a header that records their length.
What follows the header is a block, and carrying it out gives the data. -/
theorem decompress_of_compress_lz4 {raw out : Bytes} (h : Codec.compress .lz4 raw = .ok out) :
    out.take 4 = [0x4C, 0x5A, 0x34, 0x20] ∧
      ∃ header payload, CompressedHeader.parse out = some (header, payload) ∧
        header.codec = .lz4 ∧ header.size = raw.length ∧
        payload = out.drop CompressedHeader.length ∧ Lz4.decompress payload = some raw ∧
        ∃ block, Lz4.Block.parse payload = some block ∧ Lz4.InReach 0 block.sequences := by
  obtain ⟨block, hblock, hreach, hexpand⟩ := Lz4.parse_compress raw
  have hwrap : CompressedHeader.wrap .lz4 raw.length (Lz4.compress raw) = .ok out := h
  have hdecompress : Lz4.decompress (Lz4.compress raw) = some raw := by
    rw [Lz4.decompress, hblock, Option.bind_some, hexpand]
  refine ⟨Option.some.inj (CompressedHeader.signature?_of_wrap hwrap).symm, _, _,
    CompressedHeader.parse_of_wrap hwrap, rfl, rfl, ?_, hdecompress, block, hblock, hreach⟩
  exact (CompressedHeader.drop_length_of_wrap hwrap).symm

theorem decompress_of_compress_lz4_copies :
    let raw : Bytes := [1, 2, 3, 4, 5, 6] ++ List.replicate 20 7 ++ [1, 2, 3, 4, 5, 6] ++
      List.replicate 14 9
    let payload : Bytes := [127, 1, 2, 3, 4, 5, 6, 7, 1, 0, 0, 2, 26, 0, 19, 9, 1, 0, 96, 9, 9, 9, 9,
      9, 9]
    let out : Bytes := [76, 90, 52, 32, 25, 0, 0, 0, 46, 0, 0, 0, 1, 0, 0, 0] ++ payload
    Codec.compress .lz4 raw = .ok out ∧
      ∃ header payload, CompressedHeader.parse out = some (header, payload) ∧
        header.codec = .lz4 ∧ header.size = 46 ∧
        payload = out.drop CompressedHeader.length ∧ Lz4.decompress payload = some raw ∧
        ∃ block, Lz4.Block.parse payload = some block ∧ Lz4.InReach 0 block.sequences := by
  intro raw payload out
  have hpayload : Lz4.compress raw = payload := by decide +kernel
  have hout : Codec.compress .lz4 raw = .ok out := by
    simp only [compress, hpayload]
    cbv
  exact ⟨hout, (decompress_of_compress_lz4 hout).2⟩

end FlashImage.Codec
