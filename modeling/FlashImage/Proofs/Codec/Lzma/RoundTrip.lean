import FlashImage.Codec.Compressor
import FlashImage.Codec.Lzma.Decompress
import FlashImage.Proofs.Codec.Header
import FlashImage.Proofs.Codec.Lzma.Encoder
import FlashImage.Proofs.Codec.Table

/-!
Data that have been compressed into the LZMA format are read back.

A decoder that stands at the interval of an encoder, with the same model, takes back bit by bit what
the encoder encodes, as long as the stream is in the interval behind the last bit. Both learn the
same, so they stay in step through the bits of a byte and through all bytes.
-/

set_option autoImplicit false
set_option relaxedAutoImplicit false

namespace FlashImage.Lzma

/-- All probabilities of a model leave room for both bits. -/
def Model.Valid (m : Model) : Prop := ∀ i, IsChance (m.getD i evenChance)

theorem Model.Valid.learn {m : Model} (h : m.Valid) (c : Context) (bit : Bool) :
    (m.learn c bit).Valid :=
  forall_getD_setIfInBounds (p := IsChance) h c.index ((h c.index).adapt bit)

theorem Model.valid_start : Model.start.Valid := by
  intro i
  have heven : IsChance evenChance := ⟨by decide, by decide⟩
  rw [Array.getD_eq_getD_getElem?, Model.start, Array.getElem?_replicate]
  split <;> exact heven

private theorem encodeBits_append (bits others : List (Context × Bool)) (state : Model × Encoder) :
    encodeBits (bits ++ others) state = encodeBits others (encodeBits bits state) := by
  induction bits generalizing state with
  | nil => rfl
  | cons bit rest ih => exact ih _

private theorem valid_encodeBits (bits : List (Context × Bool)) {m : Model} {e : Encoder}
    (hm : m.Valid)
    (he : e.Valid) : (encodeBits bits (m, e)).1.Valid ∧ (encodeBits bits (m, e)).2.Valid := by
  induction bits generalizing m e with
  | nil => exact ⟨hm, he⟩
  | cons bit rest ih =>
    obtain ⟨c, bit⟩ := bit
    exact ih (hm.learn c bit) (he.encode (hm c.index) bit).1

private theorem contains_of_encodeBits {bits : List (Context × Bool)} {m : Model} {e : Encoder}
    (hm : m.Valid) (he : e.Valid) {stream : Bytes}
    (h : (encodeBits bits (m, e)).2.interval.Contains stream) : e.interval.Contains stream := by
  induction bits generalizing m e with
  | nil => exact h
  | cons bit rest ih =>
    obtain ⟨c, bit⟩ := bit
    obtain ⟨he', hinterval⟩ := he.encode (hm c.index) bit
    have hnext := ih (hm.learn c bit) he' h
    rw [hinterval] at hnext
    exact hnext.of_encode (hm c.index)

/-- A step of decoding takes back the encoding of some bits: if decoder and encoder are in step
before, it gives its result and leaves them in step. -/
def Reads {α : Type} (step : Decoding α) (bits : List (Context × Bool)) (a : α) : Prop :=
  ∀ (m : Model) (e : Encoder) (d : Decoder) (stream : Bytes), m.Valid → e.Valid →
    d.At e.interval stream → (encodeBits bits (m, e)).2.interval.Contains stream →
      ∃ d', step (m, d) = some (a, (encodeBits bits (m, e)).1, d') ∧
        d'.At (encodeBits bits (m, e)).2.interval stream

namespace Reads

variable {α β : Type} {bits others : List (Context × Bool)}

theorem pure (a : α) : Reads (Pure.pure a) [] a :=
  fun _ _ d _ _ _ hd _ => ⟨d, rfl, hd⟩

theorem bind {step : Decoding α} {next : α → Decoding β} {a : α} {b : β} (h : Reads step bits a)
    (hnext : Reads (next a) others b) : Reads (step >>= next) (bits ++ others) b := by
  intro m e d stream hm he hd hstream
  rw [encodeBits_append] at hstream ⊢
  obtain ⟨hm', he'⟩ := valid_encodeBits bits hm he
  obtain ⟨d₁, hstep, hd₁⟩ := h m e d stream hm he hd (contains_of_encodeBits hm' he' hstream)
  obtain ⟨d₂, hnext, hd₂⟩ := hnext _ _ d₁ stream hm' he' hd₁ hstream
  refine ⟨d₂, ?_, hd₂⟩
  simp only [Bind.bind, StateT.bind, hstep, Option.bind_some]
  exact hnext

theorem map {step : Decoding α} {f : α → β} {a : α} (h : Reads step bits a) :
    Reads (do return f (← step)) bits (f a) := by
  have hpure : Reads (do return f (← step)) (bits ++ []) (f a) := h.bind (pure (f a))
  rwa [List.append_nil] at hpure

theorem decodeBit (c : Context) (bit : Bool) : Reads (Lzma.decodeBit c) [(c, bit)] bit := by
  intro m e d stream hm he hd hstream
  obtain ⟨-, hinterval⟩ := he.encode (hm c.index) bit
  have hnext : (e.interval.encode (m.chance c) bit).Contains stream := hinterval ▸ hstream
  obtain ⟨d', hdecode, hd'⟩ := hd.decode hnext
  refine ⟨d', ?_, hinterval ▸ hd'⟩
  simp only [Lzma.decodeBit, hdecode]
  rfl

end Reads

private theorem reads_decodeNode (previous : Nat) (b : UInt8) (n node : Nat) :
    Reads (decodeNode (.literal previous) n node) (literalBits previous b n node)
      (2 ^ n * node + b.toNat % 2 ^ n) := by
  induction n generalizing node with
  | zero =>
    rw [Nat.pow_zero, Nat.one_mul, Nat.mod_one]
    exact .pure node
  | succ n ih =>
    have hvalue : 2 ^ (n + 1) * node + b.toNat % 2 ^ (n + 1) =
        2 ^ n * (2 * node + (bitOf b n).toNat) + b.toNat % 2 ^ n := by
      rw [Nat.pow_succ, Nat.mod_mul, bitOf, Nat.toNat_testBit, Nat.mul_add, ← Nat.mul_assoc]
      omega
    rw [hvalue]
    exact (Reads.decodeBit _ (bitOf b n)).bind (ih (2 * node + (bitOf b n).toNat))

private theorem reads_decodeLiteral (previous : Nat) (b : UInt8) :
    Reads (decodeLiteral previous) (literalBits previous b 8 1) b := by
  have hbyte : UInt8.ofNat (2 ^ 8 * 1 + b.toNat % 2 ^ 8 - Nat.pow 2 8) = b := by
    rw [Nat.mod_eq_of_lt (UInt8.toNat_lt b), Nat.mul_one, Nat.pow_eq, Nat.add_sub_cancel_left,
      UInt8.ofNat_toNat]
  have hnumber : Reads (decodeNumber (.literal previous) 8) (literalBits previous b 8 1)
      (2 ^ 8 * 1 + b.toNat % 2 ^ 8 - Nat.pow 2 8) := (reads_decodeNode previous b 8 1).map
  have hread : Reads (decodeLiteral previous) (literalBits previous b 8 1)
      (UInt8.ofNat (2 ^ 8 * 1 + b.toNat % 2 ^ 8 - Nat.pow 2 8)) := hnumber.map
  rwa [hbyte] at hread

private theorem reads_decodePacket {w : Window} (hphase : w.phase = 0) (b : UInt8) :
    Reads (decodePacket w) (byteBits w.bytes.size w.last b) (w.push b) := by
  have hafter : w.isAfterLiteral = true := by simp [Window.isAfterLiteral, hphase]
  have hnext : ({ w.push b with phase := w.literalPhase } : Window) = w.push b := by
    simp [Window.literalPhase, Window.push, hphase]
  have hliteral : Reads (decodeLiteralPacket w) (literalBits (previousOf w.last) b 8 1)
      (w.push b) := by
    have hread := (reads_decodeLiteral (previousOf w.last) b).map
      (f := fun b => ({ w.push b with phase := w.literalPhase } : Window))
    rw [hnext] at hread
    simp only [decodeLiteralPacket, hafter, if_true]
    exact hread
  have hkind : Reads (Lzma.decodeBit (.isCopy w.phase (columnOf w.bytes.size)))
      [(.isCopy 0 (columnOf w.bytes.size), false)] false := hphase ▸ Reads.decodeBit _ false
  exact hkind.bind hliteral

def dataBits : Bytes → (position : Nat) → (previous : UInt8) → List (Context × Bool)
  | [], _, _ => []
  | b :: rest, position, previous =>
    byteBits position previous b ++ dataBits rest (position + 1) b

private theorem encodeBytes_eq (raw : Bytes) (position : Nat) (previous : UInt8)
    (state : Model × Encoder) :
    encodeBytes raw position previous state =
      encodeBits (dataBits raw position previous) state := by
  induction raw generalizing position previous state with
  | nil => rfl
  | cons b rest ih => rw [encodeBytes, dataBits, encodeBits_append, ih]

private theorem reads_decodePackets {w : Window} (hphase : w.phase = 0) (raw : Bytes) :
    Reads (decodePackets (w.bytes.size + raw.length) raw.length w)
      (dataBits raw w.bytes.size w.last) (raw.foldl Window.push w) := by
  induction raw generalizing w with
  | nil => exact .pure w
  | cons b rest ih =>
    have hlast : (w.push b).last = b := by simp [Window.last, Window.push]
    have hsize : (w.push b).bytes.size = w.bytes.size + 1 := by simp [Window.push]
    have hrest : Reads (decodePackets (w.bytes.size + (b :: rest).length) rest.length (w.push b))
        (dataBits rest (w.bytes.size + 1) b) (rest.foldl Window.push (w.push b)) := by
      have hread := ih (w := w.push b) hphase
      rwa [hlast, hsize, Nat.add_right_comm] at hread
    rw [List.length_cons, decodePackets, if_neg (by omega), dataBits]
    exact (reads_decodePacket hphase b).bind hrest

private theorem bytes_foldl_push (raw : Bytes) (w : Window) :
    (raw.foldl Window.push w).bytes.toList = w.bytes.toList ++ raw := by
  induction raw generalizing w with
  | nil => simp
  | cons b rest ih => simp [ih, Window.push]

private theorem decoder_start {stream : Bytes} (h : Encoder.start.interval.Contains stream) :
    ∃ d, Decoder.start stream = some d ∧ d.At Encoder.start.interval stream := by
  have hinterval : Encoder.start.interval = ⟨0, fullRange, 5⟩ := by decide
  rw [hinterval] at h ⊢
  obtain ⟨b₄, b₃, b₂, b₁, b₀, rest, rfl⟩ :
      ∃ b₄ b₃ b₂ b₁ b₀ rest, stream = b₄ :: b₃ :: b₂ :: b₁ :: b₀ :: rest := by
    have hdigits := h.digits
    match stream, hdigits with
    | b₄ :: b₃ :: b₂ :: b₁ :: b₀ :: rest, _ => exact ⟨b₄, b₃, b₂, b₁, b₀, rest, rfl⟩
  have hupper := h.upper
  have hdigits : Bytes.bigEndian ((b₄ :: b₃ :: b₂ :: b₁ :: b₀ :: rest).take 5) =
      Bytes.toNat [b₀, b₁, b₂, b₃, b₄] := rfl
  simp only [hdigits] at hupper
  have hzero : b₄ = 0 := by
    rw [← UInt8.toNat_inj]
    simp only [Bytes.toNat, fullRange, UInt8.toNat_ofNat] at hupper ⊢
    omega
  subst hzero
  refine ⟨⟨Bytes.toNat [b₀, b₁, b₂, b₃], fullRange, rest⟩, rfl, rfl, ?_, rfl⟩
  simp only [hdigits, Bytes.toNat, UInt8.toNat_ofNat]
  omega

private theorem splitHeader?_streamHeader {length : Nat} (hlength : length < UInt64.size)
    (packets : Bytes) :
    splitHeader? (streamHeader length ++ packets) = some (windowSize, length, packets) := by
  have hwindow : Bytes.toNat (Bytes.littleEndian windowWidth windowSize) = windowSize := by
    rw [Bytes.toNat_littleEndian]
    rfl
  have hread : Bytes.toNat (Bytes.littleEndian lengthWidth length) = length := by
    rw [Bytes.toNat_littleEndian]
    exact Nat.mod_eq_of_lt hlength
  have hdrop : (Bytes.littleEndian windowWidth windowSize ++
      (Bytes.littleEndian lengthWidth length ++ packets)).drop (windowWidth + lengthWidth) =
        packets := by
    rw [← List.append_assoc]
    exact List.drop_left' (by simp)
  simp [splitHeader?, streamHeader, hwindow, hread, hdrop]

private theorem decompress_compress {raw : Bytes} (hlength : raw.length < UInt64.size) :
    decompress (compress raw) = some raw := by
  have hstart := Encoder.valid_start
  obtain ⟨-, hvalid⟩ := valid_encodeBits (dataBits raw 0 0) Model.valid_start hstart
  have hstream := hvalid.finish
  obtain ⟨d, hd, hat⟩ := decoder_start (contains_of_encodeBits Model.valid_start hstart hstream)
  obtain ⟨d', hpackets, -⟩ := reads_decodePackets (w := Window.start windowSize) rfl raw
    Model.start Encoder.start d _ Model.valid_start hstart hat hstream
  have hempty : (Window.start windowSize).bytes.size + raw.length = raw.length := Nat.zero_add _
  have hbytes : (raw.foldl Window.push (Window.start windowSize)).bytes.toList = raw :=
    bytes_foldl_push raw (Window.start windowSize)
  have hsize : (raw.foldl Window.push (Window.start windowSize)).bytes.size = raw.length := by
    rw [← Array.length_toList, hbytes]
  rw [hempty] at hpackets
  rw [compress, encodeBytes_eq, decompress, splitHeader?_streamHeader hlength]
  simp only [bind, Option.bind_some, hd, hpackets, hsize, if_true, hbytes]

end FlashImage.Lzma

namespace FlashImage.Codec

/-- Data that have been compressed with LZMA are found behind a header that records their length.
What follows the header is a stream that begins with its properties, the size of the window and the
length of the data, and decompressing it gives the data. -/
theorem decompress_of_compress_lzma {raw out : Bytes} (h : Codec.compress .lzma raw = .ok out) :
    out.take 4 = [0x4C, 0x5A, 0x4D, 0x41] ∧
      ∃ header payload, CompressedHeader.parse out = some (header, payload) ∧
        header.codec = .lzma ∧ header.size = raw.length ∧
        payload = out.drop CompressedHeader.length ∧
        payload.take 13 = 0x5D :: (Bytes.littleEndian 4 0x00800000 ++
          Bytes.littleEndian 8 raw.length) ∧
        Lzma.decompress payload = some raw := by
  have hwrap : CompressedHeader.wrap .lzma raw.length (Lzma.compress raw) = .ok out := h
  have hlength : raw.length < UInt64.size :=
    Nat.lt_trans (CompressedHeader.of_wrap hwrap).1.size (by decide)
  refine ⟨Option.some.inj (CompressedHeader.signature?_of_wrap hwrap).symm, _, _,
    CompressedHeader.parse_of_wrap hwrap, rfl, rfl, ?_, ?_, Lzma.decompress_compress hlength⟩
  · exact (CompressedHeader.drop_length_of_wrap hwrap).symm
  · exact List.take_left' (by simp [Lzma.streamHeader, Lzma.windowWidth, Lzma.lengthWidth])

/-- In these data a carry runs through a byte of 255 that is held back. -/
theorem decompress_of_compress_lzma_carry :
    let raw : Bytes := [2, 1]
    let payload : Bytes := [93, 0, 0, 128, 0, 2, 0, 0, 0, 0, 0, 0, 0, 0, 1, 0, 70, 146, 48, 0]
    let out : Bytes := [76, 90, 77, 65, 20, 0, 0, 0, 2, 0, 0, 0, 1, 0, 0, 0] ++ payload
    Codec.compress .lzma raw = .ok out ∧
      ∃ header payload, CompressedHeader.parse out = some (header, payload) ∧
        header.codec = .lzma ∧ header.size = 2 ∧
        payload = out.drop CompressedHeader.length ∧
        payload.take 13 = 0x5D :: (Bytes.littleEndian 4 0x00800000 ++ Bytes.littleEndian 8 2) ∧
        Lzma.decompress payload = some raw := by
  intro raw payload out
  have hpayload : Lzma.compress raw = payload := by decide +kernel
  have hout : Codec.compress .lzma raw = .ok out := by
    simp only [compress, hpayload]
    cbv
  exact ⟨hout, (decompress_of_compress_lzma hout).2⟩

end FlashImage.Codec
