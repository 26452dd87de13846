import FlashImage.Proofs.Codec.Lzma.Interval

/-!
What a range encoder has written.

The bytes written, those held back and `low` make up one number, the lower end of an interval. A
carry out of `low` changes how the number is written down but not the number. It never runs out of
the bytes held back: a cache of 255 is left behind by a carry only, and then the interval ends
before the next one.
-/

set_option autoImplicit false
set_option relaxedAutoImplicit false

namespace FlashImage

private theorem Bytes.bigEndian_carry (b : Bytes) {cache : UInt8} (hcache : cache ≠ 255) (n : Nat) :
    bigEndian (b ++ (cache + 1) :: List.replicate n 0) =
      bigEndian (b ++ cache :: List.replicate n 255) + 1 := by
  induction n with
  | zero =>
    have hlt := UInt8.toNat_lt cache
    have hne : cache.toNat ≠ 255 := fun h => hcache (UInt8.toNat_inj.1 h)
    have hadd : (cache + 1).toNat = cache.toNat + 1 := by
      rw [UInt8.toNat_add]
      exact Nat.mod_eq_of_lt (by simp; omega)
    rw [List.replicate_zero, List.replicate_zero, bigEndian_concat, bigEndian_concat, hadd]
    omega
  | succ n ih =>
    rw [List.replicate_succ', List.replicate_succ', ← List.cons_append, ← List.cons_append,
      ← List.append_assoc, ← List.append_assoc, bigEndian_concat, bigEndian_concat, ih]
    simp only [UInt8.toNat_ofNat]
    omega

namespace Lzma.Encoder

/-- The bytes that have been written and those that are held back, without a carry. -/
def digits (e : Encoder) : Bytes := e.out.toList ++ e.cache :: List.replicate (e.pending - 1) 255

/-- The number that the digits and `low` make. -/
def number (e : Encoder) : Nat := Bytes.bigEndian e.digits * UInt32.size + e.low

/-- The interval at which an encoder stands. -/
def interval (e : Encoder) : Interval := ⟨e.number, e.range, e.digits.length + 4⟩

/-- An interval of the given range ends before it needs more than one carry, and before it needs a
carry out of the bytes held back. -/
structure Safe (e : Encoder) (range : Nat) : Prop where
  pending : 0 < e.pending
  low : e.low + range ≤ 2 * UInt32.size
  cache : e.cache = 255 → e.low + range ≤ UInt32.size

theorem Safe.mono {e : Encoder} {range range' : Nat} (h : e.Safe range) (hle : range' ≤ range) :
    e.Safe range' :=
  ⟨h.pending, Nat.le_trans (Nat.add_le_add_left hle _) h.low,
    fun hcache => Nat.le_trans (Nat.add_le_add_left hle _) (h.cache hcache)⟩

private theorem toList_pushCopies (b : UInt8) (n : Nat) (out : Array UInt8) :
    (pushCopies b n out).toList = out.toList ++ List.replicate n b := by
  induction n generalizing out with
  | zero => simp [pushCopies]
  | succ n ih => simp [pushCopies, ih, List.replicate_succ]

variable {e : Encoder} {range : Nat}

/-- All digits are written, with the carry. -/
theorem Safe.release (h : e.Safe range) (hrange : 0 < range) :
    Bytes.bigEndian e.release.out.toList = Bytes.bigEndian e.digits + e.low / UInt32.size ∧
      e.release.out.toList.length = e.digits.length := by
  have hlow := h.low
  have hout : e.release.out.toList = e.out.toList ++
      (e.cache + UInt8.ofNat (e.low / UInt32.size)) ::
        List.replicate (e.pending - 1) (255 + UInt8.ofNat (e.low / UInt32.size)) := by
    simp [Encoder.release, toList_pushCopies]
  refine ⟨?_, by simp [hout, digits]⟩
  have hcarry : e.low / UInt32.size = 0 ∨ e.low / UInt32.size = 1 := by
    simp only [UInt32.size] at *
    omega
  rcases hcarry with hcarry | hcarry
  · simp [hout, digits, hcarry]
  · have hcache : e.cache ≠ 255 := by
      intro heq
      have := h.cache heq
      simp only [UInt32.size] at *
      omega
    have hcopies : (255 : UInt8) + UInt8.ofNat 1 = 0 := rfl
    rw [hout, hcarry, hcopies]
    exact Bytes.bigEndian_carry e.out.toList hcache (e.pending - 1)

private theorem shift_of_release (hlow : e.low < 0xFF000000 ∨ 0xFFFFFFFF < e.low) :
    e.shift = { e.release with pending := 1, low := e.low * 256 % UInt32.size } := by
  unfold Encoder.shift
  rw [if_pos hlow]
  rfl

private theorem shift_of_hold (hlow : ¬ (e.low < 0xFF000000 ∨ 0xFFFFFFFF < e.low)) :
    e.shift = { e with pending := e.pending + 1, low := e.low * 256 % UInt32.size } := by
  unfold Encoder.shift
  rw [if_neg hlow]

private theorem digits_shift_of_release (hlow : e.low < 0xFF000000 ∨ 0xFFFFFFFF < e.low) :
    e.shift.digits = e.release.out.toList ++ [UInt8.ofNat (e.low / minRange)] := by
  rw [shift_of_release hlow]
  rfl

private theorem digits_shift_of_hold (hpending : 0 < e.pending)
    (hlow : ¬ (e.low < 0xFF000000 ∨ 0xFFFFFFFF < e.low)) : e.shift.digits = e.digits ++ [255] := by
  have hcopies : List.replicate e.pending (255 : UInt8) =
      List.replicate (e.pending - 1) 255 ++ [255] := by
    rw [← List.replicate_succ', Nat.sub_add_cancel hpending]
  simp [shift_of_hold hlow, digits, hcopies]

theorem Safe.shift (h : e.Safe range) (hpos : 0 < range) (hrange : range ≤ minRange) :
    e.shift.Safe (range * 256) ∧ e.shift.number = e.number * 256 ∧
      e.shift.digits.length = e.digits.length + 1 := by
  have hsum := h.low
  by_cases hrelease : e.low < 0xFF000000 ∨ 0xFFFFFFFF < e.low
  · have hshift := shift_of_release hrelease
    have hlow : e.shift.low = e.low * 256 % UInt32.size := by rw [hshift]
    have hcache : e.shift.cache = UInt8.ofNat (e.low / minRange) := by rw [hshift]; rfl
    have hdigits := digits_shift_of_release hrelease
    obtain ⟨hwritten, hlength⟩ := h.release hpos
    refine ⟨⟨by rw [hshift]; exact Nat.one_pos, ?_, fun heq => ?_⟩, ?_, ?_⟩
    · simp only [hlow, UInt32.size, minRange] at *
      omega
    · -- Only a carry leaves a cache of 255 behind.
      rw [hcache, ← UInt8.toNat_inj, UInt8.toNat_ofNat'] at heq
      simp only [hlow, UInt32.size, minRange, UInt8.toNat_ofNat] at *
      omega
    · rw [number, hdigits, Bytes.bigEndian_concat, hwritten, number, hlow, UInt8.toNat_ofNat']
      simp only [UInt32.size, minRange] at *
      omega
    · rw [hdigits, List.length_append, hlength, List.length_singleton]
  · have hshift := shift_of_hold hrelease
    have hlow : e.shift.low = e.low * 256 % UInt32.size := by rw [hshift]
    have hcache : e.shift.cache = e.cache := by rw [hshift]
    have hdigits := digits_shift_of_hold h.pending hrelease
    refine ⟨⟨by rw [hshift]; exact Nat.succ_pos e.pending, ?_, fun heq => ?_⟩, ?_, ?_⟩
    · simp only [hlow, UInt32.size, minRange] at *
      omega
    · have := h.cache (hcache ▸ heq)
      simp only [hlow, UInt32.size, minRange] at *
      omega
    · rw [number, hdigits, Bytes.bigEndian_concat, number, hlow]
      simp only [UInt32.size, UInt8.toNat_ofNat] at *
      omega
    · rw [hdigits, List.length_append, List.length_singleton]

/-- What an encoder satisfies between two bits. -/
structure Valid (e : Encoder) : Prop where
  safe : e.Safe e.range
  least : minRange ≤ e.range
  greatest : e.range < UInt32.size

theorem valid_start : start.Valid where
  safe := ⟨by decide, by decide, by decide⟩
  least := by decide
  greatest := by decide

theorem Safe.normalize (h : e.Safe e.range) (hleast : minRange ≤ e.range * 256)
    (hgreatest : e.range < UInt32.size) :
    e.normalize.Valid ∧ e.normalize.interval = e.interval.widen := by
  unfold Encoder.normalize Interval.widen
  by_cases hsmall : e.range < minRange
  · have hrange : e.interval.range < minRange := hsmall
    have hpos : 0 < e.range := Nat.pos_of_ne_zero fun hzero => by simp [hzero, minRange] at hleast
    rw [if_pos hsmall, if_pos hrange]
    obtain ⟨hsafe, hnumber, hlength⟩ := h.shift hpos (Nat.le_of_lt hsmall)
    refine ⟨⟨⟨hsafe.pending, hsafe.low, hsafe.cache⟩, hleast, ?_⟩, ?_⟩
    · simp only [minRange, UInt32.size] at *
      omega
    · change Interval.mk e.shift.number (e.range * 256) (e.shift.digits.length + 4) = _
      rw [hnumber, hlength, Nat.add_right_comm]
      rfl
  · have hrange : ¬ e.interval.range < minRange := hsmall
    rw [if_neg hsmall, if_neg hrange]
    exact ⟨⟨h, Nat.le_of_not_lt hsmall, hgreatest⟩, rfl⟩

/-- A bit narrows and widens the interval at which an encoder stands. -/
theorem Valid.encode (h : e.Valid) {p : Nat} (hp : IsChance p) (bit : Bool) :
    (e.encode p bit).Valid ∧ (e.encode p bit).interval = e.interval.encode p bit := by
  obtain ⟨hzero, hbound, hone⟩ := hp.bound h.least
  obtain ⟨hpending, hlow, hcache⟩ := h.safe
  have hgreatest := h.greatest
  cases bit with
  | false =>
    have hsafe : Safe { e with range := e.range / probabilityTotal * p }
        (e.range / probabilityTotal * p) :=
      ⟨hpending, by simp only; omega, fun heq => by have := hcache heq; simp only; omega⟩
    exact hsafe.normalize hzero (Nat.lt_of_le_of_lt hbound hgreatest)
  | true =>
    have hsafe : Safe { e with
        low := e.low + e.range / probabilityTotal * p
        range := e.range - e.range / probabilityTotal * p }
        (e.range - e.range / probabilityTotal * p) :=
      ⟨hpending, by simp only; omega, fun heq => by have := hcache heq; simp only; omega⟩
    obtain ⟨hvalid, hinterval⟩ := hsafe.normalize hone
      (Nat.lt_of_le_of_lt (Nat.sub_le _ _) hgreatest)
    refine ⟨hvalid, hinterval.trans (congrArg Interval.widen ?_)⟩
    simp only [interval, number, digits, Interval.narrow, if_true, Nat.add_assoc]

private theorem low_shift_four (e : Encoder) : e.shift.shift.shift.shift.low = 0 := by
  have hlow (e : Encoder) : e.shift.low = e.low * 256 % UInt32.size := by
    unfold Encoder.shift
    split <;> rfl
  simp only [hlow, UInt32.size]
  omega

theorem Valid.finish (h : e.Valid) : e.interval.Contains e.finish := by
  have hmove {e : Encoder} (h : e.Safe 1) : e.shift.Safe 1 ∧ e.shift.number = e.number * 256 ∧
      e.shift.digits.length = e.digits.length + 1 := by
    obtain ⟨hsafe, hnumber, hlength⟩ := h.shift Nat.one_pos (by decide)
    exact ⟨hsafe.mono (by decide), hnumber, hlength⟩
  obtain ⟨h₁, hnumber₁, hlength₁⟩ := hmove (h.safe.mono (Nat.le_trans (by decide) h.least))
  obtain ⟨h₂, hnumber₂, hlength₂⟩ := hmove h₁
  obtain ⟨h₃, hnumber₃, hlength₃⟩ := hmove h₂
  obtain ⟨h₄, hnumber₄, hlength₄⟩ := hmove h₃
  have hlow := low_shift_four e
  -- The fifth move writes all digits, and `low` has nothing more to add.
  obtain ⟨hwritten, hlength⟩ := h₄.release Nat.one_pos
  have hfinish : e.finish = e.shift.shift.shift.shift.release.out.toList := by
    rw [Encoder.finish, shift_of_release (.inl (by omega))]
  have hdigits : e.interval.digits = e.finish.length := by
    rw [hfinish, hlength, hlength₄, hlength₃, hlength₂, hlength₁]
    rfl
  have hvalue : Bytes.bigEndian e.finish = e.interval.low := by
    have hnumber : e.shift.shift.shift.shift.number =
        Bytes.bigEndian e.shift.shift.shift.shift.digits * UInt32.size := by
      rw [number, hlow, Nat.add_zero]
    rw [hfinish, hwritten, hlow]
    change _ = e.number
    simp only [UInt32.size] at *
    omega
  have hrange : 0 < e.interval.range := Nat.lt_of_lt_of_le (by decide) h.least
  have hleading : Bytes.bigEndian (e.finish.take e.interval.digits) = e.interval.low := by
    rw [hdigits, List.take_length, hvalue]
  refine ⟨Nat.le_of_eq hdigits, Nat.le_of_eq hleading.symm, ?_⟩
  rw [hleading]
  exact Nat.lt_add_of_pos_right hrange

end Lzma.Encoder
end FlashImage
