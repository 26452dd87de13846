import FlashImage.Codec.Lz4.Compress
import FlashImage.Proofs.Codec.Table

/-!
What the search for copies finds.

The table holds earlier positions only, but it may hold old ones, and other bytes may have the same
hash. A match is taken only if four bytes agree at a distance that can be written, and widening it
keeps the distance, so all bytes of a copy agree with those at one distance before them.
-/

set_option autoImplicit false
set_option relaxedAutoImplicit false

namespace FlashImage.Lz4

/-- From one position up to another, each byte is the one at a distance before it. -/
structure Repeats (d : Array UInt8) (distance start stop : Nat) : Prop where
  pos : 0 < distance
  near : distance ≤ maxDistance
  reach : distance ≤ start
  within : stop ≤ d.size
  agree : ∀ p, start ≤ p → p < stop → d.getD p 0 = d.getD (p - distance) 0

theorem Repeats.mono {d : Array UInt8} {distance start stop stop' : Nat}
    (h : Repeats d distance start stop) (hle : stop' ≤ stop) : Repeats d distance start stop' :=
  ⟨h.pos, h.near, h.reach, Nat.le_trans hle h.within, fun p hp hstop => h.agree p hp (by omega)⟩

/-- The table holds positions before another one only. -/
def Earlier (table : Array Nat) (cur : Nat) : Prop := ∀ entry, table.getD entry 0 < cur

variable {d : Array UInt8} {table table' : Array Nat}

theorem Earlier.mono {cur next : Nat} (h : Earlier table cur) (hle : cur ≤ next) :
    Earlier table next :=
  fun entry => Nat.lt_of_lt_of_le (h entry) hle

theorem Earlier.set {cur position : Nat} (h : Earlier table cur) (entry : Nat)
    (hposition : position < cur) : Earlier (table.setIfInBounds entry position) cur :=
  forall_getD_setIfInBounds (p := (· < cur)) h entry hposition

private theorem agree_of_sameWord {p q k : Nat} (h : sameWord d p q = true) (hk : k < minCopy) :
    d.getD (p + k) 0 = d.getD (q + k) 0 := by
  simp only [sameWord, Bool.and_eq_true, beq_iff_eq] at h
  obtain ⟨⟨⟨h₀, h₁⟩, h₂⟩, h₃⟩ := h
  match k, hk with
  | 0, _ => exact h₀
  | 1, _ => exact h₁
  | 2, _ => exact h₂
  | 3, _ => exact h₃

private theorem repeats_of_search {failures cur : Nat} {m : Match} (earlier : Earlier table cur)
    (h : search d table failures cur = some (m, table')) :
    m.source < m.target ∧ Repeats d (m.target - m.source) m.target (m.target + minCopy) ∧
      Earlier table' (m.target + 1) := by
  fun_induction search d table failures cur with
  | case1 => cases h
  | case2 table failures cur hsize entry candidate table₁ hfound =>
    simp only [Option.some.injEq, Prod.mk.injEq] at h
    obtain ⟨rfl, rfl⟩ := h
    have hcandidate : candidate < cur := earlier entry
    have hrepeats : Repeats d (cur - candidate) cur (cur + minCopy) := by
      refine ⟨by omega, hfound.1, by omega, ?_, ?_⟩
      · simp only [searchMargin, minCopy] at *
        omega
      · intro p hp hstop
        have hagree := agree_of_sameWord (k := p - cur) hfound.2 (by omega)
        rw [Nat.add_sub_cancel' hp] at hagree
        rw [← hagree]
        congr 1
        omega
    have hearlier : Earlier table₁ (cur + 1) :=
      (earlier.mono (Nat.le_succ cur)).set entry (Nat.lt_succ_self cur)
    exact ⟨hcandidate, hrepeats, hearlier⟩
  | case3 table failures cur hsize entry candidate table₁ hfound ih =>
    refine ih ?_ h
    have hearlier : Earlier table₁ (cur + 1) :=
      (earlier.mono (Nat.le_succ cur)).set entry (Nat.lt_succ_self cur)
    exact hearlier.mono (by omega)

private theorem repeats_of_widenBack {limit target source stop : Nat} (hsource : source < target)
    (h : Repeats d (target - source) target stop) :
    let m := widenBack d limit target source
    m.source < m.target ∧ m.target ≤ target ∧ Repeats d (m.target - m.source) m.target stop := by
  induction source generalizing target with
  | zero => exact ⟨hsource, Nat.le_refl target, h⟩
  | succ source ih =>
    rw [widenBack]
    split
    · rename_i hequal
      have hdistance : target - 1 - source = target - (source + 1) := by omega
      have hwider : Repeats d (target - 1 - source) (target - 1) stop := by
        rw [hdistance]
        refine ⟨h.pos, h.near, by omega, h.within, ?_⟩
        intro p hp hstop
        rcases Nat.lt_or_ge p target with hlt | hge
        · obtain rfl : p = target - 1 := by omega
          rw [hequal.2]
          congr 1
          omega
        · exact h.agree p hge hstop
      obtain ⟨hbefore, hle, hrepeats⟩ := ih (by omega) hwider
      exact ⟨hbefore, by omega, hrepeats⟩
    · exact ⟨hsource, Nat.le_refl target, h⟩

private theorem repeats_of_commonLength {distance start target source : Nat} (count : Nat)
    (hle : start ≤ target) (hsource : source + distance = target)
    (h : Repeats d distance start target) :
    ∃ n, commonLength d target source count = count + n ∧ Repeats d distance start (target + n) ∧
      ∀ stop, Repeats d distance start stop → stop + copyMargin ≤ d.size → stop ≤ target + n := by
  fun_induction commonLength d target source count with
  | case1 target source count hequal ih =>
    have hlonger : Repeats d distance start (target + 1) := by
      refine ⟨h.pos, h.near, h.reach, by omega, ?_⟩
      intro p hp hstop
      rcases Nat.lt_or_ge p target with hlt | hge
      · exact h.agree p hp hlt
      · obtain rfl : p = target := by omega
        rw [hequal.2]
        congr 1
        omega
    obtain ⟨n, hlength, hrepeats, hlongest⟩ := ih (by omega) (by omega) hlonger
    refine ⟨n + 1, by omega, ?_, ?_⟩
    · rw [Nat.add_comm n, ← Nat.add_assoc]
      exact hrepeats
    · intro stop hstop hmargin
      have := hlongest stop hstop hmargin
      omega
  | case2 target source count hdifferent =>
    refine ⟨0, rfl, h, fun stop hstop hmargin => Nat.le_of_not_lt fun hlt => hdifferent ?_⟩
    refine ⟨by omega, ?_⟩
    rw [hstop.agree target hle hlt]
    congr 1
    omega

/-- A match that the search finds, widened to both sides, is a copy of earlier bytes. It stops
behind the place where it was found, so the table holds earlier positions only. -/
theorem repeats_of_match {lit cur : Nat} {m : Match} (earlier : Earlier table cur)
    (h : search d table 0 cur = some (m, table')) :
    let start := widenBack d lit m.target m.source
    let extra := commonLength d (start.target + minCopy) (start.source + minCopy) 0
    Repeats d (start.target - start.source) start.target (start.target + minCopy + extra) ∧
      Earlier table' (start.target + minCopy + extra) := by
  intro start extra
  obtain ⟨hsource, hfound, hearlier⟩ := repeats_of_search earlier h
  obtain ⟨hbefore, hle, hwide⟩ : start.source < start.target ∧ start.target ≤ m.target ∧
      Repeats d (start.target - start.source) start.target (m.target + minCopy) :=
    repeats_of_widenBack hsource hfound
  have hmargin : m.target + minCopy + copyMargin ≤ d.size := by
    have := (target_of_search h).2
    simp only [searchMargin, minCopy, copyMargin] at *
    omega
  have hfour : Repeats d (start.target - start.source) start.target (start.target + minCopy) :=
    hwide.mono (Nat.add_le_add_right hle minCopy)
  have hsource' : start.source + minCopy + (start.target - start.source) =
      start.target + minCopy := by omega
  obtain ⟨n, hlength, hrepeats, hlongest⟩ :=
    repeats_of_commonLength 0 (Nat.le_add_right _ minCopy) hsource' hfour
  obtain rfl : extra = n := by omega
  have hstop := hlongest _ hwide hmargin
  have hpos : 0 < minCopy := by decide
  exact ⟨hrepeats, hearlier.mono (by omega)⟩

end FlashImage.Lz4
