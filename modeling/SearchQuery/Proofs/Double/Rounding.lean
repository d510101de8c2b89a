/-
  Rounding to double precision.

  1. **Quanta** — `quantum u` is a power of two that never falls as `u` grows, and there are between
     2^52 and 2^53 of them in `u`, unless it is one unit.  The magnitudes that there are, are the
     multiples of their own quantum (`IsMagnitude`).
  2. **Bounds (`ofQuotient_le`, `le_ofQuotient`)** — a quotient on one side of a magnitude is rounded to
     that side of it or to the magnitude itself.
  3. **Reading back (`ofQuotient_of_reads`)** — a quotient in the interval of a magnitude is rounded to
     that magnitude.  The case split is by the side on which the quotient lies: below a power of two the
     quanta are half as large as above it.
-/
import SearchQuery.Double.Shortest

namespace SearchQuery.Double

/-! ## Quanta -/

theorem quantum_of_lt {u : Nat} (h : u < Nat.pow 2 53) : quantum u = 1 := if_pos h

theorem quantum_of_ge {u : Nat} (h : Nat.pow 2 53 ≤ u) : quantum u = Nat.pow 2 (u.log2 - 52) :=
  if_neg (Nat.not_lt.mpr h)

theorem quantum_pos (u : Nat) : 0 < quantum u := by
  rcases Nat.lt_or_ge u (Nat.pow 2 53) with h | h
  · rw [quantum_of_lt h]; decide
  · rw [quantum_of_ge h]; exact Nat.two_pow_pos _

/-- From 2^53 units on, the exponent of the leading binary digit is 53 at least. -/
theorem le_log2_of_ge {u : Nat} (h : Nat.pow 2 53 ≤ u) : u ≠ 0 ∧ 53 ≤ u.log2 := by
  have hu : u ≠ 0 := by
    rintro rfl
    exact absurd h (by decide)
  exact ⟨hu, (Nat.le_log2 hu).mpr h⟩

theorem quantum_dvd {u v : Nat} (h : u ≤ v) : quantum u ∣ quantum v := by
  rcases Nat.lt_or_ge u (Nat.pow 2 53) with hu | hu
  · rw [quantum_of_lt hu]; exact Nat.one_dvd _
  · rw [quantum_of_ge hu, quantum_of_ge (Nat.le_trans hu h)]
    obtain ⟨hu0, hu53⟩ := le_log2_of_ge hu
    have hv0 : v ≠ 0 := by omega
    have hlog : u.log2 ≤ v.log2 := (Nat.le_log2 hv0).mpr (Nat.le_trans (Nat.log2_self_le hu0) h)
    exact Nat.pow_dvd_pow 2 (by omega)

/-- There are fewer than 2^53 quanta in a magnitude. -/
theorem lt_mul_quantum (u : Nat) : u < Nat.pow 2 53 * quantum u := by
  rcases Nat.lt_or_ge u (Nat.pow 2 53) with h | h
  · rw [quantum_of_lt h, Nat.mul_one]; exact h
  · obtain ⟨-, hlog⟩ := le_log2_of_ge h
    have he : u.log2 + 1 = 53 + (u.log2 - 52) := by omega
    have hlt : u < 2 ^ (u.log2 + 1) := Nat.lt_log2_self
    rw [he, Nat.pow_add] at hlt
    rw [quantum_of_ge h]
    exact hlt

/-- There are at least 2^52 quanta in a magnitude whose quantum is not one unit. -/
theorem mul_quantum_le {u : Nat} (h : quantum u ≠ 1) : Nat.pow 2 52 * quantum u ≤ u := by
  rcases Nat.lt_or_ge u (Nat.pow 2 53) with hu | hu
  · exact absurd (quantum_of_lt hu) h
  · obtain ⟨hu0, hlog⟩ := le_log2_of_ge hu
    have he : u.log2 = 52 + (u.log2 - 52) := by omega
    have hle : 2 ^ u.log2 ≤ u := Nat.log2_self_le hu0
    rw [he, Nat.pow_add] at hle
    rw [quantum_of_ge hu]
    exact hle

theorem exists_quantum (u : Nat) : ∃ k, quantum u = Nat.pow 2 k := by
  rcases Nat.lt_or_ge u (Nat.pow 2 53) with h | h
  · exact ⟨0, quantum_of_lt h⟩
  · exact ⟨_, quantum_of_ge h⟩

/-- Two quanta that differ, differ at least by a factor of two. -/
theorem quantum_eq_or_double {u v : Nat} (h : u ≤ v) :
    quantum u = quantum v ∨ 2 * quantum u ≤ quantum v := by
  obtain ⟨c, hc⟩ := quantum_dvd h
  have hv := quantum_pos v
  rcases c with _ | _ | c
  · omega
  · left; omega
  · right
    rw [hc]
    calc 2 * quantum u = quantum u * 2 := Nat.mul_comm _ _
      _ ≤ quantum u * (c + 1 + 1) := Nat.mul_le_mul_left _ (by omega)

/-- Between 2^52 and 2^53 times a power of two, that power is the quantum. -/
theorem quantum_eq_pow {u k : Nat} (hlow : Nat.pow 2 52 * Nat.pow 2 k ≤ u)
    (hhigh : u < Nat.pow 2 53 * Nat.pow 2 k) : quantum u = Nat.pow 2 k := by
  cases k with
  | zero => exact quantum_of_lt hhigh
  | succ k =>
    have hpow : ∀ i j, Nat.pow 2 i * Nat.pow 2 j = Nat.pow 2 (i + j) := fun i j =>
      (Nat.pow_add 2 i j).symm
    rw [hpow] at hlow hhigh
    have h53 : Nat.pow 2 53 ≤ u :=
      Nat.le_trans (Nat.pow_le_pow_right (by decide) (by omega)) hlow
    have hlog : u.log2 = 53 + k := by
      rw [Nat.log2_eq_iff (le_log2_of_ge h53).1]
      constructor
      · have he : 53 + k = 52 + (k + 1) := by omega
        rw [he]
        exact hlow
      · exact hhigh
    rw [quantum_of_ge h53, hlog]
    congr 1
    omega

/-- Between 2^52 and 2^53 quanta of its size there are no other quanta. -/
theorem quantum_eq_of_between {u v : Nat} (hlow : Nat.pow 2 52 * quantum v ≤ u)
    (hhigh : u < Nat.pow 2 53 * quantum v) : quantum u = quantum v := by
  obtain ⟨k, hk⟩ := exists_quantum v
  rw [hk] at hlow hhigh ⊢
  exact quantum_eq_pow hlow hhigh

theorem quantum_le_self {u : Nat} (hu : 0 < u) : quantum u ≤ u := by
  rcases Decidable.em (quantum u = 1) with h | h
  · omega
  · calc quantum u ≤ Nat.pow 2 52 * quantum u := Nat.le_mul_of_pos_left _ (by decide)
      _ ≤ u := mul_quantum_le h

/-- A power of two is a multiple of its quantum. -/
theorem quantum_dvd_pow (k : Nat) : quantum (Nat.pow 2 k) ∣ Nat.pow 2 k := by
  have hle := quantum_le_self (Nat.two_pow_pos k)
  obtain ⟨j, hj⟩ := exists_quantum (Nat.pow 2 k)
  have hjk : quantum (Nat.pow 2 k) ≤ Nat.pow 2 k := hle
  rw [hj] at hjk ⊢
  exact Nat.pow_dvd_pow 2 ((Nat.pow_le_pow_iff_right (by decide)).mp hjk)

theorem unit_pos : 0 < unit := by
  unfold unit
  generalize 1074 = k
  exact Nat.two_pow_pos k

theorem quantum_dvd_unit : quantum unit ∣ unit := by
  unfold unit
  generalize 1074 = k
  exact quantum_dvd_pow k

/-! ## Magnitudes -/

/-- A count of units that is a magnitude: not beyond the largest, and made of whole quanta. -/
structure IsMagnitude (u : Nat) : Prop where
  le_max : u ≤ maxUnits
  quantum_dvd_self : quantum u ∣ u

/-- The numbers that there are in double precision. -/
inductive Representable : Double → Prop
  | nan : Representable .nan
  | infinity (s : Bool) : Representable (.infinity s)
  | finite (s : Bool) {u : Nat} (h : IsMagnitude u) : Representable (.finite s u)

/-- Between a magnitude and the next one there is none. -/
theorem le_of_lt_next {p u : Nat} (hp : quantum p ∣ p) (hu : quantum u ∣ u)
    (h : u < p + quantum p) : u ≤ p := by
  rcases Nat.lt_or_ge p u with hlt | hge
  · have hdvd : quantum p ∣ u - p :=
      Nat.dvd_sub (Nat.dvd_trans (quantum_dvd (Nat.le_of_lt hlt)) hu) hp
    have hle := Nat.le_of_dvd (Nat.sub_pos_of_lt hlt) hdvd
    omega
  · exact hge

/-- From a magnitude on up to the next one, the quanta are of the same size. -/
theorem quantum_eq_of_lt_next {u v : Nat} (hu : quantum u ∣ u) (hle : u ≤ v)
    (hlt : v < u + quantum u) : quantum v = quantum u := by
  obtain ⟨k, hk⟩ := hu
  have hkp : k < Nat.pow 2 53 := by
    apply Nat.lt_of_mul_lt_mul_left (a := quantum u)
    rw [← hk, Nat.mul_comm]
    exact lt_mul_quantum u
  have hup : v < Nat.pow 2 53 * quantum u := by
    calc v < u + quantum u := hlt
      _ = (k + 1) * quantum u := by rw [Nat.add_mul, Nat.one_mul, Nat.mul_comm k, ← hk]
      _ ≤ Nat.pow 2 53 * quantum u := Nat.mul_le_mul_right _ hkp
  rcases Decidable.em (quantum u = 1) with hone | hone
  · rw [hone, Nat.mul_one] at hup
    rw [hone, quantum_of_lt hup]
  · exact quantum_eq_of_between (Nat.le_trans (mul_quantum_le hone) hle) hup

/-- The same one quantum below a magnitude, unless it is a power of two, before which the quanta are
    half as large. -/
theorem quantum_eq_of_prev {u v : Nat} (hu : quantum u ∣ u)
    (hwide : quantum u = 1 ∨ u ≠ Nat.pow 2 52 * quantum u) (hlt : v < u) (hle : u ≤ v + quantum u) :
    quantum v = quantum u := by
  have hup : v < Nat.pow 2 53 * quantum u := Nat.lt_trans hlt (lt_mul_quantum u)
  rcases Decidable.em (quantum u = 1) with hone | hone
  · rw [hone, Nat.mul_one] at hup
    rw [hone, quantum_of_lt hup]
  · obtain ⟨k, hk⟩ := hu
    have hne := hwide.resolve_left hone
    -- one quantum less is still 2^52 of them at least
    have hkp : Nat.pow 2 52 + 1 ≤ k := by
      apply Nat.lt_of_mul_lt_mul_left (a := quantum u)
      rw [← hk, Nat.mul_comm]
      exact Nat.lt_of_le_of_ne (mul_quantum_le hone) (Ne.symm hne)
    have hmul := Nat.mul_le_mul_right (quantum u) hkp
    rw [Nat.mul_comm k, ← hk, Nat.add_mul, Nat.one_mul] at hmul
    exact quantum_eq_of_between (by omega) hup

/-! ## The nearest natural number -/

/-- The nearest natural number is less than one away, and at most one half. -/
theorem nearest_spec (num : Nat) {den : Nat} (hden : 0 < den) :
    2 * num ≤ 2 * (nearest num den * den) + den ∧ 2 * (nearest num den * den) ≤ 2 * num + den := by
  have hdiv := Nat.div_add_mod num den
  have hmod := Nat.mod_lt num hden
  rw [Nat.mul_comm] at hdiv
  unfold nearest
  dsimp only
  split
  · constructor <;> omega
  · split
    · rw [Nat.add_mul]; constructor <;> omega
    · rcases Nat.mod_two_eq_zero_or_one (num / den) with he | he
      · rw [he, Nat.add_zero]; constructor <;> omega
      · rw [he, Nat.add_mul]; constructor <;> omega

/-- A natural number at most half away is the nearest one; from half away only an even one is. -/
theorem nearest_eq {num den k : Nat} (hden : 0 < den) (hlow : 2 * (k * den) ≤ 2 * num + den)
    (hhigh : 2 * num ≤ 2 * (k * den) + den)
    (hodd : k % 2 = 1 → 2 * (k * den) < 2 * num + den ∧ 2 * num < 2 * (k * den) + den) :
    nearest num den = k := by
  have hdiv := Nat.div_add_mod num den
  have hmod := Nat.mod_lt num hden
  rw [Nat.mul_comm] at hdiv
  have hk : k = num / den ∨ k = num / den + 1 := by
    rcases Nat.lt_or_ge k (num / den) with hlt | hge
    · have := Nat.mul_le_mul_right den (Nat.succ_le_of_lt hlt)
      rw [Nat.succ_mul] at this
      omega
    · rcases Nat.lt_or_ge (num / den + 1) k with hlt | hle
      · have := Nat.mul_le_mul_right den (Nat.succ_le_of_lt hlt)
        rw [Nat.succ_mul, Nat.succ_mul] at this
        omega
      · omega
  unfold nearest
  dsimp only
  rcases hk with rfl | hk
  · split
    · rfl
    · split
      · omega
      · omega
  · rw [hk, Nat.add_mul, Nat.one_mul] at hlow hhigh hodd
    rw [hk]
    split
    · omega
    · split
      · rfl
      · omega

theorem nearest_le {num den v : Nat} (hden : 0 < den) (h : num ≤ v * den) : nearest num den ≤ v := by
  have hspec := (nearest_spec num hden).2
  rcases Nat.lt_or_ge v (nearest num den) with hlt | hge
  · have hv := Nat.mul_le_mul_right den (Nat.succ_le_of_lt hlt)
    rw [Nat.succ_mul] at hv
    omega
  · exact hge

theorem le_nearest {num den v : Nat} (hden : 0 < den) (h : v * den ≤ num) : v ≤ nearest num den := by
  have hspec := (nearest_spec num hden).1
  rcases Nat.lt_or_ge (nearest num den) v with hlt | hge
  · have hv := Nat.mul_le_mul_right den (Nat.succ_le_of_lt hlt)
    rw [Nat.succ_mul] at hv
    omega
  · exact hge

/-! ## Bounds -/

/-- The count of units that a quotient of units is rounded to. -/
def rounded (num den : Nat) : Nat :=
  nearest num (den * quantum (num / den)) * quantum (num / den)

theorem ofQuotient_eq (s : Bool) (num den : Nat) :
    ofQuotient s num den =
      if maxUnits < rounded num den then .infinity s else .finite s (rounded num den) := rfl

section Bounds

variable {num den v : Nat}

theorem rounded_le (hden : 0 < den) (hv : quantum v ∣ v) (h : num ≤ v * den) : rounded num den ≤ v := by
  have hle : num / den ≤ v := (Nat.div_le_iff_le_mul_add_pred hden).mpr (by rw [Nat.mul_comm]; omega)
  obtain ⟨w, hw⟩ := Nat.dvd_trans (quantum_dvd hle) hv
  have hpos : 0 < den * quantum (num / den) := Nat.mul_pos hden (quantum_pos _)
  have hnear : nearest num (den * quantum (num / den)) ≤ w := by
    apply nearest_le hpos
    calc num ≤ v * den := h
      _ = quantum (num / den) * w * den := by rw [← hw]
      _ = w * (den * quantum (num / den)) := by ac_rfl
  calc rounded num den ≤ w * quantum (num / den) := Nat.mul_le_mul_right _ hnear
    _ = quantum (num / den) * w := Nat.mul_comm _ _
    _ = v := hw.symm

/-- The count of quanta that a quotient is rounded to is 2^52 at least, unless the quantum is one. -/
theorem le_nearest_quanta (hden : 0 < den) (hone : quantum (num / den) ≠ 1) :
    Nat.pow 2 52 ≤ nearest num (den * quantum (num / den)) := by
  apply le_nearest (Nat.mul_pos hden (quantum_pos _))
  calc Nat.pow 2 52 * (den * quantum (num / den)) = Nat.pow 2 52 * quantum (num / den) * den := by ac_rfl
    _ ≤ num / den * den := Nat.mul_le_mul_right _ (mul_quantum_le hone)
    _ ≤ num := Nat.div_mul_le_self num den

theorem le_rounded (hden : 0 < den) (hv : quantum v ∣ v) (h : v * den ≤ num) : v ≤ rounded num den := by
  have hle : v ≤ num / den := (Nat.le_div_iff_mul_le hden).mpr h
  rcases quantum_eq_or_double hle with he | he
  · obtain ⟨w, hw⟩ := hv
    rw [he] at hw
    have hnear : w ≤ nearest num (den * quantum (num / den)) := by
      apply le_nearest (Nat.mul_pos hden (quantum_pos _))
      calc w * (den * quantum (num / den)) = quantum (num / den) * w * den := by ac_rfl
        _ = v * den := by rw [← hw]
        _ ≤ num := h
    calc v = quantum (num / den) * w := hw
      _ = w * quantum (num / den) := Nat.mul_comm _ _
      _ ≤ rounded num den := Nat.mul_le_mul_right _ hnear
  · -- the quantum of the quotient is so large that 2^52 of it exceed `v`
    have hone : quantum (num / den) ≠ 1 := by have := quantum_pos v; omega
    have h53 : Nat.pow 2 53 = Nat.pow 2 52 * 2 := by decide
    calc v ≤ Nat.pow 2 53 * quantum v := Nat.le_of_lt (lt_mul_quantum v)
      _ = Nat.pow 2 52 * (2 * quantum v) := by rw [h53, Nat.mul_assoc]
      _ ≤ Nat.pow 2 52 * quantum (num / den) := Nat.mul_le_mul_left _ he
      _ ≤ rounded num den := Nat.mul_le_mul_right _ (le_nearest_quanta hden hone)

/-- What a quotient is rounded to is a multiple of its quantum. -/
theorem quantum_dvd_rounded (hden : 0 < den) : quantum (rounded num den) ∣ rounded num den := by
  have hhigh : nearest num (den * quantum (num / den)) ≤ Nat.pow 2 53 := by
    apply nearest_le (Nat.mul_pos hden (quantum_pos _))
    calc num ≤ (num / den + 1) * den := by
          have := Nat.div_add_mod num den
          have := Nat.mod_lt num hden
          rw [Nat.succ_mul, Nat.mul_comm]
          omega
      _ ≤ Nat.pow 2 53 * quantum (num / den) * den :=
          Nat.mul_le_mul_right _ (lt_mul_quantum (num / den))
      _ = Nat.pow 2 53 * (den * quantum (num / den)) := by ac_rfl
  have hr : rounded num den = nearest num (den * quantum (num / den)) * quantum (num / den) := rfl
  rcases Nat.lt_or_eq_of_le hhigh with hlt | heq
  · -- fewer than 2^53 quanta: the quantum of the result is that of the quotient, or one
    have hup : rounded num den < Nat.pow 2 53 * quantum (num / den) :=
      Nat.mul_lt_mul_of_pos_right hlt (quantum_pos _)
    rcases Decidable.em (quantum (num / den) = 1) with hone | hone
    · rw [hone, Nat.mul_one] at hup
      rw [quantum_of_lt hup]
      exact Nat.one_dvd _
    · have hlow := Nat.mul_le_mul_right (quantum (num / den)) (le_nearest_quanta hden hone)
      have hstep : quantum (rounded num den) = quantum (num / den) := quantum_eq_of_between hlow hup
      rw [hstep, hr]
      exact Nat.dvd_mul_left _ _
  · obtain ⟨k, hk⟩ := exists_quantum (num / den)
    have hpow : rounded num den = Nat.pow 2 (53 + k) := by
      rw [hr, heq, hk]
      exact (Nat.pow_add 2 53 k).symm
    rw [hpow]
    exact quantum_dvd_pow _

end Bounds

theorem ofQuotient_of_rounded (s : Bool) {num den u : Nat} (hu : u ≤ maxUnits)
    (h : rounded num den = u) : ofQuotient s num den = .finite s u := by
  rw [ofQuotient_eq, h]
  exact if_neg (Nat.not_lt.mpr hu)

theorem representable_ofQuotient (s : Bool) {num den : Nat} (hden : 0 < den) :
    (ofQuotient s num den).Representable := by
  by_cases h : rounded num den ≤ maxUnits
  · rw [ofQuotient_of_rounded s h rfl]
    exact .finite s ⟨h, quantum_dvd_rounded hden⟩
  · have he : ofQuotient s num den = .infinity s := by
      rw [ofQuotient_eq]
      exact if_pos (Nat.not_le.mp h)
    rw [he]
    exact .infinity s

/-! ## Reading back -/

section Reading

variable {u num den : Nat}

/-- Within half a quantum of a magnitude, a quotient that has quanta of the same size is rounded to it. -/
theorem rounded_of_quantum_eq (hden : 0 < den) (hu : quantum u ∣ u)
    (hstep : quantum (num / den) = quantum u) (hlow : 2 * (u * den) ≤ 2 * num + quantum u * den)
    (hhigh : 2 * num ≤ 2 * (u * den) + quantum u * den)
    (hodd : u / quantum u % 2 = 1 →
      2 * (u * den) < 2 * num + quantum u * den ∧ 2 * num < 2 * (u * den) + quantum u * den) :
    rounded num den = u := by
  obtain ⟨k, hk⟩ := hu
  have hq := quantum_pos u
  have hdiv : u / quantum u = k := Nat.div_eq_of_eq_mul_right hq hk
  have hkden : k * (den * quantum u) = u * den := by
    calc k * (den * quantum u) = quantum u * k * den := by ac_rfl
      _ = u * den := by rw [← hk]
  have hcomm : den * quantum u = quantum u * den := Nat.mul_comm _ _
  rw [hdiv] at hodd
  have hnear : nearest num (den * quantum u) = k := by
    apply nearest_eq (Nat.mul_pos hden hq)
    · omega
    · omega
    · intro hkodd
      have := hodd hkodd
      omega
  rw [rounded, hstep, hnear, Nat.mul_comm]
  exact hk.symm

/-- Above a magnitude up to halfway to its neighbour, a quotient is rounded down to it. -/
theorem rounded_of_ge (hden : 0 < den) (hu : quantum u ∣ u) (hge : u * den ≤ num)
    (hhigh : 2 * num ≤ 2 * (u * den) + quantum u * den)
    (hodd : u / quantum u % 2 = 1 → 2 * num < 2 * (u * den) + quantum u * den) :
    rounded num den = u := by
  have hqden : 0 < quantum u * den := Nat.mul_pos (quantum_pos u) hden
  have hstep : quantum (num / den) = quantum u := by
    apply quantum_eq_of_lt_next hu ((Nat.le_div_iff_mul_le hden).mpr hge)
    rw [Nat.div_lt_iff_lt_mul hden, Nat.add_mul]
    omega
  apply rounded_of_quantum_eq hden hu hstep
  · omega
  · exact hhigh
  · intro h
    have := hodd h
    omega

/-- Below a magnitude, within half a quantum, a quotient is rounded up to it, if the quanta down there
    are of the same size. -/
theorem rounded_of_lt (hden : 0 < den) (hu : quantum u ∣ u) (hlt : num < u * den)
    (hwide : quantum u = 1 ∨ u ≠ Nat.pow 2 52 * quantum u)
    (hlow : 2 * (u * den) ≤ 2 * num + quantum u * den)
    (hodd : u / quantum u % 2 = 1 → 2 * (u * den) < 2 * num + quantum u * den) :
    rounded num den = u := by
  have hstep : quantum (num / den) = quantum u := by
    apply quantum_eq_of_prev hu hwide ((Nat.div_lt_iff_lt_mul hden).mpr hlt)
    have hsub : (u - quantum u) * den ≤ num := by
      rw [Nat.sub_mul]
      omega
    have hle := (Nat.le_div_iff_mul_le hden).mpr hsub
    omega
  apply rounded_of_quantum_eq hden hu hstep hlow
  · omega
  · intro h
    have := hodd h
    omega

/-- Below a power of two the quanta are half as large, so a quotient has to be twice as near. -/
theorem rounded_of_lt_narrow (hden : 0 < den) (h53 : Nat.pow 2 53 ≤ u)
    (hpow : u = Nat.pow 2 52 * quantum u) (hlt : num < u * den)
    (hlow : 4 * (u * den) ≤ 4 * num + quantum u * den) : rounded num den = u := by
  obtain ⟨k, hk⟩ := exists_quantum u
  cases k with
  | zero =>
    have hone : quantum u = 1 := hk
    rw [hpow, hone] at h53
    exact absurd h53 (by decide)
  | succ k =>
    have hhalf : quantum u = 2 * Nat.pow 2 k := by
      rw [hk]
      exact Nat.pow_succ'
    have hu : u = Nat.pow 2 53 * Nat.pow 2 k := by
      have h2 : Nat.pow 2 53 = Nat.pow 2 52 * 2 := by decide
      rw [hpow, hhalf, h2, Nat.mul_assoc]
    have hpos : 0 < Nat.pow 2 k := Nat.two_pow_pos k
    have hstep : quantum (num / den) = Nat.pow 2 k := by
      apply quantum_eq_pow
      · rw [Nat.le_div_iff_mul_le hden]
        have hq : quantum u * den ≤ u * den :=
          Nat.mul_le_mul_right _ (quantum_le_self (Nat.lt_of_lt_of_le (by decide) h53))
        have h2 : u * den = 2 * (Nat.pow 2 52 * Nat.pow 2 k * den) := by
          rw [hpow, hhalf, Nat.mul_left_comm, Nat.mul_assoc]
        omega
      · rw [← hu]
        exact (Nat.div_lt_iff_lt_mul hden).mpr hlt
    have hnear : nearest num (den * Nat.pow 2 k) = Nat.pow 2 53 := by
      have hkden : Nat.pow 2 53 * (den * Nat.pow 2 k) = u * den := by
        calc Nat.pow 2 53 * (den * Nat.pow 2 k) = Nat.pow 2 53 * Nat.pow 2 k * den := by ac_rfl
          _ = u * den := by rw [← hu]
      have hq : quantum u * den = 2 * (den * Nat.pow 2 k) := by
        rw [hhalf, Nat.mul_assoc, Nat.mul_comm (Nat.pow 2 k)]
      apply nearest_eq (Nat.mul_pos hden hpos)
      · omega
      · omega
      · intro h
        exact absurd h (by decide)
    rw [rounded, hstep, hnear]
    exact hu.symm

/-- **Reading back.**  A quotient in the interval of a magnitude, at its ends only if they belong to it,
    is rounded to that magnitude. -/
theorem rounded_of_interval (hden : 0 < den) (hu : quantum u ∣ u)
    (hlow : (interval u).1 * den ≤ 4 * num) (hhigh : 4 * num ≤ (interval u).2 * den)
    (hodd : u / quantum u % 2 = 1 →
      (interval u).1 * den < 4 * num ∧ 4 * num < (interval u).2 * den) :
    rounded num den = u := by
  unfold interval at hlow hhigh hodd
  dsimp only at hlow hhigh hodd
  rcases Nat.lt_or_ge num (u * den) with hlt | hge
  · split at hlow
    · rename_i hnarrow
      obtain ⟨h53, hpow⟩ := Bool.and_eq_true_iff.mp hnarrow
      apply rounded_of_lt_narrow hden (of_decide_eq_true h53) (eq_of_beq hpow) hlt
      rw [Nat.sub_mul, Nat.mul_assoc] at hlow
      omega
    · rename_i hnarrow
      have hwide : quantum u = 1 ∨ u ≠ Nat.pow 2 52 * quantum u := by
        rcases Nat.lt_or_ge u (Nat.pow 2 53) with h | h
        · exact .inl (quantum_of_lt h)
        · refine .inr fun he => hnarrow ?_
          exact Bool.and_eq_true_iff.mpr ⟨decide_eq_true h, beq_iff_eq.mpr he⟩
      rw [if_neg hnarrow] at hodd
      rw [Nat.sub_mul, Nat.mul_assoc, Nat.mul_assoc] at hlow hodd
      apply rounded_of_lt hden hu hlt hwide
      · omega
      · intro h
        have := (hodd h).1
        omega
  · rw [Nat.add_mul, Nat.mul_assoc, Nat.mul_assoc] at hhigh hodd
    apply rounded_of_ge hden hu hge
    · omega
    · intro h
      have := (hodd h).2
      omega

end Reading

end SearchQuery.Double
