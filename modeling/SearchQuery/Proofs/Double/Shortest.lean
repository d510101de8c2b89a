/-
  The shortest decimal reads back.

  1. **Quotients** — a decimal is a quotient of units, and comparing it is comparing cross products, so
     decimals of one value read back alike (`readsBack_congr`).
  2. **The search (`readsBack_shortest`)** — whatever the search finds reads back, and so does the exact
     value that stands behind it; taking zeros off the end does not change the value.
  3. **Reading back (`ofDecimal_of_readsBack`)** — a decimal that reads back as a magnitude is rounded to
     it.  Such a decimal is neither so large nor so small that its size alone would decide.
-/
import SearchQuery.Proofs.Double.Rounding

namespace SearchQuery.Double

/-! ## Quotients -/

namespace Decimal

/-- A decimal as a quotient of units. -/
def quotient (d : Decimal) : Nat × Nat :=
  match d.exponent with
  | .ofNat e => (d.digits * Nat.pow 10 e * unit, 1)
  | .negSucc e => (d.digits * unit, Nat.pow 10 (e + 1))

theorem quotient_pos (d : Decimal) : 0 < d.quotient.2 := by
  obtain ⟨digits, e⟩ := d
  cases e with
  | ofNat e => exact Nat.one_pos
  | negSucc e => exact Nat.pow_pos (by decide)

theorem compareQuarters_eq (d : Decimal) (quarters : Nat) :
    d.compareQuarters quarters = compare (4 * d.quotient.1) (quarters * d.quotient.2) := by
  obtain ⟨digits, e⟩ := d
  cases e with
  | ofNat e =>
    show compare (digits * Nat.pow 10 e * (4 * unit)) quarters =
      compare (4 * (digits * Nat.pow 10 e * unit)) (quarters * 1)
    rw [Nat.mul_left_comm, Nat.mul_one]
  | negSucc e =>
    show compare (digits * (4 * unit)) (quarters * Nat.pow 10 (e + 1)) =
      compare (4 * (digits * unit)) (quarters * Nat.pow 10 (e + 1))
    rw [Nat.mul_left_comm]

/-- Whether two decimals are one number. -/
def Same (d e : Decimal) : Prop := d.quotient.1 * e.quotient.2 = e.quotient.1 * d.quotient.2

end Decimal

theorem compare_mul_right {a b c : Nat} (hc : 0 < c) : compare (a * c) (b * c) = compare a b := by
  rcases Nat.lt_trichotomy a b with h | rfl | h
  · rw [Nat.compare_eq_lt.mpr h, Nat.compare_eq_lt.mpr (Nat.mul_lt_mul_of_pos_right h hc)]
  · rw [Nat.compare_eq_eq.mpr rfl, Nat.compare_eq_eq.mpr rfl]
  · rw [Nat.compare_eq_gt.mpr h, Nat.compare_eq_gt.mpr (Nat.mul_lt_mul_of_pos_right h hc)]

theorem compareQuarters_congr {d e : Decimal} (h : d.Same e) (quarters : Nat) :
    d.compareQuarters quarters = e.compareQuarters quarters := by
  have hcross : 4 * d.quotient.1 * e.quotient.2 = 4 * e.quotient.1 * d.quotient.2 := by
    rw [Nat.mul_assoc, h, Nat.mul_assoc]
  calc d.compareQuarters quarters
      = compare (4 * d.quotient.1) (quarters * d.quotient.2) := d.compareQuarters_eq quarters
    _ = compare (4 * d.quotient.1 * e.quotient.2) (quarters * d.quotient.2 * e.quotient.2) :=
        (compare_mul_right e.quotient_pos).symm
    _ = compare (4 * e.quotient.1 * d.quotient.2) (quarters * e.quotient.2 * d.quotient.2) := by
        rw [hcross, Nat.mul_right_comm quarters]
    _ = compare (4 * e.quotient.1) (quarters * e.quotient.2) := compare_mul_right d.quotient_pos
    _ = e.compareQuarters quarters := (e.compareQuarters_eq quarters).symm

theorem readsBack_congr {d e : Decimal} (h : d.Same e) (u : Nat) : readsBack u d = readsBack u e := by
  unfold readsBack
  simp only [compareQuarters_congr h]

/-- A decimal reads back as a magnitude when it lies in its interval, at an end only if the last binary
    digit of the magnitude is zero. -/
theorem readsBack_iff {u : Nat} {d : Decimal} :
    readsBack u d = true ↔
      (interval u).1 * d.quotient.2 ≤ 4 * d.quotient.1 ∧
        4 * d.quotient.1 ≤ (interval u).2 * d.quotient.2 ∧
        (u / quantum u % 2 = 1 → (interval u).1 * d.quotient.2 < 4 * d.quotient.1 ∧
          4 * d.quotient.1 < (interval u).2 * d.quotient.2) := by
  have hmod := Nat.mod_two_eq_zero_or_one (u / quantum u)
  unfold readsBack
  simp only [d.compareQuarters_eq, Bool.and_eq_true, Bool.or_eq_true, beq_iff_eq,
    Nat.compare_eq_gt, Nat.compare_eq_eq, Nat.compare_eq_lt]
  omega

/-! ## The search -/

/-- A decimal with a zero taken off its digits. -/
theorem same_of_zero {n : Nat} (e : Int) (h : n % 10 = 0) :
    Decimal.Same ⟨n / 10, e + 1⟩ ⟨n, e⟩ := by
  obtain ⟨k, rfl⟩ := Nat.dvd_of_mod_eq_zero h
  rw [Nat.mul_div_cancel_left k (by decide)]
  cases e with
  | ofNat e =>
    show k * Nat.pow 10 (e + 1) * unit * 1 = 10 * k * Nat.pow 10 e * unit * 1
    have hpow : Nat.pow 10 (e + 1) = Nat.pow 10 e * 10 := rfl
    rw [hpow]
    generalize unit = one
    ac_rfl
  | negSucc e =>
    cases e with
    | zero =>
      show k * Nat.pow 10 0 * unit * Nat.pow 10 1 = 10 * k * unit * 1
      have hone : Nat.pow 10 0 = 1 := rfl
      have hten : Nat.pow 10 1 = 10 := rfl
      rw [hone, hten]
      generalize unit = one
      ac_rfl
    | succ e =>
      show k * unit * Nat.pow 10 (e + 2) = 10 * k * unit * Nat.pow 10 (e + 1)
      have hpow : Nat.pow 10 (e + 2) = Nat.pow 10 (e + 1) * 10 := rfl
      rw [hpow]
      generalize unit = one
      ac_rfl

theorem readsBack_trimmed (u fuel : Nat) (d : Decimal) :
    readsBack u (d.trimmed fuel) = readsBack u d := by
  induction fuel generalizing d with
  | zero => rfl
  | succ fuel ih =>
    rw [Decimal.trimmed]
    split
    · rename_i h
      rw [ih]
      exact readsBack_congr (same_of_zero d.exponent h) u
    · rfl

theorem readsBack_of_onGrid? {u : Nat} {e : Int} {d : Decimal} (h : onGrid? u e = some d) :
    readsBack u d = true := by
  unfold onGrid? at h
  dsimp only at h
  split at h
  · cases h
  · rename_i hlow hhigh
    rw [← Option.some.inj h]
    exact hlow
  · rename_i hlow hhigh
    rw [← Option.some.inj h]
    exact hhigh
  · rename_i hlow hhigh
    rw [← Option.some.inj h]
    split
    · exact hlow
    · exact hhigh

/-- A magnitude lies inside its interval. -/
theorem interval_around {u : Nat} (hu : 0 < u) : (interval u).1 < 4 * u ∧ 4 * u < (interval u).2 := by
  have hq := quantum_pos u
  unfold interval
  dsimp only
  constructor
  · split <;> omega
  · omega

theorem readsBack_of_eq {u digits e : Nat} (hu : 0 < u)
    (h : digits * unit = u * Nat.pow 10 (e + 1)) : readsBack u ⟨digits, .negSucc e⟩ = true := by
  obtain ⟨hlow, hhigh⟩ := interval_around hu
  have hquot : Decimal.quotient ⟨digits, .negSucc e⟩ = (digits * unit, Nat.pow 10 (e + 1)) := rfl
  rw [readsBack_iff, hquot, h]
  have hten : 0 < Nat.pow 10 (e + 1) := Nat.pow_pos (by decide)
  have hltlow := Nat.mul_lt_mul_of_pos_right hlow hten
  have hlthigh := Nat.mul_lt_mul_of_pos_right hhigh hten
  rw [Nat.mul_assoc] at hltlow hlthigh
  exact ⟨Nat.le_of_lt hltlow, Nat.le_of_lt hlthigh, fun _ => ⟨hltlow, hlthigh⟩⟩

/-- The exact value of a magnitude reads back. -/
theorem readsBack_exact {u : Nat} (hu : 0 < u) : readsBack u ⟨u * Nat.pow 5 1074, -1074⟩ = true := by
  have hpow : Nat.pow 5 1074 * unit = Nat.pow 10 (1073 + 1) := by decide +kernel
  apply readsBack_of_eq (e := 1073) hu
  rw [Nat.mul_assoc, hpow]

/-- **The shortest decimal reads back.** -/
theorem readsBack_shortest {u : Nat} (hu : 0 < u) : readsBack u (shortest u) = true := by
  unfold shortest
  dsimp only
  rw [readsBack_trimmed]
  cases h : (List.range 17).findSome? fun (n : Nat) => onGrid? u (scale u - (n + 1)) with
  | none => exact readsBack_exact hu
  | some d =>
    obtain ⟨n, -, hn⟩ := List.exists_of_findSome?_eq_some h
    exact readsBack_of_onGrid? hn

/-! ## Reading back -/

/-- The interval of a magnitude lies between half of it and one and a half of it. -/
theorem interval_bounds {u : Nat} (hu : 0 < u) :
    2 * u ≤ (interval u).1 ∧ (interval u).2 ≤ 6 * u := by
  have hle := quantum_le_self hu
  unfold interval
  dsimp only
  constructor
  · split <;> omega
  · omega

theorem digits_ne_zero {u : Nat} {d : Decimal} (hu : 0 < u) (h : readsBack u d = true) :
    d.digits ≠ 0 := by
  intro hd
  have hlow := (readsBack_iff.mp h).1
  have hnum : d.quotient.1 = 0 := by
    obtain ⟨digits, e⟩ := d
    subst hd
    cases e with
    | ofNat e =>
      show 0 * Nat.pow 10 e * unit = 0
      rw [Nat.zero_mul, Nat.zero_mul]
    | negSucc e =>
      show 0 * unit = 0
      rw [Nat.zero_mul]
  have hpos := Nat.mul_pos (Nat.lt_of_lt_of_le (by omega) (interval_bounds hu).1) d.quotient_pos
  omega

theorem pow_ten_le {a b : Nat} (h : a ≤ b) : Nat.pow 10 a ≤ Nat.pow 10 b :=
  Nat.pow_le_pow_right (by decide) h

theorem pow_ten_add (a b : Nat) : Nat.pow 10 a * Nat.pow 10 b = Nat.pow 10 (a + b) :=
  (Nat.pow_add 10 a b).symm

/-- A decimal with an exponent above 400 is beyond all magnitudes. -/
theorem exponent_le {u : Nat} {d : Decimal} (hu0 : 0 < u) (hu : u ≤ maxUnits)
    (h : readsBack u d = true) : ¬400 < d.exponent := by
  have hd := Nat.pos_of_ne_zero (digits_ne_zero hu0 h)
  have hhigh := (readsBack_iff.mp h).2.1
  have hsix := (interval_bounds hu0).2
  obtain ⟨digits, e⟩ := d
  cases e with
  | negSucc e =>
    intro hlt
    have hlt : (400 : Int) < Int.negSucc e := hlt
    omega
  | ofNat e =>
    intro hlt
    have hhigh : 4 * (digits * Nat.pow 10 e * unit) ≤ (interval u).2 * 1 := hhigh
    obtain ⟨k, hk⟩ : ∃ k, k = 401 := ⟨_, rfl⟩
    have he : k ≤ e := by rw [hk]; exact Int.ofNat_lt.mp hlt
    have hmax : 6 * maxUnits < 4 * (1 * Nat.pow 10 k * unit) := by rw [hk]; decide +kernel
    have hle : 1 * Nat.pow 10 k * unit ≤ digits * Nat.pow 10 e * unit :=
      Nat.mul_le_mul_right _ (Nat.mul_le_mul hd (pow_ten_le he))
    generalize maxUnits = largest at hu hmax
    omega

theorem lt_pow_log (n : Nat) : n < Nat.pow 10 (n.log2 / 3 + 1) := by
  calc n < 2 ^ (n.log2 + 1) := Nat.lt_log2_self
    _ ≤ 2 ^ (3 * (n.log2 / 3 + 1)) := Nat.pow_le_pow_right (by decide) (by omega)
    _ = (2 ^ 3) ^ (n.log2 / 3 + 1) := Nat.pow_mul 2 3 _
    _ ≤ Nat.pow 10 (n.log2 / 3 + 1) := Nat.pow_le_pow_left (by decide) _

/-- A decimal below 10^-400 is below all magnitudes. -/
theorem le_exponent {u : Nat} {d : Decimal} (hu : 0 < u) (h : readsBack u d = true) :
    ¬d.exponent + (d.digits.log2 / 3 + 1 : Nat) < -400 := by
  have hlow := (readsBack_iff.mp h).1
  have htwo := (interval_bounds hu).1
  obtain ⟨digits, e⟩ := d
  cases e with
  | ofNat e =>
    intro hlt
    have hlt : (e : Int) + (digits.log2 / 3 + 1 : Nat) < -400 := hlt
    omega
  | negSucc e =>
    intro hlt
    have hlt : Int.negSucc e + (digits.log2 / 3 + 1 : Nat) < -400 := hlt
    have hlow : (interval u).1 * Nat.pow 10 (e + 1) ≤ 4 * (digits * unit) := hlow
    obtain ⟨k, hk⟩ : ∃ k, k = 401 := ⟨_, rfl⟩
    have hpow : Nat.pow 10 (digits.log2 / 3 + 1 + k) ≤ Nat.pow 10 (e + 1) := pow_ten_le (by omega)
    rw [← pow_ten_add] at hpow
    have hdigits : digits * unit ≤ Nat.pow 10 (digits.log2 / 3 + 1) * unit :=
      Nat.mul_le_mul_right _ (Nat.le_of_lt (lt_pow_log digits))
    have hunit : 4 * unit < 2 * Nat.pow 10 k := by rw [hk]; decide +kernel
    have hten : 0 < Nat.pow 10 (digits.log2 / 3 + 1) := Nat.pow_pos (by decide)
    have htwos : 2 * Nat.pow 10 (e + 1) ≤ (interval u).1 * Nat.pow 10 (e + 1) :=
      Nat.mul_le_mul_right _ (by omega)
    have hlt := Nat.mul_lt_mul_of_pos_left hunit hten
    rw [Nat.mul_left_comm, Nat.mul_left_comm _ 2] at hlt
    omega

theorem ofDecimal_eq (s : Bool) {d : Decimal} (hd : d.digits ≠ 0) (hhigh : ¬400 < d.exponent)
    (hlow : ¬d.exponent + (d.digits.log2 / 3 + 1 : Nat) < -400) :
    ofDecimal s d.digits d.exponent = ofQuotient s d.quotient.1 d.quotient.2 := by
  unfold ofDecimal
  rw [if_neg hd, if_neg hhigh, if_neg hlow]
  obtain ⟨digits, e⟩ := d
  cases e with
  | ofNat e => rfl
  | negSucc e => rfl

/-- **Reading back.**  A decimal that reads back as a magnitude is rounded to it. -/
theorem ofDecimal_of_readsBack (s : Bool) {u : Nat} {d : Decimal} (hu : IsMagnitude u) (hu0 : 0 < u)
    (h : readsBack u d = true) : ofDecimal s d.digits d.exponent = .finite s u := by
  rw [ofDecimal_eq s (digits_ne_zero hu0 h) (exponent_le hu0 hu.le_max h) (le_exponent hu0 h)]
  obtain ⟨hlow, hhigh, hodd⟩ := readsBack_iff.mp h
  exact ofQuotient_of_rounded s hu.le_max
    (rounded_of_interval d.quotient_pos hu.quantum_dvd_self hlow hhigh hodd)

end SearchQuery.Double
