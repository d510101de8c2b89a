/-
  Equality of modifiers: which modifiers are equal.

  A fuzziness is compared by its place on the line, so its kind does not count, nor does the sign of
  zero.  Below one this makes a difference at a single place only.

  1. **Places (`Number.equal_iff_position`)** — two numbers are equal when both lie at one place, and
     there is only one finite number of double precision at each place but zero.
  2. **Zeros (`Number.eq_or_zeros`)** — what lies from zero up to one is the number zero or a number of
     double precision; two of them that are equal are the same, or both are zero.
  3. **Modifiers (`Modifier.equal_iff`)** — two valid modifiers are equal when they are the same up to
     the form of a zero as their fuzziness.
-/
import SearchQuery.Modifier.Draft
import SearchQuery.Proofs.Double.Rounding

namespace SearchQuery

/-! ## Places -/

theorem Double.Position.le_antisymm {p q : Double.Position} (hpq : p.le q = true)
    (hqp : q.le p = true) : p = q := by
  cases p <;> cases q <;> simp_all [Double.Position.le]
  omega

namespace Number

variable {f g : Number}

/-- Equal numbers are those that lie at one place. -/
theorem equal_iff_position : f.equal g = true ↔ ∃ p, f.position? = some p ∧ g.position? = some p := by
  unfold equal le
  constructor
  · intro h
    cases hf : f.position? with
    | none => simp [hf] at h
    | some p =>
      cases hg : g.position? with
      | none => simp [hf, hg] at h
      | some q =>
        simp only [hf, hg, Bool.and_eq_true] at h
        exact ⟨p, rfl, by rw [Double.Position.le_antisymm h.1 h.2]⟩
  · rintro ⟨p, hf, hg⟩
    simp [hf, hg, Double.Position.le_refl]

theorem int_le_int {a b : Int} : (int a).le (int b) = true ↔ a ≤ b := by
  have hunit : (0 : Int) < Double.unit := Int.ofNat_lt.mpr Double.unit_pos
  simp only [le, position?, Double.positionOfInt, Double.Position.le, decide_eq_true_eq]
  exact ⟨fun h => Int.le_of_mul_le_mul_right h hunit,
    fun h => Int.mul_le_mul_of_nonneg_right h (Int.le_of_lt hunit)⟩

theorem int_lt_int {a b : Int} : (int a).lt (int b) = true ↔ a < b := by
  have hnot : (int a).lt (int b) = !(int b).le (int a) := rfl
  rw [hnot, Bool.not_eq_true', ← Bool.not_eq_true, int_le_int, Int.not_le]

/-! ## Zeros -/

/-- Whether a number is zero, in whatever form. -/
def isZero (f : Number) : Prop := f.position? = some (.at 0)

instance : Decidable f.isZero := inferInstanceAs (Decidable (_ = _))

theorem isZero_iff : f.isZero ↔ f = .flag false ∨ f = .int 0 ∨ ∃ s, f = .double (.finite s 0) := by
  have hunit : (Double.unit : Int) ≠ 0 := Int.natCast_ne_zero.mpr (Nat.ne_of_gt Double.unit_pos)
  constructor
  · intro h
    cases f with
    | flag b =>
      cases b with
      | false => exact .inl rfl
      | true => exact absurd h (by decide +kernel)
    | int n =>
      simp only [isZero, position?, Double.positionOfInt, Option.some.injEq,
        Double.Position.at.injEq, Int.mul_eq_zero, hunit, or_false] at h
      exact .inr (.inl (by rw [h]))
    | double x =>
      cases x with
      | nan => simp [isZero, position?, Double.position?] at h
      | infinity s => cases s <;> simp [isZero, position?, Double.position?] at h
      | finite s u =>
        have hu : u = 0 := by
          cases s <;> simp [isZero, position?, Double.position?, Double.signedUnits] at h <;> omega
        exact .inr (.inr ⟨s, by rw [hu]⟩)
  · rintro (rfl | rfl | ⟨s, rfl⟩)
    · decide +kernel
    · decide +kernel
    · cases s <;> decide +kernel

/-- The forms of a fuzziness: zero as a truth value or an integer, or a number of double precision. -/
theorem cases_of_isFuzziness (hf : Modifier.isFuzziness f = true) :
    f = .flag false ∨ f = .int 0 ∨ ∃ s u, f = .double (.finite s u) := by
  cases f with
  | flag b =>
    cases b with
    | false => exact .inl rfl
    | true => exact absurd hf (by decide +kernel)
  | int n =>
    obtain ⟨hlow, hhigh⟩ := Bool.and_eq_true_iff.mp hf
    rw [int_le_int] at hlow
    rw [int_lt_int] at hhigh
    exact .inr (.inl (by congr 1; omega))
  | double x =>
    cases x with
    | nan => simp [Modifier.isFuzziness, le, lt, position?, Double.position?] at hf
    | infinity s => cases s <;> exact absurd hf (by decide +kernel)
    | finite s u => exact .inr (.inr ⟨s, u, rfl⟩)

/-- A positive fuzziness in double precision is below one and has no sign. -/
theorem below_one_of_isFuzziness {s : Bool} {u : Nat}
    (hf : Modifier.isFuzziness (.double (.finite s u)) = true) (hu : 0 < u) :
    s = false ∧ u < Double.unit := by
  simp only [Modifier.isFuzziness, le, lt, position?, Double.position?, Double.positionOfInt,
    Double.Position.lt, Double.Position.le, Bool.and_eq_true, Bool.not_eq_true', decide_eq_true_eq,
    decide_eq_false_iff_not, Int.zero_mul, Int.one_mul, Int.not_le] at hf
  cases s with
  | false =>
    have hlt : (u : Int) < (Double.unit : Int) := hf.2
    exact ⟨rfl, Int.ofNat_lt.mp hlt⟩
  | true =>
    have hle : (0 : Int) ≤ -(u : Int) := hf.1
    omega

/-- An integer that is a fuzziness once it is rounded is zero: rounding takes no integer below one. -/
theorem eq_zero_of_isFuzziness_ofInt {n : Int}
    (h : Modifier.isFuzziness (.double (Double.ofInt n)) = true) : n = 0 := by
  have heq : Double.ofInt n = if Double.maxUnits < Double.rounded (n.natAbs * Double.unit) 1
      then .infinity (n < 0) else .finite (n < 0) (Double.rounded (n.natAbs * Double.unit) 1) := rfl
  rcases cases_of_isFuzziness h with hn | hn | ⟨s, u, hn⟩
  · cases hn
  · cases hn
  · have hfinite : Double.ofInt n = .finite s u := Number.double.inj hn
    have hu : u = Double.rounded (n.natAbs * Double.unit) 1 := by
      rw [hfinite] at heq
      split at heq
      · cases heq
      · exact (Double.finite.inj heq).2
    by_cases hzero : n = 0
    · exact hzero
    · have hone : Double.unit * 1 ≤ n.natAbs * Double.unit := by
        rw [Nat.mul_comm]
        exact Nat.mul_le_mul_right _ (Int.natAbs_pos.mpr hzero)
      have hle : Double.unit ≤ u := hu ▸ Double.le_rounded Nat.one_pos Double.quantum_dvd_unit hone
      rw [hfinite] at h
      have hlt := (below_one_of_isFuzziness h (Nat.lt_of_lt_of_le Double.unit_pos hle)).2
      exact absurd hle (Nat.not_le.mpr hlt)

theorem equal_self_of_isFuzziness (hf : Modifier.isFuzziness f = true) : f.equal f = true := by
  rcases cases_of_isFuzziness hf with rfl | rfl | ⟨s, u, rfl⟩ <;>
    exact equal_iff_position.mpr ⟨_, rfl, rfl⟩

/-- Equal fuzzinesses are the same, or zero in two forms. -/
theorem eq_or_zeros (hf : Modifier.isFuzziness f = true) (hg : Modifier.isFuzziness g = true)
    (h : f.equal g = true) : f = g ∨ f.isZero ∧ g.isZero := by
  obtain ⟨p, hpf, hpg⟩ := equal_iff_position.mp h
  rcases Decidable.em (f.isZero) with hz | hz
  · have hp : p = .at 0 := by rw [isZero, hpf] at hz; exact Option.some.inj hz
    exact .inr ⟨hz, by rw [isZero, hpg, hp]⟩
  · have hz' : ¬g.isZero := by rwa [isZero, hpg, ← hpf]
    rcases cases_of_isFuzziness hf with rfl | rfl | ⟨s, u, rfl⟩
    · exact absurd (isZero_iff.mpr (.inl rfl)) hz
    · exact absurd (isZero_iff.mpr (.inr (.inl rfl))) hz
    · rcases cases_of_isFuzziness hg with rfl | rfl | ⟨t, v, rfl⟩
      · exact absurd (isZero_iff.mpr (.inl rfl)) hz'
      · exact absurd (isZero_iff.mpr (.inr (.inl rfl))) hz'
      · have hsu : Double.signedUnits s u = Double.signedUnits t v := by
          have := hpf.trans hpg.symm
          simpa [position?, Double.position?] using this
        have hu : u ≠ 0 := by
          rintro rfl
          exact hz (isZero_iff.mpr (.inr (.inr ⟨s, rfl⟩)))
        -- away from zero the sign shows, and with it the count of units
        have : s = t ∧ u = v := by
          cases s <;> cases t <;> simp [Double.signedUnits] at hsu ⊢ <;> omega
        exact .inl (by rw [this.1, this.2])

end Number

/-! ## Modifiers -/

namespace Modifier

variable {m n : Modifier}

/-- Two modifiers that are the same, but for the form of a zero as their fuzziness. -/
structure Twins (m n : Modifier) : Prop where
  occurrence : m.occurrence = n.occurrence
  split : m.split = n.split
  disjunct : m.disjunct = n.disjunct
  wildcarded : m.wildcarded = n.wildcarded
  fuzziness : m.fuzziness = n.fuzziness ∨
    ∃ f g, m.fuzziness = some f ∧ n.fuzziness = some g ∧ f.isZero ∧ g.isZero

theorem equalFuzziness_iff (hm : m.Valid) (hn : n.Valid) :
    equalFuzziness m.fuzziness n.fuzziness = true ↔ m.fuzziness = n.fuzziness ∨
      ∃ f g, m.fuzziness = some f ∧ n.fuzziness = some g ∧ f.isZero ∧ g.isZero := by
  cases hf : m.fuzziness with
  | none => cases hg : n.fuzziness <;> simp [equalFuzziness]
  | some f =>
    cases hg : n.fuzziness with
    | none => simp [equalFuzziness]
    | some g =>
      rw [equalFuzziness]
      constructor
      · intro h
        rcases Number.eq_or_zeros (hm f hf) (hn g hg) h with rfl | ⟨hzf, hzg⟩
        · exact .inl rfl
        · exact .inr ⟨f, g, rfl, rfl, hzf, hzg⟩
      · rintro (h | ⟨_, _, h, h', hzf, hzg⟩)
        · obtain rfl : f = g := Option.some.inj h
          exact Number.equal_self_of_isFuzziness (hm f hf)
        · cases h
          cases h'
          exact Number.equal_iff_position.mpr ⟨_, hzf, hzg⟩

/-- **Equal modifiers** are the same up to the form of a zero. -/
theorem equal_iff (hm : m.Valid) (hn : n.Valid) : m.equal n = true ↔ m.Twins n := by
  simp only [equal, Bool.and_eq_true, beq_iff_eq]
  rw [equalFuzziness_iff hm hn]
  constructor
  · rintro ⟨⟨⟨⟨ho, hs⟩, hd⟩, hw⟩, hf⟩
    exact ⟨ho, hs, hd, hw, hf⟩
  · rintro ⟨ho, hs, hd, hw, hf⟩
    exact ⟨⟨⟨⟨ho, hs⟩, hd⟩, hw⟩, hf⟩

theorem Twins.refl (m : Modifier) : m.Twins m := ⟨rfl, rfl, rfl, rfl, .inl rfl⟩

theorem Twins.eq_of_fuzziness (h : m.Twins n) (hf : m.fuzziness = n.fuzziness) : m = n := by
  obtain ⟨ho, hs, hd, hw, -⟩ := h
  cases m
  cases n
  simp_all

theorem equal_self (hm : m.Valid) : m.equal m = true := (equal_iff hm hm).mpr (.refl m)

/-! Whatever is derived from twins are twins. -/

theorem Twins.mark (h : m.Twins n) : m.mark = n.mark := by
  rw [Modifier.mark, Modifier.mark, h.occurrence]

theorem Twins.element (h : m.Twins n) : m.element.Twins n.element :=
  ⟨by rw [Modifier.element, Modifier.element, h.disjunct], h.split, h.disjunct, h.wildcarded,
    h.fuzziness⟩

theorem Twins.nested (h : m.Twins n) : m.nested.Twins n.nested :=
  ⟨rfl, h.split, h.disjunct, h.wildcarded, h.fuzziness⟩

end Modifier
end SearchQuery
