/-
  Numbers that are written as plain numbers.

  A plain number is made of digits, or of digits on both sides of a point.

  1. **The leading digit (`le_lead_iff`)** — the place of the leading digit of a decimal tells between
     which powers of ten its value lies.
  2. **Below one (`plain_lead_iff`)** — the shortest decimal of a magnitude is at least 10^-4 exactly if
     the magnitude is.  Rounding settles this for all magnitudes but the one of 10^-4 and the one before
     it, of which the shortest decimals are known.
  3. **Texts (`plainNumber_magnitudeText_iff`)** — with the point where it stands a decimal is a plain
     number; with an exponent it is not, and the sign of the exponent is a special character.
-/
import SearchQuery.Proofs.Double.Reading
import SearchQuery.Text.Escape

namespace SearchQuery

/-- A text that is a plain number. -/
def Text.PlainNumber (t : Text) : Prop :=
  ∃ whole fraction : Text, whole ≠ [] ∧ (∀ c ∈ whole, c ∈ digits) ∧ (∀ c ∈ fraction, c ∈ digits) ∧
    (t = whole ∨ fraction ≠ [] ∧ t = whole ++ '.' :: fraction)

/-- The characters of plain numbers. -/
theorem Text.PlainNumber.forall_mem {t : Text} (h : t.PlainNumber) :
    ∀ c ∈ t, c ∈ digits ∨ c = '.' := by
  obtain ⟨whole, fraction, -, hw, hf, rfl | ⟨-, rfl⟩⟩ := h
  · exact fun c hc => .inl (hw c hc)
  · intro c hc
    rcases List.mem_append.mp hc with hc | hc
    · exact .inl (hw c hc)
    · rcases List.mem_cons.mp hc with rfl | hc
      · exact .inr rfl
      · exact .inl (hf c hc)

theorem Text.PlainNumber.not_special {t : Text} (h : t.PlainNumber) :
    ∀ c ∈ t, isSpecial c = false := by
  have hall : digits.all (fun c => !isSpecial c) = true := by decide
  intro c hc
  rcases h.forall_mem c hc with hc | rfl
  · simpa using List.all_eq_true.mp hall c hc
  · decide

namespace Double

/-! ## The leading digit -/

/-- The exponent of the leading digit of a decimal. -/
def Decimal.lead (d : Decimal) : Int := d.exponent + (Text.ofNat d.digits).length - 1

/-- The leading digit of a decimal stands at `10 ^ -k` or before it exactly if its value is `10 ^ -k`
    at least. -/
theorem le_lead_iff {d : Decimal} (hd : d.digits ≠ 0) (k : Nat) :
    -(k : Int) ≤ d.lead ↔ unit * d.quotient.2 ≤ Nat.pow 10 k * d.quotient.1 := by
  obtain ⟨digits, e⟩ := d
  obtain ⟨j, hlen, hlow, hhigh⟩ := ofNat_bounds (n := digits) hd
  unfold Decimal.lead
  dsimp only
  rw [hlen]
  cases e with
  | ofNat e =>
    have hvalue : unit * 1 ≤ Nat.pow 10 k * (digits * Nat.pow 10 e * unit) := by
      have hpos : 0 < Nat.pow 10 k * (digits * Nat.pow 10 e) :=
        Nat.mul_pos (Nat.pow_pos (by decide))
          (Nat.mul_pos (Nat.pos_of_ne_zero hd) (Nat.pow_pos (by decide)))
      rw [Nat.mul_one, ← Nat.mul_assoc]
      exact Nat.le_mul_of_pos_left unit hpos
    have hlead : -(k : Int) ≤ Int.ofNat e + ((j + 1 : Nat) : Int) - 1 := by
      have : Int.ofNat e = (e : Int) := rfl
      omega
    exact ⟨fun _ => hvalue, fun _ => hlead⟩
  | negSucc e =>
    have hunit := unit_pos
    have hcancel : unit * Nat.pow 10 (e + 1) ≤ Nat.pow 10 k * (digits * unit) ↔
        Nat.pow 10 (e + 1) ≤ Nat.pow 10 k * digits := by
      rw [← Nat.mul_assoc, Nat.mul_comm unit]
      exact Nat.mul_le_mul_right_iff hunit
    show -(k : Int) ≤ Int.negSucc e + ((j + 1 : Nat) : Int) - 1 ↔
      unit * Nat.pow 10 (e + 1) ≤ Nat.pow 10 k * (digits * unit)
    rw [hcancel]
    constructor
    · intro h
      calc Nat.pow 10 (e + 1) ≤ Nat.pow 10 (k + j) := pow_ten_le (by omega)
        _ = Nat.pow 10 k * Nat.pow 10 j := (pow_ten_add k j).symm
        _ ≤ Nat.pow 10 k * digits := Nat.mul_le_mul_left _ hlow
    · intro h
      have hlt : Nat.pow 10 (e + 1) < Nat.pow 10 (k + (j + 1)) := by
        calc Nat.pow 10 (e + 1) ≤ Nat.pow 10 k * digits := h
          _ < Nat.pow 10 k * Nat.pow 10 (j + 1) :=
              Nat.mul_lt_mul_of_pos_left hhigh (Nat.pow_pos (by decide))
          _ = Nat.pow 10 (k + (j + 1)) := pow_ten_add k (j + 1)
      have := (Nat.pow_lt_pow_iff_right (by decide : 1 < 10)).mp hlt
      omega

/-! ## Below one -/

/-- The magnitude of 10^-4 and the one before it, with the places of their leading digits. -/
theorem exists_tenThousandth :
    ∃ c p, ofRatio false 1 10000 = .finite false c ∧ quantum p ∣ p ∧ c = p + quantum p ∧
      quantum c ∣ c ∧ unit ≤ c * 10000 ∧ p * 10000 ≤ unit ∧ (shortest c).lead = -4 ∧
      (shortest p).lead = -5 :=
  ⟨rounded unit 10000, rounded unit 10000 - Nat.pow 2 1008, by decide +kernel⟩

theorem rounded_shortest {u : Nat} (hu : quantum u ∣ u) (hu0 : 0 < u) :
    rounded (shortest u).quotient.1 (shortest u).quotient.2 = u := by
  obtain ⟨hlow, hhigh, hodd⟩ := readsBack_iff.mp (readsBack_shortest hu0)
  exact rounded_of_interval (shortest u).quotient_pos hu hlow hhigh hodd

/-- Below one, the leading digit stands behind the point. -/
theorem lead_lt {u : Nat} (hu : quantum u ∣ u) (hu0 : 0 < u) (hone : u < unit) :
    (shortest u).lead < 0 := by
  have hd := digits_ne_zero hu0 (readsBack_shortest hu0)
  have hround := rounded_shortest hu hu0
  rcases Int.lt_or_le (shortest u).lead 0 with h | h
  · exact h
  · have hvalue := (le_lead_iff hd 0).mp h
    have hle : unit ≤ rounded (shortest u).quotient.1 (shortest u).quotient.2 := by
      apply le_rounded (shortest u).quotient_pos quantum_dvd_unit
      calc unit * (shortest u).quotient.2 ≤ 1 * (shortest u).quotient.1 := hvalue
        _ = (shortest u).quotient.1 := Nat.one_mul _
    omega

/-- The leading digit stands at 10^-4 or before it exactly from the magnitude of 10^-4 on. -/
theorem le_lead_iff_le {c u : Nat} (hc : ofRatio false 1 10000 = .finite false c)
    (hu : quantum u ∣ u) (hu0 : 0 < u) : -4 ≤ (shortest u).lead ↔ c ≤ u := by
  obtain ⟨c', p, hc', hp, hcp, hcc, hcu, hpu, hleadc, hleadp⟩ := exists_tenThousandth
  obtain rfl : c' = c := by
    rw [hc'] at hc
    exact (Double.finite.inj hc).2
  have hd := digits_ne_zero hu0 (readsBack_shortest hu0)
  have hround := rounded_shortest hu hu0
  have hden := (shortest u).quotient_pos
  have hten : Nat.pow 10 4 = 10000 := rfl
  have hiff := le_lead_iff hd 4
  rw [hten] at hiff
  constructor
  · intro hlead
    rcases Nat.lt_or_ge u c' with hlt | hge
    · -- only the magnitude before 10^-4 could be left, and its shortest decimal is below
      have hvalue := hiff.mp hlead
      have hle : p ≤ rounded (shortest u).quotient.1 (shortest u).quotient.2 := by
        apply le_rounded hden hp
        have hmul := Nat.mul_le_mul_right (shortest u).quotient.2 hpu
        rw [Nat.mul_right_comm] at hmul
        omega
      have hup : u ≤ p := le_of_lt_next hp hu (by omega)
      obtain rfl : u = p := by omega
      omega
    · exact hge
  · intro hge
    rcases Int.lt_or_le (shortest u).lead (-4) with hlt | h
    · have hvalue : ¬unit * (shortest u).quotient.2 ≤ 10000 * (shortest u).quotient.1 :=
        fun h => by have := hiff.mpr h; omega
      have hle : rounded (shortest u).quotient.1 (shortest u).quotient.2 ≤ c' := by
        apply rounded_le hden hcc
        have hmul := Nat.mul_le_mul_right (shortest u).quotient.2 hcu
        rw [Nat.mul_right_comm] at hmul
        omega
      obtain rfl : u = c' := by omega
      omega
    · exact h

/-! ## Texts -/

/-- With the point where it stands, a decimal is a plain number. -/
theorem plainNumber_plainText (n : Nat) (e : Int) : (plainText (Text.ofNat n) e).PlainNumber := by
  have hd := Text.forall_mem_ofNat n
  have hpos := List.length_pos_iff.mpr (ofNat_ne_nil n)
  have hzeros : ∀ k : Nat, ∀ c ∈ List.replicate k '0', c ∈ Text.digits := fun k c hc => mem_zeros hc
  generalize Text.ofNat n = t at hd hpos
  have hne : t ≠ [] := List.length_pos_iff.mp hpos
  unfold plainText
  dsimp only
  split
  · refine ⟨t ++ List.replicate e.toNat '0', ['0'], by simp [hne], ?_, by simp [Text.digits],
      .inr ⟨by simp, by simp⟩⟩
    intro c hc
    rcases List.mem_append.mp hc with hc | hc
    · exact hd c hc
    · exact hzeros _ c hc
  · split
    · refine ⟨_, _, ?_, fun c hc => hd c (List.mem_of_mem_take hc),
        fun c hc => hd c (List.mem_of_mem_drop hc), .inr ⟨?_, rfl⟩⟩
      · rw [← List.length_pos_iff, List.length_take]
        omega
      · rw [← List.length_pos_iff, List.length_drop]
        omega
    · refine ⟨['0'], List.replicate (-(e + t.length - 1) - 1).toNat '0' ++ t, by simp,
        by simp [Text.digits], ?_, .inr ⟨by simp [hne], by simp⟩⟩
      intro c hc
      rcases List.mem_append.mp hc with hc | hc
      · exact hzeros _ c hc
      · exact hd c hc

/-- A negative exponent is written with a sign. -/
theorem minus_mem_scientificText {digits : Text} {e : Int} (h : e + digits.length - 1 < 0) :
    '-' ∈ scientificText digits e := by
  unfold scientificText exponentText
  dsimp only
  rw [if_pos h]
  apply List.mem_append_right
  simp

/-- **Below one**, a magnitude is written as a plain number from 10^-4 on, and with a minus sign before
    that. -/
theorem magnitudeText_below_one {c u : Nat} (hc : ofRatio false 1 10000 = .finite false c)
    (hu : quantum u ∣ u) (hu0 : 0 < u) (hone : u < unit) :
    (c ≤ u → (magnitudeText u).PlainNumber) ∧ (¬c ≤ u → '-' ∈ magnitudeText u) := by
  have hlt := lead_lt hu hu0 hone
  have hiff := le_lead_iff_le hc hu hu0
  have htext : magnitudeText u =
      if plainFrom ≤ (shortest u).lead ∧ (shortest u).lead < plainBelow then
        plainText (Text.ofNat (shortest u).digits) (shortest u).exponent
      else scientificText (Text.ofNat (shortest u).digits) (shortest u).exponent := rfl
  have hfrom : plainFrom = -4 := rfl
  have hbelow : plainBelow = 16 := rfl
  rw [htext, hfrom, hbelow]
  constructor
  · intro hge
    rw [if_pos ⟨hiff.mpr hge, by omega⟩]
    exact plainNumber_plainText _ _
  · intro hge
    rw [if_neg fun h => hge (hiff.mp h.1)]
    exact minus_mem_scientificText hlt

end Double
end SearchQuery
