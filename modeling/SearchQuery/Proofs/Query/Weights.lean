/-
  Weights: what a boost says when it is read back.

  A factor is checked as it is given and written as it is cut, so what is written is another number.

  1. **Factors (`Boost.cases_of_isFactor`)** — a factor is the truth value true, a positive integer or a
     positive magnitude, below ten million.
  2. **The hundredfold (`Boost.hundredfold?_eq`)** — rounding keeps a hundred times a factor below 10^9,
     and on its side of one.  The crux is that there is no magnitude between a bound and its neighbour,
     so the factor next to the bound decides for all of them.
  3. **The cut (`Boost.cut_eq`)** — what is left after two decimal places is below ten million, and is
     zero exactly if the factor is below one hundredth.
  4. **Calls (`Query.Reached.boosts_read_back`)** — whichever call writes a boost, what it writes is read
     back as the factor that was cut.
-/
import SearchQuery.Proofs.Double.Reading
import SearchQuery.Proofs.Modifier.Equality
import SearchQuery.Proofs.Query.Run

namespace SearchQuery

namespace Boost

open Double (unit quantum maxUnits rounded IsMagnitude)

/-! ## Factors -/

theorem isFactor_finite (u : Nat) :
    isFactor (.double (.finite false u)) = true ↔ 0 < u ∧ u < 10000000 * unit := by
  simp only [isFactor, Number.lt, Number.position?, Double.position?, Double.positionOfInt,
    Double.signedUnits, Double.Position.lt, Double.Position.le, Bool.and_eq_true, Bool.not_eq_true',
    decide_eq_false_iff_not, Bool.false_eq_true, if_false, Int.zero_mul]
  generalize unit = one
  omega

/-- The forms of a factor. -/
theorem cases_of_isFactor {f : Number} (hf : isFactor f = true) :
    f = .flag true ∨ (∃ n : Nat, f = .int n ∧ 0 < n ∧ n < 10000000) ∨
      ∃ u, f = .double (.finite false u) ∧ 0 < u ∧ u < 10000000 * unit := by
  cases f with
  | flag b =>
    cases b with
    | true => exact .inl rfl
    | false =>
      simp [isFactor, Number.lt, Number.position?, Double.Position.lt, Double.Position.le_refl] at hf
  | int n =>
    obtain ⟨hlow, hhigh⟩ := Bool.and_eq_true_iff.mp hf
    rw [Number.int_lt_int] at hlow hhigh
    exact .inr (.inl ⟨n.toNat, by rw [Int.toNat_of_nonneg (Int.le_of_lt hlow)], by omega, by omega⟩)
  | double x =>
    cases x with
    | nan => exact absurd hf (by decide)
    | infinity s =>
      cases s with
      | false => exact absurd hf (by decide)
      | true => exact absurd hf (by decide)
    | finite s u =>
      cases s with
      | false => exact .inr (.inr ⟨u, rfl, (isFactor_finite u).mp hf⟩)
      | true =>
        simp only [isFactor, Number.lt, Number.position?, Double.position?, Double.positionOfInt,
          Double.signedUnits, Double.Position.lt, Double.Position.le, Bool.and_eq_true,
          Bool.not_eq_true', decide_eq_false_iff_not, if_true, Int.zero_mul] at hf
        omega

/-! ## The hundredfold -/

/-- The magnitude of one hundredth, the one before it, and what a hundred times that one cannot
    exceed. -/
theorem exists_hundredth :
    ∃ c p v, Double.ofRatio false 1 100 = .finite false c ∧ quantum p ∣ p ∧ c = p + quantum p ∧
      unit ≤ c * 100 ∧ c ≤ unit ∧ p * 100 ≤ v ∧ quantum v ∣ v ∧ v < unit :=
  ⟨rounded unit 100, rounded unit 100 - Nat.pow 2 1015, unit - Nat.pow 2 1021, by decide +kernel⟩

/-- The magnitude before ten million, and what a hundred times that one cannot exceed. -/
theorem exists_largest :
    ∃ p v, 10000000 * unit = p + quantum p ∧ quantum p ∣ p ∧ p * 100 ≤ v ∧ quantum v ∣ v ∧
      v < 1000000000 * unit ∧ v ≤ maxUnits :=
  ⟨10000000 * unit - Nat.pow 2 1045, 1000000000 * unit - Nat.pow 2 1051, by decide +kernel⟩

/-- One hundredth, in double precision. -/
def hundredth : Number := .double (.ofRatio false 1 100)

theorem hundredth_le_finite {c : Nat} (hc : Double.ofRatio false 1 100 = .finite false c) (u : Nat) :
    hundredth.le (.double (.finite false u)) = true ↔ c ≤ u := by
  simp [hundredth, hc, Number.le, Number.position?, Double.position?, Double.signedUnits,
    Double.Position.le]

/-- A number that stands where a positive integer does is one hundredth at least. -/
theorem hundredth_le_int {c n : Nat} {g : Number} (hc : Double.ofRatio false 1 100 = .finite false c)
    (h : c ≤ unit) (hg : g.position? = some (Double.positionOfInt n)) (hn : 0 < n) :
    hundredth.le g = true := by
  have hle : c ≤ n * unit := Nat.le_trans h (Nat.le_mul_of_pos_left unit hn)
  rw [Number.le, hg]
  simp only [hundredth, hc, Number.position?, Double.position?, Double.positionOfInt,
    Double.signedUnits, Double.Position.le, Bool.false_eq_true, if_false, decide_eq_true_eq]
  exact_mod_cast hle

theorem floor?_finite (v : Nat) : (Double.finite false v).floor? = some ((v / unit : Nat) : Int) := by
  show some (Int.fdiv (v : Int) (unit : Int)) = _
  rw [Int.natCast_ediv, Int.fdiv_eq_ediv_of_nonneg _ (Int.natCast_nonneg unit)]

/-- The hundredfold of a magnitude below ten million is below 10^9, and below one exactly when the
    magnitude is below one hundredth. -/
theorem hundredfold?_finite {u : Nat} (hu : IsMagnitude u) (hhigh : u < 10000000 * unit) :
    ∃ n : Nat, hundredfold? (.double (.finite false u)) = some (n : Int) ∧ n ≤ 999999999 ∧
      (0 < n ↔ hundredth.le (.double (.finite false u)) = true) := by
  obtain ⟨p, v, hp, hpp, hpv, hvv, hv, hmax⟩ := exists_largest
  obtain ⟨c, p', v', hc, hpp', hcp', hcu, -, hpv', hvv', hv'⟩ := exists_hundredth
  have hunit := Double.unit_pos
  have hle : rounded (u * 100) 1 ≤ v := by
    apply Double.rounded_le Nat.one_pos hvv
    have hup : u ≤ p := Double.le_of_lt_next hpp hu.quantum_dvd_self (by omega)
    omega
  have htimes : Double.timesNat (.finite false u) 100 = .finite false (rounded (u * 100) 1) := by
    rw [Double.timesNat]
    exact Double.ofQuotient_of_rounded false (Nat.le_trans hle hmax) rfl
  refine ⟨rounded (u * 100) 1 / unit, ?_, ?_, ?_⟩
  · rw [hundredfold?, htimes, floor?_finite]
  · have hlt : rounded (u * 100) 1 / unit < 1000000000 :=
      (Nat.div_lt_iff_lt_mul hunit).mpr (Nat.lt_of_le_of_lt hle hv)
    omega
  · rw [hundredth_le_finite hc, Nat.div_pos_iff]
    constructor
    · rintro ⟨-, hone⟩
      rcases Nat.lt_or_ge u c with hlt | hge
      · have hup : u ≤ p' := Double.le_of_lt_next hpp' hu.quantum_dvd_self (by omega)
        have hlow : rounded (u * 100) 1 ≤ v' := Double.rounded_le Nat.one_pos hvv' (by omega)
        omega
      · exact hge
    · intro hge
      exact ⟨hunit, Double.le_rounded Nat.one_pos Double.quantum_dvd_unit (by omega)⟩

/-- **The hundredfold** of a factor is cut to a whole number below 10^9, which is zero exactly for the
    factors below one hundredth. -/
theorem hundredfold?_eq {f : Number} (hf : isFactor f = true)
    (hr : ∀ x, f = .double x → x.Representable) :
    ∃ n : Nat, hundredfold? f = some (n : Int) ∧ n ≤ 999999999 ∧ (0 < n ↔ hundredth.le f = true) := by
  obtain ⟨c, -, -, hc, -, -, -, hcu, -⟩ := exists_hundredth
  rcases cases_of_isFactor hf with rfl | ⟨n, rfl, hlow, hhigh⟩ | ⟨u, rfl, -, hhigh⟩
  · exact ⟨100, rfl, by omega, fun _ => hundredth_le_int hc hcu rfl Nat.one_pos, fun _ => by omega⟩
  · refine ⟨n * 100, by simp [hundredfold?], by omega, ?_⟩
    exact ⟨fun _ => hundredth_le_int hc hcu rfl hlow, fun _ => by omega⟩
  · cases hr _ rfl with
    | finite s hu => exact hundredfold?_finite hu hhigh

/-! ## The cut -/

/-- A whole number below 10^9 over a hundred: below ten million, and zero only if the number is. -/
theorem exists_hundredths {n : Nat} (hn : n ≤ 999999999) :
    ∃ c, Double.ofRatio false n 100 = .finite false c ∧ IsMagnitude c ∧ c < 10000000 * unit ∧
      (0 < c ↔ 0 < n) := by
  obtain ⟨v, hvv, hnv, hv, hmax⟩ : ∃ v, quantum v ∣ v ∧ 999999999 * unit ≤ v * 100 ∧
      v < 10000000 * unit ∧ v ≤ maxUnits :=
    ⟨10000000 * unit - Nat.pow 2 1067, by decide +kernel⟩
  obtain ⟨low, hlow, hll, hlu⟩ : ∃ low, 0 < low ∧ quantum low ∣ low ∧ low * 100 ≤ unit :=
    ⟨Nat.pow 2 1067, by decide +kernel⟩
  have hden : 0 < 100 := by omega
  have hle : rounded (n * unit) 100 ≤ v := by
    apply Double.rounded_le hden hvv
    exact Nat.le_trans (Nat.mul_le_mul_right unit hn) hnv
  have hcle := Nat.le_trans hle hmax
  refine ⟨rounded (n * unit) 100, Double.ofQuotient_of_rounded false hcle rfl,
    ⟨hcle, Double.quantum_dvd_rounded hden⟩, by omega, ?_⟩
  constructor
  · intro hpos
    rcases Nat.eq_zero_or_pos n with rfl | h
    · have hzero : rounded (0 * unit) 100 ≤ 0 :=
        Double.rounded_le hden (Nat.dvd_zero _) (Nat.le_of_eq (by rw [Nat.zero_mul, Nat.zero_mul]))
      omega
    · exact h
  · intro hpos
    have hge : low ≤ rounded (n * unit) 100 := by
      apply Double.le_rounded hden hll
      exact Nat.le_trans hlu (Nat.le_mul_of_pos_left unit hpos)
    omega

/-- **The cut** of a factor is a magnitude below ten million, and zero exactly for the factors below one
    hundredth. -/
theorem cut_eq {f : Number} (hf : isFactor f = true) (hr : ∀ x, f = .double x → x.Representable) :
    ∃ c, cut f = .finite false c ∧ IsMagnitude c ∧ c < 10000000 * unit ∧
      (0 < c ↔ hundredth.le f = true) := by
  obtain ⟨n, hn, hle, hiff⟩ := hundredfold?_eq hf hr
  obtain ⟨c, hc, hmag, hlt, hpos⟩ := exists_hundredths hle
  refine ⟨c, ?_, hmag, hlt, hpos.trans hiff⟩
  have hsign : decide ((n : Int) < 0) = false := by simp
  rw [cut, hn]
  dsimp only
  rw [hsign, Int.natAbs_natCast, hc]

/-- What is read back of a factor that was written: the factor as it was cut, which is a factor again
    unless it was below one hundredth. -/
theorem read_cut {f : Number} (hf : check f = .ok ()) (hr : ∀ x, f = .double x → x.Representable) :
    Numeral.double? (cut f).text = some (cut f) ∧
      (check (.double (cut f)) = .ok () ↔ hundredth.le f = true) ∧
      (hundredth.le f = false → (cut f).text = "0.0".toList) := by
  obtain ⟨c, hc, hmag, hlt, hpos⟩ := cut_eq (check_eq_ok_iff.mp hf) hr
  rw [hc]
  refine ⟨Double.double?_text hmag, ?_, ?_⟩
  · rw [check_eq_ok_iff, isFactor_finite, ← hpos]
    exact ⟨fun h => h.1, fun h => ⟨h, hlt⟩⟩
  · intro hlow
    have hzero : c = 0 := by
      have : ¬0 < c := fun h => by rw [hpos.mp h] at hlow; cases hlow
      omega
    rw [hzero]
    rfl

end Boost

/-! ## Calls -/

namespace Query

variable {q : Query}

theorem text_after_field (hq : q.buffer.Sound) (w : Surroundings) (shelf : Shelf) (name : Option Text)
    (v : Value) (m : ModifierArg) (factor : Option Number) (allMembers : Option Bool) :
    (q.after ⟨w, shelf, .field name v m factor allMembers⟩).text = q.text ∨
      ∃ meant n inner, (q.after ⟨w, shelf, .field name v m factor allMembers⟩).text =
        q.text ++ renderField meant n inner factor := by
  have hrun : q.after ⟨w, shelf, .field name v m factor allMembers⟩ =
      ((Call.field name v m factor allMembers).run w ⟨q, shelf⟩).2.query := rfl
  rw [hrun, run_field]
  cases Boost.checkGiven factor with
  | error e => exact .inl rfl
  | ok =>
    unfold Scene.on
    dsimp only
    cases m.resolveField q.modifier v.isGroup allMembers with
    | error e => exact .inl rfl
    | ok m =>
      rcases Scene.query_putField_cases ⟨q, (v.settled shelf).2⟩ w name (v.settled shelf).1 m factor
        with hskipped | ⟨n, t, hwritten⟩
      · dsimp only
        rw [hskipped]
        exact .inl rfl
      · dsimp only
        rw [hwritten]
        exact .inr ⟨m, n, _, (wrote_writeField hq n m t factor).text⟩

/-- **A boost is read back as it was cut.**  A factor that is accepted is written behind the last clause,
    or behind the field that it was given for, unless it is one or there is nothing to write it behind.
    What is written is read back as the factor after it was cut, and that is a factor again exactly from
    one hundredth on; below, it is zero. -/
theorem Reached.boosts_read_back (hq : q.Reached) (w : Surroundings) (shelf : Shelf) {f : Number}
    (hf : Boost.check f = .ok ()) (hr : ∀ x, f = .double x → x.Representable) :
    let written := if f.equal (.int 1) then [] else '^' :: (Boost.cut f).text ++ [' ']
    (q.after ⟨w, shelf, .boost f⟩).text = q.text ++ (if q.succeeded then written else []) ∧
      (∀ name v m allMembers,
        let q' := q.after ⟨w, shelf, .field name v m (some f) allMembers⟩
        q'.text = q.text ∨ ∃ field, q'.text = q.text ++ field ++ [')', ' '] ++ written) ∧
      Numeral.double? (Boost.cut f).text = some (Boost.cut f) ∧
      (Boost.check (.double (Boost.cut f)) = .ok () ↔ Boost.hundredth.le f = true) ∧
      (Boost.hundredth.le f = false → (Boost.cut f).text = "0.0".toList) := by
  intro written
  refine ⟨?_, ?_, Boost.read_cut hf hr⟩
  · have hrun : q.after ⟨w, shelf, .boost f⟩ = ((Call.boost f).run w ⟨q, shelf⟩).2.query := rfl
    rw [hrun, run_boost, hf]
    exact (grew_writeBoost hq.sound f).text
  · intro name v m allMembers q'
    rcases text_after_field hq.sound w shelf name v m (some f) allMembers with h | ⟨meant, n, inner, h⟩
    · exact .inl h
    · refine .inr ⟨renderOpening meant n ++ if inner.isEmpty then ['"', '"'] else inner, ?_⟩
      show (q.after ⟨w, shelf, .field name v _ (some f) allMembers⟩).text = _
      rw [h]
      simp [renderField, renderBoost, written]

/-- The factor 0.29, of which the hundredfold is a little below 29. -/
theorem boosts_read_back_cut :
    let w : Surroundings := ⟨⟨fun _ => [], fun _ => {}⟩, (· == .query 0)⟩
    let q := (new none []).run [⟨w, [], .argument (.text ['x']) .absent⟩]
    let f : Number := .double (.ofRatio false 29 100)
    Boost.check f = .ok () ∧ (q.after ⟨w, [], .boost f⟩).text = "(x) ^0.28 ".toList ∧
      Numeral.double? (Boost.cut f).text = some (.ofRatio false 28 100) ∧
      Boost.check (.double (Boost.cut f)) = .ok () := by
  intro w q f
  have hq : q.Reached := ⟨none, [], _, rfl⟩
  have hf : Boost.check f = .ok () := Boost.check_eq_ok_iff.mpr (by decide +kernel)
  have hr : ∀ x, f = .double x → x.Representable := by
    intro x hx
    rw [← Number.double.inj hx]
    exact Double.representable_ofQuotient false (by decide)
  obtain ⟨htext, -, hread, hagain, -⟩ := hq.boosts_read_back w [] hf hr
  refine ⟨hf, ?_, ?_, ?_⟩
  · rw [htext]
    decide +kernel
  · rw [hread]
    decide +kernel
  · rw [hagain]
    decide +kernel

/-- A factor that is accepted, and is written as zero, which is none. -/
theorem boost_written_as_zero :
    let w : Surroundings := ⟨⟨fun _ => [], fun _ => {}⟩, (· == .query 0)⟩
    let q := (new none []).run [⟨w, [], .argument (.text ['x']) .absent⟩]
    let f : Number := .double (.ofRatio false 1 1000)
    Boost.check f = .ok () ∧ (q.after ⟨w, [], .boost f⟩).text = "(x) ^0.0 ".toList ∧
      Numeral.double? "0.0".toList = some (.finite false 0) ∧
      Boost.check (.double (.finite false 0)) = .error (.invalidBoost (.double (.finite false 0))) := by
  intro w q f
  refine ⟨Boost.check_eq_ok_iff.mpr ?_, ?_, ?_, if_neg ?_⟩
  · decide +kernel
  · decide +kernel
  · decide +kernel
  · decide +kernel

end Query
end SearchQuery
