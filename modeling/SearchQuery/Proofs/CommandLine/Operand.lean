/-
  What the values of the options say, and when they say anything.

  1. **Integers (`Numeral.int?_ofInt`)** — an integer is read back from its text unless it has more digits
     than a numeral may have; with more of them it is read as another bound.
  2. **Assignments and ranges** — the form of an assignment and of a range is told by the text alone: by
     what stands before its first equals sign, and behind it.  A value of that form is split there, any
     other is a fault that keeps the value (`assignment_eq`, `range_eq`).
  3. **Composed values (`operands_split_at_first`)** — the value of an assignment may hold equals signs, the
     end of a range may hold pairs of dots; the start of a range may not, nor end in a dot, which would
     be taken for the first of the pair.
-/
import SearchQuery.CommandLine.Operand
import SearchQuery.Proofs.Double.Reading
import SearchQuery.Proofs.Text.Cut

namespace SearchQuery

/-! ## Integers -/

namespace Numeral

theorem ofInt_eq (n : Int) :
    Text.ofInt n = Double.signText (decide (n < 0)) ++ Text.ofNat n.natAbs := by
  cases n with
  | ofNat n =>
    have hsign : decide (Int.ofNat n < 0) = false := decide_eq_false (by simp)
    rw [hsign]
    rfl
  | negSucc n =>
    have hsign : decide (Int.negSucc n < 0) = true := decide_eq_true (Int.negSucc_lt_zero n)
    rw [hsign]
    rfl

/-- **An integer is read back** from its text, if it has not too many digits. -/
theorem int?_ofInt (n : Int) : int? (Text.ofInt n) =
    if (Text.ofNat n.natAbs).length ≤ maxDigits then some n else none := by
  have hdigits := Text.forall_mem_ofNat n.natAbs
  have hall : (Text.ofNat n.natAbs).all isDigit = true :=
    List.all_eq_true.mpr fun c hc => Text.isDigit_of_mem (hdigits c hc)
  have hnone : dropUnderscores none (Text.ofNat n.natAbs) = some (Text.ofNat n.natAbs) :=
    dropUnderscores_of_none
      (fun c hc => (plain_of_alphabet (Number.digits_subset (hdigits c hc))).2.1) (by simp)
  have hsigned : takeSign (normalize (Text.ofInt n)) = (decide (n < 0), Text.ofNat n.natAbs) := by
    rw [normalize_of_alphabet (Number.forall_mem_ofInt n), ofInt_eq]
    cases ht : Text.ofNat n.natAbs with
    | nil => exact absurd ht (ofNat_ne_nil _)
    | cons c t => exact takeSign_signText _ (hdigits c (ht ▸ List.mem_cons_self)) t
  have hvalue : (if n < 0 then -(n.natAbs : Int) else n.natAbs) = n := by
    split <;> omega
  unfold int?
  rw [hsigned]
  simp only [hnone, Option.bind_eq_bind, Option.bind_some, digitsValue_ofNat, decide_eq_true_eq, hvalue]
  by_cases hlen : (Text.ofNat n.natAbs).length ≤ maxDigits
  · simp [hlen, hall, ofNat_ne_nil]
  · simp [hlen, Nat.lt_of_not_le hlen]

end Numeral

namespace CommandLine

theorem bound_ofInt_iff (n : Int) : bound (Text.ofInt n) = .number (.int n) ↔
    (Text.ofNat n.natAbs).length ≤ Numeral.maxDigits := by
  rw [bound, Numeral.int?_ofInt]
  by_cases hlen : (Text.ofNat n.natAbs).length ≤ Numeral.maxDigits
  · simp [hlen]
  · simp only [hlen, if_false, iff_false]
    split <;> simp

/-! ## Assignments and ranges -/

/-- What stands before the first equals sign of a value. -/
def namePart (raw : Text) : Text := raw.takeWhile (· != '=')

/-- What stands behind the first equals sign of a value. -/
def valuePart (raw : Text) : Text := (raw.dropWhile (· != '=')).tail

/-- Whether a value has the form of an assignment: an equals sign behind a name that is not blank. -/
structure IsAssignment (raw : Text) : Prop where
  sign : '=' ∈ raw
  name : Text.isBlank (namePart raw) = false

/-- Whether a value has the form of a range: an assignment with a pair of dots in its value. -/
structure IsRange (raw : Text) : Prop extends IsAssignment raw where
  dots : ['.', '.'] <:+: valuePart raw

variable {raw name value : Text}

theorem assignment_of_isAssignment (h : IsAssignment raw) :
    assignment raw = .ok (Text.strip (namePart raw), valuePart raw) := by
  rw [assignment, Text.cut_singleton, if_pos h.sign]
  exact if_neg (Bool.eq_false_iff.mp h.name)

theorem assignment_of_not (h : ¬ IsAssignment raw) :
    assignment raw = .error (.notAssignment raw) := by
  rw [assignment, Text.cut_singleton]
  by_cases hsign : '=' ∈ raw
  · rw [if_pos hsign]
    exact if_pos (Bool.not_eq_false _ ▸ fun hname => h ⟨hsign, hname⟩)
  · rw [if_neg hsign]

theorem range_of_isRange (h : IsRange raw) :
    ∃ start stop, Text.cut ['.', '.'] (valuePart raw) = some (start, stop) ∧
      range raw = .ok (Text.strip (namePart raw), bound start, bound stop) := by
  cases hcut : Text.cut ['.', '.'] (valuePart raw) with
  | none => exact absurd h.dots (Text.cut_eq_none_iff.mp hcut)
  | some parts =>
    refine ⟨parts.1, parts.2, rfl, ?_⟩
    rw [range, assignment_of_isAssignment h.toIsAssignment]
    simp only [bind, Except.bind, hcut]
    rfl

theorem range_of_not_isAssignment (h : ¬ IsAssignment raw) :
    range raw = .error (.notAssignment raw) := by
  rw [range, assignment_of_not h]
  rfl

theorem range_of_not_isRange (h : IsAssignment raw) (hrange : ¬ IsRange raw) :
    range raw = .error (.notRange raw) := by
  have hcut : Text.cut ['.', '.'] (valuePart raw) = none :=
    Text.cut_eq_none_iff.mpr fun hdots => hrange ⟨h, hdots⟩
  rw [range, assignment_of_isAssignment h]
  simp only [bind, Except.bind, hcut]
  rfl

/-! ## Composed values -/

/-- Before the first equals sign of a composed value stands its name, and behind it its value. -/
theorem parts_of_composed (hname : '=' ∉ name) (value : Text) :
    namePart (name ++ '=' :: value) = name ∧ valuePart (name ++ '=' :: value) = value := by
  have hall : ∀ c ∈ name, (c != '=') = true := fun c hc =>
    bne_iff_ne.mpr fun heq => hname (heq ▸ hc)
  rw [namePart, valuePart, List.takeWhile_append_of_pos hall, List.dropWhile_append_of_pos hall]
  simp

theorem isAssignment_composed (hname : '=' ∉ name) (hblank : Text.isBlank name = false) (value : Text) :
    IsAssignment (name ++ '=' :: value) :=
  ⟨by simp, by rwa [(parts_of_composed hname value).1]⟩

/-- **Values of options are split at their first separators**, and what has not their form is a fault that
    keeps the value.  The name of an assignment goes up to its first equals sign, its value behind it may
    hold others; the start of a range goes up to the first pair of dots, its end may hold others.  An
    integer of up to 4300 digits is a bound that stands for itself. -/
theorem operands_split_at_first :
    (∀ raw, (∃ r, assignment raw = .ok r) ↔ IsAssignment raw) ∧
    (∀ raw, ¬ IsAssignment raw → assignment raw = .error (.notAssignment raw)) ∧
    (∀ name value, '=' ∉ name → Text.isBlank name = false →
      assignment (name ++ '=' :: value) = .ok (Text.strip name, value)) ∧
    (∀ raw, (∃ r, range raw = .ok r) ↔ IsRange raw) ∧
    (∀ raw, ¬ IsAssignment raw → range raw = .error (.notAssignment raw)) ∧
    (∀ raw, IsAssignment raw → ¬ IsRange raw → range raw = .error (.notRange raw)) ∧
    (∀ name start stop, '=' ∉ name → Text.isBlank name = false →
      ¬ ['.', '.'] <:+: start → start.getLast? ≠ some '.' →
      range (name ++ '=' :: (start ++ (['.', '.'] ++ stop)))
        = .ok (Text.strip name, bound start, bound stop)) ∧
    ∀ n : Int, (Text.ofNat n.natAbs).length ≤ 4300 → bound (Text.ofInt n) = .number (.int n) := by
  refine ⟨fun raw => ?_, fun raw => assignment_of_not, fun name value hname hblank => ?_, fun raw => ?_,
    fun raw => range_of_not_isAssignment, fun raw => range_of_not_isRange,
    fun name start stop hname hblank hpair hend => ?_, fun n => (bound_ofInt_iff n).mpr⟩
  · by_cases h : IsAssignment raw
    · simp [assignment_of_isAssignment h, h]
    · simp [assignment_of_not h, h]
  · obtain ⟨hbefore, hbehind⟩ := parts_of_composed hname value
    rw [assignment_of_isAssignment (isAssignment_composed hname hblank value), hbefore, hbehind]
  · by_cases h : IsRange raw
    · obtain ⟨start, stop, -, hr⟩ := range_of_isRange h
      simp [hr, h]
    · by_cases hassigned : IsAssignment raw
      · simp [range_of_not_isRange hassigned h, h]
      · simp [range_of_not_isAssignment hassigned, h]
  · obtain ⟨hbefore, hbehind⟩ := parts_of_composed hname (start ++ (['.', '.'] ++ stop))
    have hdots : ['.', '.'] <:+: start ++ (['.', '.'] ++ stop) := ⟨start, stop, by simp⟩
    obtain ⟨start', stop', hcut, hr⟩ := range_of_isRange
      ⟨isAssignment_composed hname hblank _, hbehind.symm ▸ hdots⟩
    rw [hbehind, Text.cut_pair hpair hend] at hcut
    obtain ⟨rfl, rfl⟩ := Prod.mk.inj (Option.some.inj hcut)
    rw [hr, hbefore]

/-- A value with an equals sign, an end with a pair of dots, a single dot, and a name that is blank. -/
theorem operands_split_at_first_dots :
    assignment "\u3000t =a=b".toList = .ok ("t".toList, "a=b".toList) ∧
      range "y=-10..2..3".toList = .ok ("y".toList, .number (.int (-10)), bound "2..3".toList) ∧
      range "y=1.2".toList = .error (.notRange "y=1.2".toList) ∧
      assignment " =a".toList = .error (.notAssignment " =a".toList) := by
  obtain ⟨-, hnot, hcomposed, -, -, hnotRange, hrange, hint⟩ := operands_split_at_first
  have htext : Text.ofInt (-10) = "-10".toList := by decide
  have hten : bound "-10".toList = .number (.int (-10)) := htext ▸ hint (-10) (by decide)
  refine ⟨hcomposed "\u3000t ".toList "a=b".toList (by decide) (by decide), ?_,
    hnotRange _ ⟨by decide, by decide⟩ fun h => Text.cut_eq_none_iff.mp (by decide) h.dots,
    hnot _ fun h => absurd h.name (by decide)⟩
  rw [← hten]
  exact hrange "y".toList "-10".toList "2..3".toList (by decide) (by decide)
    (Text.cut_eq_none_iff.mp (by decide)) (by decide)

end CommandLine
end SearchQuery
