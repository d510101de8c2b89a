/-
  What numbers are worth exactly.

  An integer of any size and a number of double precision are both worth a rational number, or one of
  the two infinities, and only the number that is none is worth nothing.  Numbers are compared by
  places, that is by counts of a unit that is small enough for all of them; since every count is exact,
  that is the comparison of what they are worth (`Number.le_iff_worth`, `Number.lt_iff_worth`): no
  integer is rounded, however far it lies beyond the integers that double precision holds.
-/
import Mathlib.Algebra.Order.Field.Basic
import Mathlib.Algebra.Order.Field.Rat
import Mathlib.Data.Rat.Cast.Order
import Mathlib.Order.WithBot
import SearchQuery.Number
import SearchQuery.Proofs.Double.Rounding

namespace SearchQuery

/-- A rational number or an infinity. -/
abbrev Worth := WithBot (WithTop ℚ)

/-- What a number of double precision is worth. -/
def Double.worth? : Double → Option Worth
  | .nan => none
  | .infinity true => some ⊥
  | .infinity false => some ⊤
  | .finite s u => some ((signedUnits s u / unit : ℚ) : WithTop ℚ)

/-- What a number is worth; a truth value is worth one or zero. -/
def Number.worth? : Number → Option Worth
  | .flag b => some ((b.toNat : ℚ) : WithTop ℚ)
  | .int n => some ((n : ℚ) : WithTop ℚ)
  | .double x => x.worth?

/-! ## Places -/

namespace Double.Position

/-- What a number is worth that lies at a place. -/
def worth : Position → Worth
  | .below => ⊥
  | .at n => ((n / unit : ℚ) : WithTop ℚ)
  | .above => ⊤

/-- Counts of one unit are ordered as what they count to. -/
theorem worth_at_le_worth_at {m n : Int} : (Position.at m).worth ≤ (Position.at n).worth ↔ m ≤ n := by
  have hunit : (0 : ℚ) < unit := Nat.cast_pos.mpr unit_pos
  rw [worth, worth, WithBot.coe_le_coe, WithTop.coe_le_coe, div_le_div_iff_of_pos_right hunit,
    Int.cast_le]

/-- **Places are ordered** as what lies there is. -/
theorem le_iff_worth (p q : Position) : p.le q = true ↔ p.worth ≤ q.worth := by
  cases p with
  | below => exact iff_of_true rfl bot_le
  | «at» m =>
    cases q with
    | below => exact iff_of_false Bool.false_ne_true (WithBot.not_coe_le_bot _)
    | «at» n => rw [worth_at_le_worth_at, le, decide_eq_true_eq]
    | above => exact iff_of_true rfl le_top
  | above =>
    cases q with
    | below => exact iff_of_false Bool.false_ne_true (WithBot.not_coe_le_bot _)
    | «at» n =>
      have hlt : (Position.at n).worth < above.worth := WithBot.coe_lt_coe.mpr (WithTop.coe_lt_top _)
      exact iff_of_false Bool.false_ne_true (not_le_of_gt hlt)
    | above => exact iff_of_true rfl le_top

theorem lt_iff_worth (p q : Position) : p.lt q = true ↔ p.worth < q.worth := by
  rw [Position.lt, Bool.not_eq_true', ← Bool.not_eq_true, le_iff_worth, not_le]

end Double.Position

/-! ## Numbers -/

/-- An integer counts a whole unit for each one. -/
theorem Double.worth_positionOfInt (n : Int) :
    (Double.positionOfInt n).worth = ((n : ℚ) : WithTop ℚ) := by
  have hunit : (Double.unit : ℚ) ≠ 0 := Nat.cast_ne_zero.mpr unit_pos.ne'
  have hcancel : ((n * Double.unit : Int) : ℚ) / Double.unit = n := by
    push_cast
    exact mul_div_cancel_right₀ _ hunit
  rw [positionOfInt, Position.worth, hcancel]

namespace Number

variable {a b : Number}

/-- **The place of a number** says what it is worth. -/
theorem worth?_eq (a : Number) : a.worth? = a.position?.map Double.Position.worth := by
  cases a with
  | flag b =>
    rw [position?, Option.map_some, Double.worth_positionOfInt]
    rfl
  | int n =>
    rw [position?, Option.map_some, Double.worth_positionOfInt]
    rfl
  | double x =>
    cases x with
    | nan => rfl
    | infinity s => cases s <;> rfl
    | finite s u => rfl

/-- Only the number that is none is worth nothing. -/
theorem worth?_eq_none_iff : a.worth? = none ↔ a = .double .nan := by
  cases a with
  | flag b => exact iff_of_false (Option.some_ne_none _) nofun
  | int n => exact iff_of_false (Option.some_ne_none _) nofun
  | double x =>
    cases x with
    | nan => exact iff_of_true rfl rfl
    | infinity s => cases s <;> exact iff_of_false (Option.some_ne_none _) nofun
    | finite s u => exact iff_of_false (Option.some_ne_none _) nofun

/-- **Numbers are compared exactly**: one is at most another when both are worth something, and the
    one no more than the other. -/
theorem le_iff_worth :
    a.le b = true ↔ ∃ x y, a.worth? = some x ∧ b.worth? = some y ∧ x ≤ y := by
  rw [le, worth?_eq, worth?_eq]
  cases a.position? with
  | none => simp
  | some p =>
    cases b.position? with
    | none => simp
    | some q => simp [Double.Position.le_iff_worth]

theorem lt_iff_worth :
    a.lt b = true ↔ ∃ x y, a.worth? = some x ∧ b.worth? = some y ∧ x < y := by
  rw [lt, worth?_eq, worth?_eq]
  cases a.position? with
  | none => simp
  | some p =>
    cases b.position? with
    | none => simp
    | some q => simp [Double.Position.lt_iff_worth]

end Number

end SearchQuery
