/-
  Decimal digits: writing a natural number and reading it again.

  1. **Value** — a text of digits is read digit by digit, so one text behind another counts for less by
     a power of ten (`digitsValue_append`).
  2. **Writing (`digitsValue_ofNat`)** — a number is read back from its digits; the induction is on the
     fuel of `digitsWithin`, over the digits that stand behind already.
  3. **Size (`ofNat_bounds`)** — the count of digits tells between which powers of ten a number lies.
-/
import SearchQuery.Proofs.Number.Alphabet
import SearchQuery.Double.Numeral

namespace SearchQuery

open Numeral (digitsValue isDigit)

/-! ## Digits -/

theorem Text.isDigit_of_mem {c : Char} (hc : c ∈ Text.digits) : isDigit c = true :=
  List.all_eq_true.mp (show Text.digits.all isDigit = true by decide) c hc

theorem Text.value_lt_of_mem {c : Char} (hc : c ∈ Text.digits) : c.toNat - '0'.toNat < 10 :=
  of_decide_eq_true (List.all_eq_true.mp
    (show Text.digits.all (fun c => decide (c.toNat - '0'.toNat < 10)) = true by decide) c hc)

theorem Text.value_digitChar {n : Nat} (hn : n < 10) : (Text.digitChar n).toNat - '0'.toNat = n := by
  have hall : ∀ k ∈ List.range 10, (Text.digitChar k).toNat - '0'.toNat = k := by decide
  exact hall n (List.mem_range.mpr hn)

/-! ## Value -/

theorem foldl_digits (t : Text) (n : Nat) :
    t.foldl (fun n c => 10 * n + (c.toNat - '0'.toNat)) n = n * Nat.pow 10 t.length + digitsValue t := by
  induction t generalizing n with
  | nil =>
    show n = n * 1 + 0
    omega
  | cons c t ih =>
    have hcons : digitsValue (c :: t) =
        t.foldl (fun n c => 10 * n + (c.toNat - '0'.toNat)) (10 * 0 + (c.toNat - '0'.toNat)) := rfl
    have hpow : Nat.pow 10 (c :: t).length = 10 * Nat.pow 10 t.length := Nat.pow_succ'
    rw [List.foldl_cons, ih, hcons, ih, hpow, Nat.add_mul, Nat.add_mul, Nat.mul_zero, Nat.zero_mul,
      Nat.mul_left_comm n, Nat.mul_assoc]
    omega

theorem digitsValue_cons (c : Char) (t : Text) :
    digitsValue (c :: t) = (c.toNat - '0'.toNat) * Nat.pow 10 t.length + digitsValue t := by
  have hzero : 10 * 0 + (c.toNat - '0'.toNat) = c.toNat - '0'.toNat := by omega
  show t.foldl (fun n c => 10 * n + (c.toNat - '0'.toNat)) (10 * 0 + (c.toNat - '0'.toNat)) = _
  rw [foldl_digits, hzero]

theorem digitsValue_append (s t : Text) :
    digitsValue (s ++ t) = digitsValue s * Nat.pow 10 t.length + digitsValue t := by
  rw [digitsValue, List.foldl_append, foldl_digits]
  rfl

theorem digitsValue_zeros (k : Nat) : digitsValue (List.replicate k '0') = 0 := by
  induction k with
  | zero => rfl
  | succ k ih =>
    rw [List.replicate_succ, digitsValue_cons, ih]
    show 0 * _ + 0 = 0
    omega

theorem digitsValue_lt {t : Text} (h : ∀ c ∈ t, c ∈ Text.digits) :
    digitsValue t < Nat.pow 10 t.length := by
  induction t with
  | nil => decide
  | cons c t ih =>
    have hc : c.toNat - '0'.toNat < 10 := Text.value_lt_of_mem (h c List.mem_cons_self)
    have ht := ih fun d hd => h d (List.mem_cons_of_mem c hd)
    have hpow : Nat.pow 10 (c :: t).length = 10 * Nat.pow 10 t.length := Nat.pow_succ'
    have hle := Nat.mul_le_mul_right (Nat.pow 10 t.length) (Nat.le_of_lt_succ hc)
    rw [digitsValue_cons, hpow]
    omega

/-! ## Writing -/

theorem digitsValue_digitsWithin {fuel n : Nat} (h : n < fuel) (acc : Text) :
    digitsValue (Text.digitsWithin fuel n acc) = n * Nat.pow 10 acc.length + digitsValue acc := by
  induction fuel generalizing n acc with
  | zero => omega
  | succ fuel ih =>
    have hmod : n % 10 < 10 := Nat.mod_lt n (by decide)
    have hcons := digitsValue_cons (Text.digitChar (n % 10)) acc
    rw [Text.value_digitChar hmod] at hcons
    rw [Text.digitsWithin]
    split
    · have hn : n % 10 = n := Nat.mod_eq_of_lt (by omega)
      rw [hcons, hn]
    · have hpow : Nat.pow 10 (Text.digitChar (n % 10) :: acc).length = 10 * Nat.pow 10 acc.length :=
        Nat.pow_succ'
      have hn : n = n / 10 * 10 + n % 10 := by omega
      rw [ih (by omega), hcons, hpow, ← Nat.mul_assoc, ← Nat.add_assoc, ← Nat.add_mul, ← hn]

/-- A number is read back from its digits. -/
theorem digitsValue_ofNat (n : Nat) : digitsValue (Text.ofNat n) = n := by
  rw [Text.ofNat, digitsValue_digitsWithin (Nat.lt_succ_self n)]
  show n * 1 + 0 = n
  omega

/-! ## Size -/

theorem length_digitsWithin {fuel n : Nat} (hn : n ≠ 0) (h : n < fuel) (acc : Text) :
    ∃ k, (Text.digitsWithin fuel n acc).length = acc.length + k + 1 ∧ Nat.pow 10 k ≤ n := by
  induction fuel generalizing n acc with
  | zero => omega
  | succ fuel ih =>
    rw [Text.digitsWithin]
    split
    · exact ⟨0, rfl, Nat.pos_of_ne_zero hn⟩
    · rename_i hdiv
      obtain ⟨k, hlen, hk⟩ := ih hdiv (by omega) (Text.digitChar (n % 10) :: acc)
      refine ⟨k + 1, ?_, ?_⟩
      · rw [hlen, List.length_cons]
        omega
      · have hpow : Nat.pow 10 (k + 1) = 10 * Nat.pow 10 k := Nat.pow_succ'
        rw [hpow]
        omega

/-- A positive number has as many digits as tell the powers of ten around it. -/
theorem ofNat_bounds {n : Nat} (hn : n ≠ 0) :
    ∃ k, (Text.ofNat n).length = k + 1 ∧ Nat.pow 10 k ≤ n ∧ n < Nat.pow 10 (k + 1) := by
  obtain ⟨k, hlen, hk⟩ := length_digitsWithin hn (Nat.lt_succ_self n) []
  have hlen : (Text.ofNat n).length = k + 1 := by
    show (Text.digitsWithin (n + 1) n []).length = k + 1
    rw [hlen]
    show 0 + k + 1 = k + 1
    omega
  have hlt := digitsValue_lt (Text.forall_mem_ofNat n)
  rw [digitsValue_ofNat, hlen] at hlt
  exact ⟨k, hlen, hk, hlt⟩

theorem ofNat_ne_nil (n : Nat) : Text.ofNat n ≠ [] := by
  intro h
  rcases Decidable.em (n = 0) with rfl | hn
  · exact absurd h (by decide)
  · obtain ⟨k, hlen, -⟩ := ofNat_bounds hn
    rw [h] at hlen
    exact absurd hlen (by simp)

end SearchQuery
