/-
  The characters that numbers are written with.

  However a number is written — a truth value, an integer, a decimal with or without an exponent, an
  infinity or the number that is none — its text consists of ASCII digits, letters, the point and the
  two signs (`forall_mem_text`).  None of them is a quote, a parenthesis or a backslash.
-/
import SearchQuery.Number

namespace SearchQuery

namespace Text

/-- The digits of ASCII. -/
def digits : Text := ['0', '1', '2', '3', '4', '5', '6', '7', '8', '9']

theorem digitChar_mem {n : Nat} (hn : n < 10) : digitChar n ∈ digits := by
  have hall : ∀ k ∈ List.range 10, digitChar k ∈ digits := by decide
  exact hall n (List.mem_range.mpr hn)

theorem forall_mem_digitsWithin (fuel n : Nat) {acc : Text} (hacc : ∀ c ∈ acc, c ∈ digits) :
    ∀ c ∈ digitsWithin fuel n acc, c ∈ digits := by
  induction fuel generalizing n acc with
  | zero => exact hacc
  | succ fuel ih =>
    have hnext : ∀ c ∈ digitChar (n % 10) :: acc, c ∈ digits := by
      intro c hc
      rcases List.mem_cons.mp hc with rfl | hc
      · exact digitChar_mem (Nat.mod_lt n (by decide))
      · exact hacc c hc
    rw [digitsWithin]
    split
    · exact hnext
    · exact ih (n / 10) hnext

theorem forall_mem_ofNat (n : Nat) : ∀ c ∈ ofNat n, c ∈ digits :=
  forall_mem_digitsWithin (n + 1) n (by simp)

end Text

namespace Number

/-- The characters that stand in the text of some number. -/
def alphabet : Text := Text.digits ++ "+-.TFaefilnrsu".toList

theorem forall_mem_alphabet {t : Text} (h : t.all alphabet.contains = true) :
    ∀ c ∈ t, c ∈ alphabet := by
  intro c hc
  simpa using List.all_eq_true.mp h c hc

theorem digits_subset {c : Char} (hc : c ∈ Text.digits) : c ∈ alphabet :=
  List.mem_append_left _ hc

theorem forall_mem_ofInt (n : Int) : ∀ c ∈ Text.ofInt n, c ∈ alphabet := by
  intro c hc
  cases n with
  | ofNat n => exact digits_subset (Text.forall_mem_ofNat n c hc)
  | negSucc n =>
    rcases List.mem_cons.mp hc with rfl | hc
    · decide
    · exact digits_subset (Text.forall_mem_ofNat (n + 1) c hc)

end Number

namespace Double

open Number (alphabet)

theorem forall_mem_exponentText (e : Int) : ∀ c ∈ exponentText e, c ∈ alphabet := by
  have hsign : (if e < 0 then '-' else '+') ∈ alphabet := by split <;> decide
  intro c hc
  rcases List.mem_cons.mp hc with rfl | hc
  · exact hsign
  · split at hc
    · rcases List.mem_cons.mp hc with rfl | hc
      · decide
      · exact Number.digits_subset (Text.forall_mem_ofNat _ c hc)
    · exact Number.digits_subset (Text.forall_mem_ofNat _ c hc)

theorem forall_mem_plainText {digits : Text} (hd : ∀ c ∈ digits, c ∈ alphabet) (exponent : Int) :
    ∀ c ∈ plainText digits exponent, c ∈ alphabet := by
  have hpoint : '.' ∈ alphabet := by decide
  have hzero : '0' ∈ alphabet := by decide
  intro c hc
  unfold plainText at hc
  split at hc
  · simp only [List.mem_append, List.mem_replicate, List.mem_cons, List.not_mem_nil] at hc
    rcases hc with (hc | ⟨-, rfl⟩) | rfl | rfl | hc
    · exact hd c hc
    · exact hzero
    · exact hpoint
    · exact hzero
    · exact hc.elim
  · dsimp only at hc
    split at hc
    · rcases List.mem_append.mp hc with hc | hc
      · exact hd c (List.mem_of_mem_take hc)
      · rcases List.mem_cons.mp hc with rfl | hc
        · exact hpoint
        · exact hd c (List.mem_of_mem_drop hc)
    · simp only [List.mem_append, List.mem_replicate, List.mem_cons, List.not_mem_nil] at hc
      rcases hc with ((rfl | rfl | hc) | ⟨-, rfl⟩) | hc
      · exact hzero
      · exact hpoint
      · exact hc.elim
      · exact hzero
      · exact hd c hc

theorem forall_mem_scientificText {digits : Text} (hd : ∀ c ∈ digits, c ∈ alphabet)
    (exponent : Int) : ∀ c ∈ scientificText digits exponent, c ∈ alphabet := by
  intro c hc
  unfold scientificText at hc
  rcases List.mem_append.mp hc with hc | hc
  · rcases digits with _ | ⟨d, _ | ⟨d', ds⟩⟩
    · exact absurd hc List.not_mem_nil
    · exact hd c hc
    · rcases List.mem_cons.mp hc with rfl | hc
      · exact hd _ List.mem_cons_self
      · rcases List.mem_cons.mp hc with rfl | hc
        · decide
        · exact hd c (List.mem_cons_of_mem d hc)
  · rcases List.mem_cons.mp hc with rfl | hc
    · decide
    · exact forall_mem_exponentText _ c hc

theorem forall_mem_magnitudeText (units : Nat) : ∀ c ∈ magnitudeText units, c ∈ alphabet := by
  have hd : ∀ c ∈ Text.ofNat (shortest units).digits, c ∈ alphabet :=
    fun c hc => Number.digits_subset (Text.forall_mem_ofNat _ c hc)
  unfold magnitudeText
  dsimp only
  split
  · exact forall_mem_plainText hd _
  · exact forall_mem_scientificText hd _

theorem forall_mem_signed (s : Bool) {t : Text} (ht : ∀ c ∈ t, c ∈ alphabet) :
    ∀ c ∈ signText s ++ t, c ∈ alphabet := by
  have hs : ∀ c ∈ signText s, c ∈ alphabet := by
    cases s <;> exact Number.forall_mem_alphabet (by decide)
  intro c hc
  rcases List.mem_append.mp hc with hc | hc
  · exact hs c hc
  · exact ht c hc

theorem forall_mem_text (x : Double) : ∀ c ∈ x.text, c ∈ alphabet := by
  match x with
  | .nan => exact Number.forall_mem_alphabet (by decide)
  | .infinity s => exact forall_mem_signed s (Number.forall_mem_alphabet (by decide))
  | .finite s 0 => exact forall_mem_signed s (Number.forall_mem_alphabet (by decide))
  | .finite s (u + 1) => exact forall_mem_signed s (forall_mem_magnitudeText (u + 1))

end Double

/-- **Numbers are written in their alphabet.** -/
theorem Number.forall_mem_text (n : Number) : ∀ c ∈ n.text, c ∈ alphabet := by
  cases n with
  | flag b => cases b <;> exact forall_mem_alphabet (by decide)
  | int n => exact forall_mem_ofInt n
  | double x => exact x.forall_mem_text

end SearchQuery
