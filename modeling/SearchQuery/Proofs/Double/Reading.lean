/-
  A number of double precision is read back from its text.

  1. **Texts of numbers (`double?_of_alphabet`)** — in the alphabet of numbers there are no blanks, no
     underscores and no digits of other scripts, so a sign and a first digit leave only the digits, the
     point and the exponent to be read.
  2. **Notations** — `decimal?_point` and `decimal?_exponent` read digits with a point and with an
     exponent.  Each of the three ways to place the point, and the notation with an exponent, gives the
     decimal that was written, or one of the same value.
  3. **Reading back (`double?_text`)** — what is read is the shortest decimal of the number, which is
     rounded to the number again.
-/
import SearchQuery.Proofs.Double.Shortest
import SearchQuery.Proofs.Number.Digits

namespace SearchQuery

open Numeral

/-! ## Texts of numbers -/

/-- In the alphabet of numbers nothing stands for something else, and nothing is skipped. -/
theorem plain_of_alphabet {c : Char} (hc : c ∈ Number.alphabet) :
    isSpace c = false ∧ c ≠ '_' ∧ ((Text.digitValue? c).map Text.digitChar).getD c = c := by
  have hall : Number.alphabet.all (fun c => !isSpace c && c != '_' &&
      ((Text.digitValue? c).map Text.digitChar).getD c == c) = true := by decide
  have h := List.all_eq_true.mp hall c hc
  simp only [Bool.and_eq_true, Bool.not_eq_true', bne_iff_ne, beq_iff_eq] at h
  exact ⟨h.1.1, h.1.2, h.2⟩

theorem dropWhile_of_none {p : Char → Bool} {t : Text} (h : ∀ c ∈ t, p c = false) :
    t.dropWhile p = t := by
  cases t with
  | nil => rfl
  | cons c t => rw [List.dropWhile_cons, h c List.mem_cons_self]; rfl

theorem normalize_of_alphabet {t : Text} (h : ∀ c ∈ t, c ∈ Number.alphabet) :
    Numeral.normalize t = t := by
  have hspace : ∀ c ∈ t, isSpace c = false := fun c hc => (plain_of_alphabet (h c hc)).1
  have hback : ∀ c ∈ t.reverse, isSpace c = false := fun c hc => hspace c (List.mem_reverse.mp hc)
  unfold Numeral.normalize
  rw [dropWhile_of_none hspace, dropWhile_of_none hback, List.reverse_reverse]
  refine (List.map_congr_left fun c hc => ?_).trans (List.map_id t)
  have hdigit := (plain_of_alphabet (h c hc)).2.2
  cases hv : Text.digitValue? c with
  | none => rfl
  | some d =>
    rw [hv] at hdigit
    exact hdigit

theorem dropUnderscores_of_none {t : Text} (h : ∀ c ∈ t, c ≠ '_') {previous : Option Char}
    (hp : previous ≠ some '_') : dropUnderscores previous t = some t := by
  induction t generalizing previous with
  | nil => rw [dropUnderscores, if_neg hp]
  | cons c t ih =>
    have hc : c ≠ '_' := h c List.mem_cons_self
    have hnext : some c ≠ some '_' := fun he => hc (Option.some.inj he)
    rw [dropUnderscores, ih (fun d hd => h d (List.mem_cons_of_mem c hd)) hnext]
    · simp [hp]
    · intro he
      exact absurd he hc

/-- A sign is taken off a text that goes on with a digit. -/
theorem takeSign_signText (s : Bool) {c : Char} (hc : c ∈ Text.digits) (t : Text) :
    takeSign (Double.signText s ++ c :: t) = (s, c :: t) := by
  have hplain : Text.digits.all (fun c => c != '-' && c != '+') = true := by decide
  have hfirst := List.all_eq_true.mp hplain c hc
  simp only [Bool.and_eq_true, bne_iff_ne] at hfirst
  obtain ⟨hminus, hplus⟩ := hfirst
  cases s with
  | true => rfl
  | false =>
    show takeSign (c :: t) = (false, c :: t)
    unfold takeSign
    split
    · rename_i he; cases he; exact absurd rfl hminus
    · rename_i he; cases he; exact absurd rfl hplus
    · rfl

/-- What is left to be read of a number that begins with a digit. -/
theorem double?_of_alphabet {t : Text} {c : Char} (s : Bool) (hc : c ∈ Text.digits)
    (ht : ∀ d ∈ t, d ∈ Number.alphabet) :
    double? (Double.signText s ++ c :: t) = decimal? s (c :: t) := by
  have hall : ∀ d ∈ Double.signText s ++ c :: t, d ∈ Number.alphabet := by
    apply Double.forall_mem_signed s
    intro d hd
    rcases List.mem_cons.mp hd with rfl | hd
    · exact Number.digits_subset hc
    · exact ht d hd
  have hnone : ∀ d ∈ Double.signText s ++ c :: t, d ≠ '_' := fun d hd =>
    (plain_of_alphabet (hall d hd)).2.1
  have hplain : Text.digits.all (fun c => smallLetter c != 'n' && smallLetter c != 'i') = true := by
    decide
  have hfirst := List.all_eq_true.mp hplain c hc
  simp only [Bool.and_eq_true, bne_iff_ne] at hfirst
  obtain ⟨hn, hi⟩ := hfirst
  have hnan : (c :: t).map smallLetter ≠ "nan".toList := by
    intro he
    exact hn (List.cons.inj he).1
  have hinf : ¬((c :: t).map smallLetter = "inf".toList ∨
      (c :: t).map smallLetter = "infinity".toList) := by
    rintro (he | he)
    · exact hi (List.cons.inj he).1
    · exact hi (List.cons.inj he).1
  unfold double?
  rw [normalize_of_alphabet hall, dropUnderscores_of_none hnone (by simp)]
  simp only [Option.bind_eq_bind, Option.bind_some, takeSign_signText s hc]
  rw [if_neg hnan, if_neg (by simpa using hinf)]

/-! ## Notations -/

theorem takeWhile_digits {t rest : Text} (ht : ∀ c ∈ t, c ∈ Text.digits)
    (hr : ∀ c ∈ rest.head?, isDigit c = false) :
    (t ++ rest).takeWhile isDigit = t ∧ (t ++ rest).dropWhile isDigit = rest := by
  have hdigit : ∀ c ∈ t, isDigit c = true := fun c hc => Text.isDigit_of_mem (ht c hc)
  have hstop : rest.takeWhile isDigit = [] ∧ rest.dropWhile isDigit = rest := by
    cases rest with
    | nil => exact ⟨rfl, rfl⟩
    | cons c rest =>
      have hc : isDigit c = false := hr c rfl
      rw [List.takeWhile_cons, List.dropWhile_cons, hc]
      exact ⟨rfl, rfl⟩
  rw [List.takeWhile_append_of_pos hdigit, List.dropWhile_append_of_pos hdigit, hstop.1, hstop.2,
    List.append_nil]
  exact ⟨rfl, rfl⟩

/-- Digits around a point. -/
theorem decimal?_point (s : Bool) {whole fraction rest : Text} {e : Int} (hw : whole ≠ [])
    (hwd : ∀ c ∈ whole, c ∈ Text.digits) (hfd : ∀ c ∈ fraction, c ∈ Text.digits)
    (hr : ∀ c ∈ rest.head?, isDigit c = false) (he : exponent? rest = some e) :
    decimal? s (whole ++ '.' :: (fraction ++ rest)) =
      some (.ofDecimal s (digitsValue (whole ++ fraction)) (e - fraction.length)) := by
  have hpoint : ∀ c ∈ ('.' :: (fraction ++ rest)).head?, isDigit c = false := by
    intro c hc
    cases hc
    decide
  obtain ⟨htw, hdw⟩ := takeWhile_digits hwd hpoint
  obtain ⟨htf, hdf⟩ := takeWhile_digits hfd hr
  have hnil : (whole.isEmpty && fraction.isEmpty) = false := by
    cases whole with
    | nil => exact absurd rfl hw
    | cons c whole => rfl
  unfold decimal?
  simp only [htw, hdw, htf, hdf, hnil, he, Bool.false_eq_true, if_false, Option.bind_eq_bind,
    Option.bind_some]

/-- Digits without a point. -/
theorem decimal?_whole (s : Bool) {whole rest : Text} {e : Int} (hw : whole ≠ [])
    (hwd : ∀ c ∈ whole, c ∈ Text.digits) (hr : ∀ c ∈ rest.head?, isDigit c = false ∧ c ≠ '.')
    (he : exponent? rest = some e) :
    decimal? s (whole ++ rest) = some (.ofDecimal s (digitsValue whole) e) := by
  obtain ⟨htw, hdw⟩ := takeWhile_digits hwd fun c hc => (hr c hc).1
  have hnil : whole.isEmpty = false := by
    cases whole with
    | nil => exact absurd rfl hw
    | cons c whole => rfl
  unfold decimal?
  simp only [htw, hdw]
  split
  · exact absurd rfl (hr '.' rfl).2
  · simp [hnil, he]

theorem digitsValue_padded (t : Text) : digitsValue ('0' :: t) = digitsValue t := by
  rw [digitsValue_cons]
  show 0 * _ + _ = _
  omega

theorem exponent?_exponentText (e : Int) : exponent? ('e' :: Double.exponentText e) = some e := by
  -- padded or not, the digits are digits and have the value of the exponent
  obtain ⟨digits, htext, hne, hall, hvalue⟩ : ∃ digits : Text,
      Double.exponentText e = (if e < 0 then '-' else '+') :: digits ∧ digits ≠ [] ∧
        digits.all isDigit = true ∧ digitsValue digits = e.natAbs := by
    have hall : (Text.ofNat e.natAbs).all isDigit = true := List.all_eq_true.mpr fun c hc =>
      Text.isDigit_of_mem (Text.forall_mem_ofNat _ c hc)
    by_cases hlen : (Text.ofNat e.natAbs).length < 2
    · refine ⟨'0' :: Text.ofNat e.natAbs, ?_, by simp, ?_, ?_⟩
      · rw [Double.exponentText, if_pos hlen]
      · rw [List.all_cons, hall]; decide
      · rw [digitsValue_padded, digitsValue_ofNat]
    · refine ⟨Text.ofNat e.natAbs, ?_, ofNat_ne_nil _, hall, digitsValue_ofNat _⟩
      rw [Double.exponentText, if_neg hlen]
  have hempty : digits.isEmpty = false := by simpa using hne
  rw [htext]
  unfold exponent?
  by_cases he : e < 0
  · have hneg : -(e.natAbs : Int) = e := by omega
    rw [if_pos he]
    simp only [takeSign, hempty, hall, hvalue, hneg]
    rfl
  · have hpos : (e.natAbs : Int) = e := by omega
    rw [if_neg he]
    simp only [takeSign, hempty, hall, hvalue, hpos]
    rfl

/-! ## Reading back -/

namespace Double

theorem mem_zeros {k : Nat} {c : Char} (hc : c ∈ List.replicate k '0') : c ∈ Text.digits := by
  rw [(List.mem_replicate.mp hc).2]
  decide

/-- The point behind the digits: what is read is another decimal of the same value. -/
theorem decimal?_plainText_right (s : Bool) {u digits e : Nat} (hu : IsMagnitude u) (hu0 : 0 < u)
    (h : readsBack u ⟨digits, e⟩ = true) :
    decimal? s (plainText (Text.ofNat digits) e) = some (.finite s u) := by
  have hd := Text.forall_mem_ofNat digits
  have htext : plainText (Text.ofNat digits) e =
      (Text.ofNat digits ++ List.replicate e '0') ++ '.' :: (['0'] ++ []) := by
    rw [plainText, if_pos (Int.natCast_nonneg e)]
    simp
  have hne : Text.ofNat digits ++ List.replicate e '0' ≠ [] := by
    simp [ofNat_ne_nil digits]
  have hwd : ∀ c ∈ Text.ofNat digits ++ List.replicate e '0', c ∈ Text.digits := by
    intro c hc
    rcases List.mem_append.mp hc with hc | hc
    · exact hd c hc
    · exact mem_zeros hc
  have hvalue : digitsValue (Text.ofNat digits ++ List.replicate e '0' ++ ['0']) =
      digits * Nat.pow 10 e * 10 := by
    rw [digitsValue_append, digitsValue_append, digitsValue_ofNat, digitsValue_zeros,
      List.length_replicate]
    rfl
  have hreads : readsBack u ⟨digits * Nat.pow 10 e * 10, -1⟩ = true := by
    have hzero := same_of_zero (n := digits * Nat.pow 10 e * 10) (-1) (Nat.mul_mod_left _ 10)
    rw [Nat.mul_div_cancel _ (by decide : 0 < 10)] at hzero
    rw [← readsBack_congr hzero, ← h]
    apply readsBack_congr
    show digits * Nat.pow 10 e * 1 * unit * 1 = digits * Nat.pow 10 e * unit * 1
    rw [Nat.mul_one (digits * Nat.pow 10 e)]
  rw [htext, decimal?_point s hne hwd (by simp [Text.digits]) (by simp) rfl, hvalue]
  exact congrArg some (ofDecimal_of_readsBack s hu hu0 hreads)

/-- The point among the digits, or before them. -/
theorem decimal?_plainText_left (s : Bool) (digits : Nat) {e : Int} (he : e < 0) :
    decimal? s (plainText (Text.ofNat digits) e) = some (.ofDecimal s digits e) := by
  have hd := Text.forall_mem_ofNat digits
  have hpos := List.length_pos_iff.mpr (ofNat_ne_nil digits)
  have hvalue := digitsValue_ofNat digits
  generalize Text.ofNat digits = t at hd hpos hvalue
  have he' : ¬0 ≤ e := by omega
  rw [plainText, if_neg he']
  by_cases hlead : 0 ≤ e + t.length - 1
  · have htext : t.take ((e + t.length - 1).toNat + 1) ++ '.' :: t.drop ((e + t.length - 1).toNat + 1) =
        t.take ((e + t.length - 1).toNat + 1) ++
          '.' :: (t.drop ((e + t.length - 1).toNat + 1) ++ []) := by rw [List.append_nil]
    have hne : t.take ((e + t.length - 1).toNat + 1) ≠ [] := by
      rw [← List.length_pos_iff, List.length_take]
      omega
    have hlen : (0 : Int) - (t.drop ((e + t.length - 1).toNat + 1)).length = e := by
      rw [List.length_drop]
      omega
    rw [if_pos hlead, htext, decimal?_point s hne (fun c hc => hd c (List.mem_of_mem_take hc))
      (fun c hc => hd c (List.mem_of_mem_drop hc)) (by simp) rfl, List.take_append_drop, hvalue, hlen]
  · have htext : ['0', '.'] ++ List.replicate (-(e + t.length - 1) - 1).toNat '0' ++ t =
        ['0'] ++ '.' :: (List.replicate (-(e + t.length - 1) - 1).toNat '0' ++ t ++ []) := by simp
    have hfd : ∀ c ∈ List.replicate (-(e + t.length - 1) - 1).toNat '0' ++ t, c ∈ Text.digits := by
      intro c hc
      rcases List.mem_append.mp hc with hc | hc
      · exact mem_zeros hc
      · exact hd c hc
    have hzero : digitsValue
        (['0'] ++ (List.replicate (-(e + t.length - 1) - 1).toNat '0' ++ t)) = digits := by
      rw [List.singleton_append, digitsValue_padded, digitsValue_append, digitsValue_zeros, hvalue]
      omega
    have hlen : (0 : Int) - (List.replicate (-(e + t.length - 1) - 1).toNat '0' ++ t).length = e := by
      rw [List.length_append, List.length_replicate]
      omega
    rw [if_neg hlead, htext, decimal?_point s (by simp) (by simp [Text.digits]) hfd (by simp) rfl, hzero,
      hlen]

/-- One digit before the point, and an exponent behind. -/
theorem decimal?_scientificText (s : Bool) (digits : Nat) (e : Int) :
    decimal? s (scientificText (Text.ofNat digits) e) = some (.ofDecimal s digits e) := by
  have hd := Text.forall_mem_ofNat digits
  have hne := ofNat_ne_nil digits
  have hvalue := digitsValue_ofNat digits
  generalize Text.ofNat digits = t at hd hne hvalue
  unfold scientificText
  match t with
  | [] => exact absurd rfl hne
  | [c] =>
    rw [decimal?_whole s (by simp) hd (by simp; decide) (exponent?_exponentText _), hvalue]
    congr 1
    simp
  | c :: c' :: ds =>
    have hlen : e + ((c :: c' :: ds).length : Int) - 1 - ((c' :: ds).length : Int) = e := by
      simp only [List.length_cons]
      omega
    have hc : ∀ x ∈ [c], x ∈ Text.digits := by
      intro x hx
      exact hd x (by simp_all)
    have htext : (c :: '.' :: c' :: ds) ++ 'e' :: exponentText (e + (c :: c' :: ds).length - 1) =
        [c] ++ '.' :: ((c' :: ds) ++ 'e' :: exponentText (e + (c :: c' :: ds).length - 1)) := rfl
    dsimp only
    rw [htext, decimal?_point s (by simp) hc (fun x hx => hd x (List.mem_cons_of_mem c hx))
      (by simp; decide) (exponent?_exponentText _), hlen]
    exact congrArg (fun v => some (ofDecimal s v e)) hvalue

/-- The text of a magnitude begins with a digit. -/
theorem magnitudeText_eq_cons (u : Nat) : ∃ c t, magnitudeText u = c :: t ∧ c ∈ Text.digits := by
  have hd := Text.forall_mem_ofNat (shortest u).digits
  have hne := ofNat_ne_nil (shortest u).digits
  unfold magnitudeText
  dsimp only
  generalize Text.ofNat (shortest u).digits = t at hd hne
  obtain ⟨c, t, rfl⟩ := List.exists_cons_of_ne_nil hne
  have hc := hd c List.mem_cons_self
  split
  · unfold plainText
    dsimp only
    split
    · exact ⟨c, _, rfl, hc⟩
    · split
      · exact ⟨c, _, rfl, hc⟩
      · exact ⟨'0', _, rfl, by decide⟩
  · unfold scientificText
    dsimp only
    cases t with
    | nil => exact ⟨c, _, rfl, hc⟩
    | cons c' t => exact ⟨c, _, rfl, hc⟩

theorem decimal?_magnitudeText (s : Bool) {u : Nat} (hu : IsMagnitude u) (hu0 : 0 < u) :
    decimal? s (magnitudeText u) = some (.finite s u) := by
  have hreads := readsBack_shortest hu0
  have hround : ofDecimal s (shortest u).digits (shortest u).exponent = .finite s u :=
    ofDecimal_of_readsBack s hu hu0 hreads
  unfold magnitudeText
  dsimp only
  generalize shortest u = d at hreads hround
  obtain ⟨digits, e⟩ := d
  split
  · cases e with
    | ofNat e => exact decimal?_plainText_right s hu hu0 hreads
    | negSucc e =>
      rw [decimal?_plainText_left s digits (Int.negSucc_lt_zero e)]
      exact congrArg some hround
  · rw [decimal?_scientificText]
    exact congrArg some hround

/-- **Reading back.**  A number of double precision is read from its text. -/
theorem double?_text {s : Bool} {u : Nat} (hu : IsMagnitude u) :
    double? (Double.finite s u).text = some (.finite s u) := by
  match u with
  | 0 => cases s <;> decide +kernel
  | u + 1 =>
    obtain ⟨c, t, htext, hc⟩ := magnitudeText_eq_cons (u + 1)
    have ht : ∀ d ∈ t, d ∈ Number.alphabet := by
      intro d hd
      apply forall_mem_magnitudeText (u + 1)
      rw [htext]
      exact List.mem_cons_of_mem c hd
    have hread := decimal?_magnitudeText s hu (Nat.succ_pos u)
    rw [htext] at hread
    show double? (signText s ++ magnitudeText (u + 1)) = _
    rw [htext, double?_of_alphabet s hc ht, hread]

end Double

end SearchQuery
