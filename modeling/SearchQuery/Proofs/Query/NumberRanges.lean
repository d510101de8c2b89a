/-
  Ranges between numbers.

  A range between two numbers can match something when the first is at most the second, and a call for
  one leaves it out when the first is above the second.  For numbers that are worth something this is
  the same question asked twice, and the answer is exact for integers of any size, numbers of double
  precision and the infinities, in every mixture.  The number that is none is neither at most another
  number nor above it, so a range with such a bound is written, though nothing lies in it.  An integer
  that is too long to be written is refused before anything is compared.

  1. **Numbers as bounds (`Value.IsNumeric`)** — each is a bound, is not blank, and is written in the
     same way into every query; `Value.AtMost` compares what two of them are worth.
  2. **Accepting (`IsNumeric.check_eq`)** — only what two such bounds are worth decides about a range.
  3. **Calls (`Query.Attained.writes_between_numbers`)** — the range is written, or nothing is, and the
     report says which.
-/
import SearchQuery.Proofs.Double.Reading
import SearchQuery.Proofs.Number.Worth
import SearchQuery.Proofs.Query.Attempt
import SearchQuery.Proofs.Query.Rendering

namespace SearchQuery

/-! ## Numbers as bounds -/

theorem Double.text_ne_nil (x : Double) : x.text ≠ [] := by
  match x with
  | .nan => decide
  | .infinity s => cases s <;> decide
  | .finite s 0 => cases s <;> decide
  | .finite s (u + 1) =>
    obtain ⟨c, t, htext, -⟩ := magnitudeText_eq_cons (u + 1)
    show signText s ++ magnitudeText (u + 1) ≠ []
    rw [htext]
    exact List.append_ne_nil_of_right_ne_nil _ (List.cons_ne_nil c t)

theorem Number.text_ne_nil (a : Number) : a.text ≠ [] := by
  cases a with
  | flag b => cases b <;> decide
  | int n =>
    cases n with
    | ofNat n => exact ofNat_ne_nil n
    | negSucc n => exact List.cons_ne_nil _ _
  | double x => exact x.text_ne_nil

/-- There is no blank in the alphabet of numbers. -/
theorem Number.isBlank_text (a : Number) : Text.isBlank a.text = false := by
  have hall : alphabet.all (fun c => !Text.isBlankChar c) = true := by decide
  obtain ⟨c, t, htext⟩ := List.exists_cons_of_ne_nil a.text_ne_nil
  have hc : c ∈ a.text := by rw [htext]; exact List.mem_cons_self
  have hblank : Text.isBlankChar c = false := by
    simpa using List.all_eq_true.mp hall c (a.forall_mem_text c hc)
  rw [htext, Text.isBlank, List.all_cons, hblank, Bool.false_and]

namespace Value

/-- A value that is a number, and no truth value. -/
inductive IsNumeric : Value → Prop
  | int (n : Int) : IsNumeric (.scalar (.number (.int n)))
  | double (x : Double) : IsNumeric (.scalar (.number (.double x)))
  /-- the number that is none, by its name -/
  | undefined : IsNumeric (.scalar .undefined)

/-- What a value is worth as a number. -/
def worth? : Value → Option Worth
  | .scalar (.number a) => a.worth?
  | _ => none

/-- Both values are worth something, and the first is worth no more than the second. -/
def AtMost (start stop : Value) : Prop :=
  ∃ x y, start.worth? = some x ∧ stop.worth? = some y ∧ x ≤ y

/-- A value that is worth nothing is not at most another, and none is at most it. -/
theorem not_atMost_of_none {start stop : Value} (h : start.worth? = none ∨ stop.worth? = none) :
    ¬ start.AtMost stop := by
  rintro ⟨x, y, hx, hy, -⟩
  rcases h with h | h
  · rw [h] at hx; cases hx
  · rw [h] at hy; cases hy

theorem atMost_number_iff {a b : Number} :
    AtMost (.scalar (.number a)) (.scalar (.number b)) ↔ a.le b = true :=
  Number.le_iff_worth.symm

theorem worth?_number_eq_none_iff {a : Number} :
    worth? (.scalar (.number a)) = none ↔ a = .double .nan :=
  Number.worth?_eq_none_iff

namespace IsNumeric

variable {start stop v : Value}

theorem bound_eq (hv : v.IsNumeric) (w : Surroundings) : v.bound w = some (v.asBound w) := by
  cases hv <;> rfl

theorem isBlank_written (hv : v.IsNumeric) (qs : Queries) : Text.isBlank (v.written qs) = false := by
  cases hv with
  | int n => exact (Number.int n).isBlank_text
  | double x => exact (Number.double x).isBlank_text
  | undefined => exact (Number.double .nan).isBlank_text

/-- The number that is compared is worth what the value is, and where none is compared the value is
    worth nothing. -/
theorem worth?_eq (hv : v.IsNumeric) : v.worth? = v.number?.bind Number.worth? := by
  cases hv <;> rfl

/-- **Bounds are the wrong way round** unless the first is at most the second, or one is worth
    nothing. -/
theorem inverted_eq_false_iff (hstart : start.IsNumeric) (hstop : stop.IsNumeric)
    (w : Surroundings) :
    Bound.inverted (start.asBound w) (stop.asBound w) = false
      ↔ start.AtMost stop ∨ start.worth? = none ∨ stop.worth? = none := by
  rw [AtMost, hstart.worth?_eq, hstop.worth?_eq, Bound.inverted, asBound, asBound]
  cases start.number? with
  | none => simp
  | some a =>
    cases stop.number? with
    | none => simp
    | some b =>
      simp only [Option.bind_some]
      rw [← Bool.not_eq_true, Number.lt_iff_worth]
      cases a.worth? with
      | none => simp
      | some x =>
        cases b.worth? with
        | none => simp
        | some y => simp

/-- Two numbers are both accepted as bounds, unless they are the wrong way round. -/
theorem check_eq (hstart : start.IsNumeric) (hstop : stop.IsNumeric) (w : Surroundings) (own : Text) :
    Bound.check own (start.bound w) (stop.bound w)
      = .ok (if Bound.inverted (start.asBound w) (stop.asBound w) then none
          else some (start.asBound w, stop.asBound w)) := by
  rw [hstart.bound_eq, hstop.bound_eq]
  have hshown : Text.isBlank ((start.asBound w).textIn own) = false := hstart.isBlank_written _
  have hshown' : Text.isBlank ((stop.asBound w).textIn own) = false := hstop.isBlank_written _
  simp only [Bound.check, hshown, hshown', Bool.false_or]
  split <;> rfl

/-- Both numbers are asked for their texts, as neither is absent or blank. -/
theorem boundsBreak_eq (hstart : start.IsNumeric) (hstop : stop.IsNumeric) (qs : Queries) :
    boundsBreak qs start stop = !(start.isWritable && stop.isWritable) := by
  have habsent : start.isAbsent = false := by cases hstart <;> rfl
  have habsent' : stop.isAbsent = false := by cases hstop <;> rfl
  simp only [boundsBreak, habsent, habsent', hstart.isBlank_written]
  cases start.isWritable <;> rfl

end IsNumeric

end Value

/-! ## Calls -/

/-- A call for a range between two numbers, in a field if a name is given. -/
structure NumberRange where
  around : Surroundings
  shelf : Shelf
  name : Option Text
  start : Value
  stop : Value
  arg : ModifierArg
  named : ∀ n, name = some n → Text.isBlank n = false
  start_numeric : start.IsNumeric
  stop_numeric : stop.IsNumeric
  arg_valid : arg.Valid

namespace NumberRange

variable (c : NumberRange)

/-- The call itself. -/
def call : Call :=
  match c.name with
  | none => .range c.start c.stop c.arg
  | some n => .rangeField (some n) c.start c.stop c.arg

/-- The range that is meant for a query. -/
def clause (q : Query) : Text :=
  renderRange q.text c.name (c.start.asBound c.around) (c.stop.asBound c.around)
    (c.arg.meant q.modifier false)

/-- Both bounds may be written. -/
def IsWritable : Prop := c.start.isWritable = true ∧ c.stop.isWritable = true

/-- Whether the bounds are the wrong way round. -/
def inverted : Bool := Bound.inverted (c.start.asBound c.around) (c.stop.asBound c.around)

/-- **The call returns**, and it writes its range unless the bounds are the wrong way round. -/
theorem run_call {q : Query} (hs : q.modifier.Valid) :
    c.call.run c.around ⟨q, c.shelf⟩ = (.ok (),
      ⟨if c.inverted then q.skipped else q.writeRange c.name (c.start.asBound c.around)
        (c.stop.asBound c.around) (c.arg.meant q.modifier false), c.shelf⟩) := by
  have hcheck := c.start_numeric.check_eq c.stop_numeric c.around q.text
  have hmeant := ModifierArg.resolve_eq hs c.arg_valid false
  unfold call inverted
  cases hname : c.name with
  | none =>
    simp only [run_range, hcheck, hmeant]
    cases Bound.inverted (c.start.asBound c.around) (c.stop.asBound c.around) <;> rfl
  | some n =>
    have hnamed : Text.isMissing (some n) = false := c.named n hname
    simp only [run_rangeField, hcheck, hmeant, hnamed]
    cases Bound.inverted (c.start.asBound c.around) (c.stop.asBound c.around) <;> rfl

/-- **An attempt** breaks off if a bound is too long to be written, and then nothing is written. -/
theorem attempt_call_of_not_isWritable (h : ¬ c.IsWritable) (q : Query) :
    c.call.attempt c.around ⟨q, c.shelf⟩ = (.error .unwritable, ⟨q, c.shelf⟩) := by
  have hbreak : Value.boundsBreak (c.around.when q.text) c.start c.stop = true := by
    rw [c.start_numeric.boundsBreak_eq c.stop_numeric, Bool.not_eq_true', Bool.eq_false_iff]
    exact fun hboth => h (Bool.and_eq_true_iff.mp hboth)
  have hb : c.call.breaks? c.around ⟨q, c.shelf⟩ = some { shelf := c.shelf } := by
    unfold call
    cases c.name <;> simp only [Call.breaks?, hbreak, if_true]
  exact Call.attempt_of_break hb

/-- Otherwise it returns as the run does. -/
theorem attempt_call (h : c.IsWritable) {q : Query} (hs : q.modifier.Valid) :
    c.call.attempt c.around ⟨q, c.shelf⟩ = (.ok (),
      ⟨if c.inverted then q.skipped else q.writeRange c.name (c.start.asBound c.around)
        (c.stop.asBound c.around) (c.arg.meant q.modifier false), c.shelf⟩) := by
  have hbreak : Value.boundsBreak (c.around.when q.text) c.start c.stop = false :=
    Value.boundsBreak_eq_false _ h.1 h.2
  refine Call.attempt_of_run ?_ (c.run_call hs)
  unfold call
  cases c.name <;> simp only [Call.breaks?, hbreak] <;> rfl

end NumberRange

namespace Query

/-- **Ranges between numbers.**  In every state, and with or without a field, a call for a range between
    two numbers returns if both may be written.  It writes the range and reports a success if the first
    is at most the second, by what they are exactly worth; if it is worth more, nothing is written and
    the report says so.  A number that is none is not at most another and none is at most it, but the
    range is written.  If a bound is too long to be written, the call is refused and leaves everything
    as it was. -/
theorem Attained.writes_between_numbers {q : Query} (hq : q.Attained) (hs : q.modifier.Valid)
    (c : NumberRange) :
    let r := c.call.attempt c.around ⟨q, c.shelf⟩
    let written := r.2.query.text = q.text ++ c.clause q ∧ r.2.query.succeeded = true
    let skipped := r.2.query.text = q.text ∧ r.2.query.succeeded = false
    (c.IsWritable → r.1 = .ok () ∧ (c.start.AtMost c.stop → written) ∧
      (c.start.worth? ≠ none → c.stop.worth? ≠ none → ¬ c.start.AtMost c.stop → skipped) ∧
      (c.start.worth? = none ∨ c.stop.worth? = none → ¬ c.start.AtMost c.stop ∧ written)) ∧
      (¬ c.IsWritable → r = (.error .unwritable, ⟨q, c.shelf⟩)) := by
  intro r written skipped
  refine ⟨fun hwritable => ?_, fun h => c.attempt_call_of_not_isWritable h q⟩
  have hr : r = _ := c.attempt_call hwritable hs
  have hinverted : c.inverted = false
      ↔ c.start.AtMost c.stop ∨ c.start.worth? = none ∨ c.stop.worth? = none :=
    c.start_numeric.inverted_eq_false_iff c.stop_numeric c.around
  have hwritten (h : c.inverted = false) : written := by
    have hwrote := wrote_writeRange hq.sound c.name (c.start.asBound c.around)
      (c.stop.asBound c.around) (c.arg.meant q.modifier false)
    simp only [written, hr, h]
    exact ⟨hwrote.text, rfl⟩
  have hskipped (h : c.inverted = true) : skipped := by
    simp only [skipped, hr, h]
    exact ⟨rfl, rfl⟩
  refine ⟨by rw [hr], fun hle => hwritten (hinverted.mpr (.inl hle)), fun hstart hstop hle => ?_,
    fun hnone => ⟨Value.not_atMost_of_none hnone, hwritten (hinverted.mpr (.inr hnone))⟩⟩
  refine hskipped (Bool.not_eq_false _ ▸ fun h => ?_)
  rcases hinverted.mp h with h | h | h
  · exact hle h
  · exact hstart h
  · exact hstop h

/-- An integer that double precision does not hold lies above the number that stands for it there: the
    range up to it is written, the range down from it is not.  A range up to an integer that is too
    long is refused. -/
theorem Attained.writes_between_numbers_unrounded :
    let w : Surroundings := ⟨⟨fun _ => [], fun _ => {}⟩, (· == .query 0)⟩
    let q := new none "(x) ".toList
    let rounded : Value := .scalar (.number (.double (.ofInt (2 ^ 53 + 1))))
    let whole : Value := .scalar (.number (.int (2 ^ 53 + 1)))
    let tooLong : Value := .scalar (.number (.int (Nat.pow 10 4300)))
    let up := (Call.range rounded whole (.mandatory true)).attempt w ⟨q, []⟩
    let down := (Call.rangeField (some ['f']) whole rounded (.mandatory true)).attempt w ⟨q, []⟩
    let far := (Call.range whole tooLong .absent).attempt w ⟨q, []⟩
    q.Attained ∧ rounded.AtMost whole ∧ ¬ whole.AtMost rounded ∧
      up.1 = .ok () ∧
      up.2.query.text = "(x) +[9007199254740992.0 TO 9007199254740993] ".toList ∧
      up.2.query.succeeded = true ∧ down.1 = .ok () ∧ down.2.query.text = "(x) ".toList ∧
      down.2.query.succeeded = false ∧ far = (.error .unwritable, ⟨q, []⟩) := by
  intro w q rounded whole tooLong up down far
  have hq : q.Attained := ⟨none, "(x) ".toList, [], rfl⟩
  have hs : q.modifier.Valid := by decide +kernel
  have hle : rounded.AtMost whole := Value.atMost_number_iff.mpr (by decide +kernel)
  have hnot : ¬ whole.AtMost rounded := fun h =>
    absurd (Value.atMost_number_iff.mp h) (by decide +kernel)
  have hfield : ∀ n, some ['f'] = some n → Text.isBlank n = false := by
    rintro n ⟨⟩
    decide
  have hwhole : whole.worth? ≠ none := fun h => absurd (Value.worth?_number_eq_none_iff.mp h) nofun
  have hworth : rounded.worth? ≠ none :=
    fun h => absurd (Value.worth?_number_eq_none_iff.mp h) (by decide +kernel)
  have hwritable : whole.isWritable = true := by decide +kernel
  let upward : NumberRange :=
    ⟨w, [], none, rounded, whole, .mandatory true, nofun, .double _, .int _, trivial⟩
  let downward : NumberRange :=
    ⟨w, [], some ['f'], whole, rounded, .mandatory true, hfield, .int _, .double _, trivial⟩
  let outward : NumberRange := ⟨w, [], none, whole, tooLong, .absent, nofun, .int _, .int _, trivial⟩
  have hlong : ¬ outward.IsWritable := fun h => absurd h.2 (by decide +kernel)
  have hrun : upward.call.attempt upward.around ⟨q, upward.shelf⟩ = up := rfl
  have hrun' : downward.call.attempt downward.around ⟨q, downward.shelf⟩ = down := rfl
  have hup := (hq.writes_between_numbers hs upward).1 ⟨rfl, hwritable⟩
  have hdown := (hq.writes_between_numbers hs downward).1 ⟨hwritable, rfl⟩
  have hfar := (hq.writes_between_numbers hs outward).2 hlong
  rw [hrun] at hup
  rw [hrun'] at hdown
  obtain ⟨htext, hsuccess⟩ := hup.2.1 hle
  obtain ⟨htext', hsuccess'⟩ := hdown.2.2.1 hwhole hworth hnot
  exact ⟨hq, hle, hnot, hup.1, htext.trans (by decide +kernel), hsuccess, hdown.1, htext', hsuccess',
    hfar⟩

/-- A range from the number that is none is written, although that is not at most any number. -/
theorem range_from_no_number :
    let w : Surroundings := ⟨⟨fun _ => [], fun _ => {}⟩, (· == .query 0)⟩
    let start : Value := .scalar (.number (.double .nan))
    let stop : Value := .scalar (.number (.int 1))
    let r := (Call.range start stop .absent).attempt w ⟨new none [], []⟩
    start.IsNumeric ∧ stop.IsNumeric ∧ ¬ start.AtMost stop ∧ r.1.isOk = true ∧
      r.2.query.text = "[nan TO 1] ".toList ∧ r.2.query.succeeded = true :=
  ⟨.double _, .int _, Value.not_atMost_of_none (.inl rfl), by decide +kernel, by decide +kernel,
    by decide +kernel⟩

end Query
end SearchQuery
