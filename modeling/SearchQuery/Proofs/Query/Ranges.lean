/-
  Ranges, read back.

  The bounds of a range may hold blanks, brackets and stars, or look like a range themselves.  As all
  of that is escaped in them, a reader who knows nothing of the bounds finds them again.  Only one
  thing may come as a surprise: a bound that shows the query that the range is written into is read
  when the mark and the field in front of the range are written already.

  1. **Reading (`readRange`)** — the first bracket that stands bare opens a range, the first closing
     one ends it, and the first bare blank in between begins the separator.  A bare star at the end of
     a bound makes it a beginning of words.
  2. **One range (`readRange_written`)** — is read as what it is, whatever stands behind it.
  3. **Calls (`Query.Ranging`)** — a call for a range whose modifier is found, whose bounds are
     accepted, and whose field is named without marks; it cannot be refused any more.
  4. **Ranges written by calls (`Query.Reached.ranges_read_back`)** — are read back, differ if their
     bounds do, and depend on nothing of the modifier but its mark and its wildcards.
-/
import SearchQuery.Proofs.Query.Balance
import SearchQuery.Proofs.Text.Bare
import SearchQuery.Proofs.Value.Agreement

namespace SearchQuery

open Text (escapeIf escapeAll escapeAll_eq isReserved untilBare readMarks)

/-! ## Reading -/

/-- A range as it is read: what stands in front of it, and its bounds, each with whether it is a
    beginning of words. -/
structure RangeClause where
  lead : Text
  start : Text × Bool
  stop : Text × Bool
  deriving DecidableEq, Repr

/-- Reads a bound.  A star that stands bare at its end does not belong to it. -/
def readBound (t : Text) : Option (Text × Bool) :=
  (readMarks t).map fun marks =>
    if marks.getLast? = some ('*', true) then (marks.dropLast.map Prod.fst, true)
    else (marks.map Prod.fst, false)

/-- Reads what stands between the brackets: the first bare blank begins the separator. -/
def readBounds (t : Text) : Option ((Text × Bool) × (Text × Bool)) :=
  match untilBare (· == ' ') t with
  | (start, ' ' :: 'T' :: 'O' :: ' ' :: stop) => do return (← readBound start, ← readBound stop)
  | _ => none

/-- Reads a range from the first opening bracket to the first closing one that stand bare, and gives
    back what is behind it. -/
def readRange (t : Text) : Option (RangeClause × Text) :=
  match untilBare (· == '[') t with
  | (lead, '[' :: t) =>
    match untilBare (· == ']') t with
    | (inside, ']' :: ' ' :: rest) =>
      (readBounds inside).map fun (start, stop) => (⟨lead, start, stop⟩, rest)
    | _ => none
  | _ => none

/-! ## One range -/

/-- A bound as it is written. -/
def writeBound : Text × Bool → Text
  | (v, star) => escapeAll v ++ if star then ['*'] else []

/-- A range as it is written. -/
def RangeClause.written (r : RangeClause) : Text :=
  r.lead ++ ['['] ++ writeBound r.start ++ [' ', 'T', 'O', ' '] ++ writeBound r.stop ++ [']', ' ']

theorem readBound_writeBound (b : Text × Bool) : readBound (writeBound b) = some b := by
  obtain ⟨v, star⟩ := b
  unfold readBound writeBound
  cases star with
  | true =>
    have hread := Text.readMarks_escapeIf_append (p := isReserved) (by decide) v ['*']
    have hstar : readMarks ['*'] = some [('*', true)] := by decide
    simp [escapeAll_eq, hread, hstar, Function.comp_def]
  | false =>
    have hread := Text.readMarks_escapeIf (p := isReserved) (by decide) v
    -- The last character of the bound may be a star, but no bare one.
    have hlast : (v.map fun c => (c, !isReserved c)).getLast? ≠ some ('*', true) := by
      intro h
      rw [List.getLast?_map] at h
      obtain ⟨c, -, hc⟩ := Option.map_eq_some_iff.mp h
      obtain ⟨rfl, hbare⟩ := Prod.mk.inj hc
      exact absurd hbare (by decide)
    have hchars : (v.map fun c => (c, !isReserved c)).map Prod.fst = v := by
      rw [List.map_map]
      exact List.map_id v
    simp only [Bool.false_eq_true, if_false, List.append_nil, escapeAll_eq, hread,
      Option.map_some, if_neg hlast, hchars]

section Steps

variable {p : Char → Bool} (hreserved : ∀ c, p c = true → isReserved c = true) (hstar : p '*' = false)
include hreserved hstar

/-- A bound is stepped over by every reader that looks for reserved characters other than stars. -/
theorem untilBare_writeBound (b : Text × Bool) (t : Text) :
    untilBare p (writeBound b ++ t)
      = (writeBound b ++ (untilBare p t).1, (untilBare p t).2) := by
  obtain ⟨v, star⟩ := b
  have hplain : ∀ c ∈ (if star then ['*'] else [] : Text), c ≠ '\\' ∧ p c = false := by
    intro c hc
    cases star with
    | true => obtain rfl := List.mem_singleton.mp hc; exact ⟨by decide, hstar⟩
    | false => cases hc
  rw [writeBound, List.append_assoc, escapeAll_eq,
    Text.untilBare_escapeIf (by decide) hreserved, Text.untilBare_plain hplain, List.append_assoc]

theorem untilBare_writeBound_stop (b : Text × Bool) {c : Char} (hc : c ≠ '\\') (hp : p c = true)
    (t : Text) : untilBare p (writeBound b ++ c :: t) = (writeBound b, c :: t) := by
  rw [untilBare_writeBound hreserved hstar, Text.untilBare_stop hc hp, List.append_nil]

end Steps

theorem isReserved_of_beq {d : Char} (hd : isReserved d = true) (c : Char) (hc : (c == d) = true) :
    isReserved c = true := by
  rw [eq_of_beq hc]
  exact hd

theorem readBounds_written (a b : Text × Bool) :
    readBounds (writeBound a ++ [' ', 'T', 'O', ' '] ++ writeBound b) = some (a, b) := by
  have huntil := untilBare_writeBound_stop (p := (· == ' ')) (isReserved_of_beq (by decide))
    (by decide) a (c := ' ') (by decide) (by decide) ('T' :: 'O' :: ' ' :: writeBound b)
  have hshape : writeBound a ++ [' ', 'T', 'O', ' '] ++ writeBound b
      = writeBound a ++ ' ' :: 'T' :: 'O' :: ' ' :: writeBound b := by simp
  rw [hshape, readBounds, huntil]
  simp [readBound_writeBound]

/-- **A range is read as what it is**, whatever its bounds hold and whatever stands behind it. -/
theorem readRange_written {r : RangeClause} (hlead : ∀ c ∈ r.lead, c ≠ '\\' ∧ c ≠ '[')
    (rest : Text) : readRange (r.written ++ rest) = some (r, rest) := by
  obtain ⟨lead, start, stop⟩ := r
  let inside := writeBound start ++ [' ', 'T', 'O', ' '] ++ writeBound stop
  have hplain : ∀ c ∈ lead, c ≠ '\\' ∧ (c == '[') = false := by
    intro c hc
    obtain ⟨hslash, hbracket⟩ := hlead c hc
    exact ⟨hslash, by simpa using hbracket⟩
  have hopen : untilBare (· == '[') (lead ++ '[' :: (inside ++ ']' :: ' ' :: rest))
      = (lead, '[' :: (inside ++ ']' :: ' ' :: rest)) := by
    rw [Text.untilBare_plain hplain, Text.untilBare_stop (by decide) (by decide), List.append_nil]
  have hclose : untilBare (· == ']') (inside ++ ']' :: ' ' :: rest)
      = (inside, ']' :: ' ' :: rest) := by
    have hbounds := untilBare_writeBound (p := (· == ']')) (isReserved_of_beq (by decide))
      (by decide)
    have hto : ∀ c ∈ [' ', 'T', 'O', ' '], c ≠ '\\' ∧ (c == ']') = false := by simp
    simp only [inside, List.append_assoc]
    rw [hbounds, Text.untilBare_plain hto, hbounds, Text.untilBare_stop (by decide) (by decide),
      List.append_nil]
  have hshape : (RangeClause.mk lead start stop).written ++ rest
      = lead ++ '[' :: (inside ++ ']' :: ' ' :: rest) := by
    simp [RangeClause.written, inside]
  rw [hshape, readRange, hopen]
  simp only [hclose, inside, readBounds_written, Option.map_some]

/-- Ranges that are written alike are alike: both are what is read. -/
theorem RangeClause.written_inj {r r' : RangeClause} (hr : ∀ c ∈ r.lead, c ≠ '\\' ∧ c ≠ '[')
    (hr' : ∀ c ∈ r'.lead, c ≠ '\\' ∧ c ≠ '[') (h : r'.written = r.written) : r' = r := by
  have hread := readRange_written hr' []
  rw [h, readRange_written hr] at hread
  exact (Prod.mk.inj (Option.some.inj hread)).1.symm

theorem renderRange_eq (own : Text) (field : Option Text) (start stop : Bound) (m : Modifier) :
    let lead := (Query.rangeLead field m).flatten
    renderRange own field start stop m
      = RangeClause.written ⟨lead, (start.textIn (own ++ lead), m.wildcarded),
          (stop.textIn (own ++ lead), m.wildcarded)⟩ := by
  simp [renderRange, RangeClause.written, writeBound]

/-! ## Calls -/

/-- The bounds that are accepted are those that were given. -/
theorem Bound.of_check {own : Text} {start stop : Option Bound} {a b : Bound}
    (h : check own start stop = .ok (some (a, b))) : start = some a ∧ stop = some b := by
  cases start with
  | none => cases h
  | some a' =>
    cases stop with
    | none => cases h
    | some b' =>
      rw [check] at h
      split at h
      · cases h
      · cases h
        exact ⟨rfl, rfl⟩

theorem Value.eq_asBound {w : Surroundings} {v : Value} {b : Bound} (h : v.bound w = some b) :
    b = v.asBound w := by
  rw [bound] at h
  split at h
  · cases h
  · exact (Option.some.inj h).symm

namespace Query

/-- A call for a range that is written into `q`: its modifier is found, its bounds are accepted, and
    its field, if it has one, is named, and without marks. -/
structure Ranging (q : Query) where
  around : Surroundings
  shelf : Shelf
  name : Option Text
  start : Value
  stop : Value
  arg : ModifierArg
  modifier : Modifier
  meant : arg.resolve q.modifier false = .ok modifier
  accepted : ∃ bounds, Bound.check q.text (start.bound around) (stop.bound around)
    = .ok (some bounds)
  named : ∀ n, name = some n → Text.isBlank n = false ∧ n.Unmarked

namespace Ranging

variable {q : Query} (c : q.Ranging)

/-- The call itself. -/
def call : Call :=
  match c.name with
  | none => .range c.start c.stop c.arg
  | some n => .rangeField (some n) c.start c.stop c.arg

/-- How the call ends. -/
def outcome : Except QueryError Unit × Scene := c.call.run c.around ⟨q, c.shelf⟩

/-- The mark, and the field with its colon. -/
def lead : Text :=
  c.modifier.mark ++ match c.name with
    | none => []
    | some n => n ++ [':']

/-- The texts of the two bounds while the text of the query is `own`. -/
def forms (own : Text) : Text × Text :=
  (c.start.written (c.around.when own), c.stop.written (c.around.when own))

/-- What the call writes: the bounds are read when the lead stands there already. -/
def clause : RangeClause :=
  let forms := c.forms (q.text ++ c.lead)
  ⟨c.lead, (forms.1, c.modifier.wildcarded), (forms.2, c.modifier.wildcarded)⟩

/-- Whether the texts of the bounds are the same before the lead and behind it: there is none, or no
    bound shows the query. -/
def Steady : Prop :=
  c.lead = [] ∨
    c.start.mentions c.around.isReceiver = false ∧ c.stop.mentions c.around.isReceiver = false

theorem flatten_rangeLead : (rangeLead c.name c.modifier).flatten = c.lead := by
  unfold rangeLead lead
  cases hname : c.name with
  | none => simp
  | some n =>
    have hne : n.isEmpty = false := by
      cases n with
      | nil => cases (c.named [] hname).1
      | cons d n => rfl
    simp [hne]

/-- No character of the lead opens a range or takes a meaning away. -/
theorem plain_lead : ∀ d ∈ c.lead, d ≠ '\\' ∧ d ≠ '[' := by
  have hmark : c.modifier.mark.all (fun d => d != '\\' && d != '[') = true := by
    rw [Modifier.mark]
    cases c.modifier.occurrence <;> decide
  intro d hd
  rcases List.mem_append.mp hd with hd | hd
  · simpa using List.all_eq_true.mp hmark d hd
  · cases hname : c.name with
    | none => rw [hname] at hd; cases hd
    | some n =>
      rw [hname] at hd
      rcases List.mem_append.mp hd with hd | hd
      · obtain ⟨hspecial, -⟩ := (c.named n hname).2 d hd
        constructor
        · rintro rfl; exact absurd hspecial (by decide)
        · rintro rfl; exact absurd hspecial (by decide)
      · obtain rfl := List.mem_singleton.mp hd
        decide

/-- **The call cannot be refused**, and changes nothing but the query. -/
theorem outcome_eq : c.outcome
    = (.ok (), ⟨q.writeRange c.name (c.start.asBound c.around) (c.stop.asBound c.around) c.modifier,
        c.shelf⟩) := by
  obtain ⟨⟨a, b⟩, haccepted⟩ := c.accepted
  obtain ⟨hstart, hstop⟩ := Bound.of_check haccepted
  obtain rfl := Value.eq_asBound hstart
  obtain rfl := Value.eq_asBound hstop
  unfold outcome call
  cases hname : c.name with
  | none =>
    simp only [run_range, haccepted, c.meant]
    rfl
  | some n =>
    have hnamed : Text.isMissing (some n) = false := (c.named n hname).1
    simp only [run_rangeField, haccepted, c.meant, hnamed]
    rfl

theorem text_outcome (hq : q.buffer.Sound) :
    c.outcome.2.query.text = q.text ++ c.clause.written := by
  have hwrote := wrote_writeRange hq c.name (c.start.asBound c.around) (c.stop.asBound c.around)
    c.modifier
  rw [c.outcome_eq]
  show (q.writeRange c.name _ _ c.modifier).text = _
  rw [hwrote.text, renderRange_eq, c.flatten_rangeLead]
  rfl

/-- Bounds that do not show the query have one text. -/
theorem Steady.forms_eq {c : q.Ranging} (h : c.Steady) :
    c.forms (q.text ++ c.lead) = c.forms q.text := by
  rcases h with hlead | ⟨hstart, hstop⟩
  · rw [hlead, List.append_nil]
  · have hagree : (c.around.when q.text).AgreeBut c.around.isReceiver
        (c.around.when (q.text ++ c.lead)) :=
      ⟨fun h hh => by simp [Surroundings.when, hh], fun _ _ => rfl⟩
    rw [forms, forms, Value.written_congr hagree hstart, Value.written_congr hagree hstop]

/-- The query itself is written as the text that it has at the time. -/
theorem written_receiver {h : Handle} (hh : c.around.isReceiver h = true) (own : Text) :
    (Value.query h).written (c.around.when own) = own := by
  simp [Value.written, Surroundings.when, hh]

/-- What is written depends on the modifier only by its mark and its wildcards. -/
theorem clause_congr {c c' : q.Ranging} (haround : c'.around = c.around) (hname : c'.name = c.name)
    (hstart : c'.start = c.start) (hstop : c'.stop = c.stop)
    (hoccurrence : c'.modifier.occurrence = c.modifier.occurrence)
    (hwildcarded : c'.modifier.wildcarded = c.modifier.wildcarded) : c'.clause = c.clause := by
  have hlead : c'.lead = c.lead := by
    rw [lead, lead, Modifier.mark, Modifier.mark, hoccurrence, hname]
  simp only [clause, forms, hlead, haround, hstart, hstop, hwildcarded]

/-- Two calls that add the same text write the same range. -/
theorem clause_eq_of_added {q' : Query} (c' : q'.Ranging) (hq : q.buffer.Sound)
    (hq' : q'.buffer.Sound) {t : Text} (h : c.outcome.2.query.text = q.text ++ t)
    (h' : c'.outcome.2.query.text = q'.text ++ t) : c'.clause = c.clause := by
  have hadded : c.clause.written = t := List.append_cancel_left ((c.text_outcome hq).symm.trans h)
  have hadded' : c'.clause.written = t :=
    List.append_cancel_left ((c'.text_outcome hq').symm.trans h')
  exact RangeClause.written_inj c.plain_lead c'.plain_lead (hadded'.trans hadded.symm)

end Ranging

/-- **Ranges are read back.**  A call for a range returns, and what it adds is read as one range, up
    to its end, whatever stands behind it: with the mark and the field in front, and with the texts
    of the bounds as they are when that lead is written.  Those are the texts from before the call
    if there is no lead or no bound shows the query itself; a bound that is the query itself is
    written with the lead at its end.  Two calls that add the same text have the same lead and the
    same texts of bounds, and the text depends on the modifier only by its mark and its
    wildcards. -/
theorem Reached.ranges_read_back {q : Query} (hq : q.Reached) (c : q.Ranging) :
    let r := c.outcome
    let forms := c.forms (q.text ++ c.lead)
    r.1 = .ok () ∧ r.2.query.text = q.text ++ c.clause.written ∧
      (∀ rest, readRange (c.clause.written ++ rest) = some
        (⟨c.lead, (forms.1, c.modifier.wildcarded), (forms.2, c.modifier.wildcarded)⟩, rest)) ∧
      (c.Steady → forms = c.forms q.text) ∧
      (∀ h, c.around.isReceiver h = true →
        (c.start = .query h → forms.1 = q.text ++ c.lead) ∧
        (c.stop = .query h → forms.2 = q.text ++ c.lead)) ∧
      (∀ (q' : Query) (c' : q'.Ranging) (t : Text), q'.Reached →
        r.2.query.text = q.text ++ t → c'.outcome.2.query.text = q'.text ++ t →
          c'.lead = c.lead ∧ c'.forms (q'.text ++ c'.lead) = forms) ∧
      (∀ c' : q.Ranging, c'.around = c.around → c'.name = c.name → c'.start = c.start →
        c'.stop = c.stop → c'.modifier.occurrence = c.modifier.occurrence →
          c'.modifier.wildcarded = c.modifier.wildcarded →
            c'.outcome.2.query.text = r.2.query.text) := by
  intro r forms
  refine ⟨by rw [show r = _ from c.outcome_eq], c.text_outcome hq.sound,
    readRange_written c.plain_lead, Ranging.Steady.forms_eq, ?_, ?_, ?_⟩
  · intro h hh
    constructor
    · intro hstart
      show c.start.written _ = _
      rw [hstart, c.written_receiver hh]
    · intro hstop
      show c.stop.written _ = _
      rw [hstop, c.written_receiver hh]
  · intro q' c' t hq' ht ht'
    have hclause := c.clause_eq_of_added c' hq.sound hq'.sound ht ht'
    obtain ⟨hlead, hstart, hstop⟩ := RangeClause.mk.inj hclause
    exact ⟨hlead, Prod.ext (Prod.mk.inj hstart).1 (Prod.mk.inj hstop).1⟩
  · intro c' haround hname hstart hstop hoccurrence hwildcarded
    have hclause := Ranging.clause_congr haround hname hstart hstop hoccurrence hwildcarded
    rw [c'.text_outcome hq.sound, hclause]
    exact (c.text_outcome hq.sound).symm

/-- Bounds that look like parts of a range, under two modifiers that differ in all but the mark and
    the wildcards. -/
theorem Reached.ranges_read_back_forged :
    let w : Surroundings := ⟨⟨fun _ => [], fun _ => {}⟩, (· == .query 0)⟩
    let q := new none "(x) ".toList
    let call (m : Modifier) : Call := .rangeField (some "year".toList)
      (.text "a TO b] ".toList) (.text "[z*".toList) (.given m)
    let added := "+year:[a\\ TO\\ b\\]\\ * TO \\[z\\**] ".toList
    ((call ⟨.required, true, true, true, some (.int 0)⟩).run w ⟨q, []⟩).2.query.text
        = q.text ++ added ∧
      ((call ⟨.required, false, false, true, none⟩).run w ⟨q, []⟩).2.query.text
        = q.text ++ added ∧
      readRange added
        = some (⟨"+year:".toList, ("a TO b] ".toList, true), ("[z*".toList, true)⟩, []) := by
  intro w q call added
  have hq : q.Reached := ⟨none, "(x) ".toList, [], rfl⟩
  have hname : ("year".toList.all fun d => !Text.isSpecial d && !Text.isQuote d) = true := by decide
  have hnamed : ∀ n, some "year".toList = some n → Text.isBlank n = false ∧ Text.Unmarked n := by
    rintro n ⟨⟩
    exact ⟨by decide, fun d hd => by simpa using List.all_eq_true.mp hname d hd⟩
  let ranging (m : Modifier) : q.Ranging :=
    ⟨w, [], some "year".toList, .text "a TO b] ".toList, .text "[z*".toList, .given m, m, rfl,
      ⟨_, rfl⟩, hnamed⟩
  obtain ⟨-, htext, hread, -, -, -, hmodifier⟩ :=
    hq.ranges_read_back (ranging ⟨.required, true, true, true, some (.int 0)⟩)
  have hsame := hmodifier (ranging ⟨.required, false, false, true, none⟩) rfl rfl rfl rfl rfl rfl
  have hadded : (ranging ⟨.required, true, true, true, some (.int 0)⟩).clause.written = added :=
    rfl
  have hone := hread []
  rw [hadded] at htext hone
  rw [List.append_nil] at hone
  exact ⟨htext, hsame.trans htext, hone⟩

/-- A bound that is the query itself is written with the mark in front of the range at its end, and
    the same range is written for another bound. -/
theorem range_shows_lead :
    let w : Surroundings := ⟨⟨fun _ => [], fun _ => {}⟩, (· == .query 0)⟩
    let q := new none "(x) ".toList
    let call (start : Value) : Call := .range start (.text ['z']) (.mandatory true)
    let added := "+[\\(x\\)\\ \\+ TO z] ".toList
    Value.written (w.when q.text) (.query (.query 0)) = "(x) ".toList ∧
      ((call (.query (.query 0))).run w ⟨q, []⟩).1 = .ok () ∧
      ((call (.query (.query 0))).run w ⟨q, []⟩).2.query.text = q.text ++ added ∧
      ((call (.text "(x) +".toList)).run w ⟨q, []⟩).2.query.text = q.text ++ added ∧
      readRange added = some (⟨['+'], ("(x) +".toList, false), (['z'], false)⟩, []) :=
  ⟨rfl, rfl, by decide +kernel, by decide +kernel, by decide +kernel⟩

end Query
end SearchQuery
