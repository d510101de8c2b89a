/-
  How building a query ends.

  1. **Rows** — a clause that is not empty is a row, and so is the text that the clauses make together,
     with a boost or without one.
  2. **Conditions** — the five conditions on what is asked for, in the order in which they are looked at:
     the fuzziness before anything is written, the fields and the ranges while it is, then the text, and
     last the boost.
  3. **Building** — the first condition that is violated is the fault that building ends with
     (`outcome_of_firstViolated`); if all are met, the text that is asked for is built (`outcome_of_met`).
  4. **The command (`build_ends_by_conditions`)** — the first condition that is violated decides how the
     command ends.  If none is, the text of the query is put out but for its last blank, and without the
     control sequences that stand in it (`raw_text_cut_short`).
-/
import SearchQuery.Proofs.CommandLine.Clauses
import SearchQuery.Proofs.CommandLine.Console
import SearchQuery.Proofs.Config.Precedence
import SearchQuery.Proofs.Query.Rows

namespace SearchQuery.CommandLine

open Text (IsRow)

/-! ## Rows -/

theorem isRow_boostedText {t : Text} (h : IsRow t) (boost : Option Double) :
    IsRow (boostedText t boost) := by
  cases boost with
  | none => exact h
  | some b =>
    have hclause : IsRow ('(' :: t ++ [')', ' ']) :=
      Text.isRow_of_ends (List.cons_ne_nil '(' []) (Text.first_singleton (by decide)) (by decide) t
    by_cases hboost : renderBoost (.double b) = []
    · rw [boostedText, hboost, List.append_nil]
      exact hclause
    · exact hclause.append (isRow_renderBoost hboost)

theorem isRow_termsClause {m : Modifier} {ts : List Text} (h : termsClause m ts ≠ []) :
    IsRow (termsClause m ts) := by
  match ts with
  | [] => exact absurd rfl h
  | [t] => exact isRow_renderLiteral h
  | _ :: _ :: _ => exact isRow_renderClause h

theorem strip_namePart_ne_nil {raw : Text} (h : IsAssignment raw) : Text.strip (namePart raw) ≠ [] :=
  fun hnil => Bool.false_ne_true
    ((isBlank_strip_namePart h).symm.trans (congrArg Text.isBlank hnil))

theorem isRow_fieldClause {m : Modifier} {raw : Text} (hraw : IsAssignment raw)
    (h : fieldClause m raw ≠ []) : IsRow (fieldClause m raw) := by
  unfold fieldClause at h ⊢
  by_cases hblank : Text.isBlank (valuePart raw) = true
  · rw [if_pos hblank] at h; exact absurd rfl h
  · rw [if_neg hblank]
    exact isRow_renderField m (strip_namePart_ne_nil hraw) (Text.trimmed_strip _) _

theorem isRow_rangeClause {m : Modifier} {raw : Text} (hraw : IsAssignment raw)
    (h : rangeClause m raw ≠ []) : IsRow (rangeClause m raw) := by
  unfold rangeClause at h ⊢
  cases hcut : Text.cut ['.', '.'] (valuePart raw) with
  | none => rw [hcut] at h; exact absurd rfl h
  | some bounds =>
    simp only [hcut] at h ⊢
    by_cases hnothing : nothingBetween (bound bounds.1) (bound bounds.2) = true
    · rw [if_pos hnothing] at h; exact absurd rfl h
    · rw [if_neg hnothing]
      exact isRow_renderRange m (strip_namePart_ne_nil hraw) (Text.trimmed_strip _) _ _ _

/-! ## Conditions -/

namespace BuildOptions

/-- A modifier with the options put in the place of its fields. -/
def overriding (o : BuildOptions) (m : Modifier) : Modifier where
  occurrence := o.occurrence.getD m.occurrence
  split := o.split.getD m.split
  disjunct := o.disjunct.getD m.disjunct
  wildcarded := o.wildcarded.getD m.wildcarded
  fuzziness := (o.fuzziness.map fun f => some (.double f)).getD m.fuzziness

/-- The clauses of what is asked for, in their order. -/
def clauses (o : BuildOptions) (m : Modifier) : List Text :=
  termsClause m o.terms :: (o.fields.map (fieldClause m) ++ o.ranges.map (rangeClause m))

/-- The text of the query that is asked for. -/
def text (o : BuildOptions) (m : Modifier) : Text := boostedText (o.clauses m).flatten o.boost

end BuildOptions

/-- The conditions on what is asked for. -/
inductive Condition where
  | fuzziness
  | fields
  | ranges
  | clauses
  | boost
  deriving DecidableEq, Repr

namespace Condition

/-- Where a condition stands in the order in which they are looked at. -/
def place : Condition → Nat
  | .fuzziness => 0
  | .fields => 1
  | .ranges => 2
  | .clauses => 3
  | .boost => 4

/-- Whether a condition is met: the fuzziness, if there is one, is a fuzziness; all fields and all
    ranges have their form; there is something to search for; the boost, if there is one, is a factor. -/
def Met (m : Modifier) (o : BuildOptions) : Condition → Prop
  | .fuzziness => ∀ f, o.fuzziness = some f → Modifier.isFuzziness (.double f) = true
  | .fields => ∀ raw ∈ o.fields, IsAssignment raw
  | .ranges => ∀ raw ∈ o.ranges, IsRange raw
  | .clauses => ∃ t ∈ o.clauses (o.overriding m), t ≠ []
  | .boost => ∀ b, o.boost = some b → Boost.isFactor (.double b) = true

/-- How the command ends when a condition is the first that is violated. -/
def code : Condition → Nat
  | .fuzziness | .boost => 1
  | .fields | .ranges | .clauses => 2

/-- What is said on the output of a number that violates its condition. -/
def fault? (o : BuildOptions) : Condition → Option QueryError
  | .fuzziness => o.fuzziness.map fun f => .invalidFuzziness (.double f)
  | .boost => o.boost.map fun b => .invalidBoost (.double b)
  | .fields | .ranges | .clauses => none

/-- A condition is violated, and all before it are met. -/
structure FirstViolated (m : Modifier) (o : BuildOptions) (c : Condition) : Prop where
  before : ∀ c' : Condition, c'.place < c.place → c'.Met m o
  violated : ¬ c.Met m o

variable {m : Modifier} {o : BuildOptions}

/-- Where a condition is violated, one is the first. -/
theorem exists_firstViolated (c : Condition) (hc : ¬ c.Met m o) : ∃ c', FirstViolated m o c' := by
  by_cases hbefore : ∀ c' : Condition, c'.place < c.place → c'.Met m o
  · exact ⟨c, hbefore, hc⟩
  -- One before it is violated: the search goes on from there, with fewer places left.
  · obtain ⟨c', hc'⟩ := Classical.not_forall.mp hbefore
    obtain ⟨hlt, hviolated⟩ := Classical.not_imp.mp hc'
    exact exists_firstViolated c' hviolated
termination_by c.place

end Condition

/-- **There is something to search for**, whatever the modifier is, if a term or the value of a field is not
    blank, or something lies between the bounds of a range. -/
theorem Condition.clauses_met_iff {m : Modifier} {o : BuildOptions} : Condition.clauses.Met m o ↔
    (∃ t ∈ o.terms, Text.isBlank t = false) ∨
    (∃ raw ∈ o.fields, Text.isBlank (valuePart raw) = false) ∨
    ∃ raw ∈ o.ranges, ∃ start stop, Text.cut ['.', '.'] (valuePart raw) = some (start, stop) ∧
      nothingBetween (bound start) (bound stop) = false := by
  have hterms : termsClause (o.overriding m) o.terms ≠ [] ↔ ∃ t ∈ o.terms, Text.isBlank t = false := by
    rw [Ne, termsClause_eq_nil_iff, Classical.not_forall]
    exact exists_congr fun t => Classical.not_imp.trans (and_congr_right fun _ => Bool.not_eq_true _ ▸ Iff.rfl)
  have hfield : ∀ raw, fieldClause (o.overriding m) raw ≠ [] ↔ Text.isBlank (valuePart raw) = false :=
    fun raw => (not_congr fieldClause_eq_nil_iff).trans (Bool.not_eq_true _ ▸ Iff.rfl)
  simp only [Condition.Met, BuildOptions.clauses, List.mem_cons, List.mem_append, List.mem_map,
    or_and_right, exists_or, exists_eq_left, hterms]
  refine or_congr_right (or_congr ?_ ?_)
  · constructor
    · rintro ⟨_, ⟨raw, hraw, rfl⟩, hne⟩
      exact ⟨raw, hraw, (hfield raw).mp hne⟩
    · rintro ⟨raw, hraw, hblank⟩
      exact ⟨_, ⟨raw, hraw, rfl⟩, (hfield raw).mpr hblank⟩
  · constructor
    · rintro ⟨_, ⟨raw, hraw, rfl⟩, hne⟩
      exact ⟨raw, hraw, rangeClause_ne_nil_iff.mp hne⟩
    · rintro ⟨raw, hraw, hbetween⟩
      exact ⟨_, ⟨raw, hraw, rfl⟩, rangeClause_ne_nil_iff.mpr hbetween⟩

/-! ## Building -/

namespace Building

variable {m : Modifier} {o : BuildOptions} {h : Handle} {d : Progress} {t : Text}

/-- Writes the terms, the fields and the ranges. -/
def written (h : Handle) (o : BuildOptions) : Building Unit := do
  terms h o.terms
  forEach (field h) o.fields
  forEach (range h) o.ranges

/-- Finishes a query in which there is something to search for. -/
def finished (h : Handle) (m : Modifier) (boost : Option Double) : Building Text := do
  if ((← get).store.text h).isEmpty then throw (.usage .nothingToSearch)
  boosted h m boost

theorem query_eq (hfuzzy : Condition.fuzziness.Met m o) :
    query m o = (do
      let h ← newQuery (o.overriding m)
      written h o
      finished h (o.overriding m) o.boost) := by
  have hmodifier : o.modifier m = .ok (o.overriding m) := BuildOptions.modifier_eq hfuzzy m
  simp only [query, hmodifier, written, finished, forEach, bind_assoc, pure_bind]

/-- **What is asked for is written** clause by clause, if all operands have their form. -/
theorem adds_written (hm : m.Valid) (hfields : ∀ raw ∈ o.fields, IsAssignment raw)
    (hranges : ∀ raw ∈ o.ranges, IsRange raw) :
    Adds h m (written h o) (o.clauses m).flatten := by
  have hadds := (adds_terms (h := h) hm o.terms).seq
    ((adds_forEach (fun _ => adds_field hm) hfields).seq (adds_forEach (fun _ => adds_range) hranges))
  rwa [← List.flatten_append, ← List.flatten_cons] at hadds

theorem refuses_fields (hm : m.Valid) (hfields : ¬ ∀ raw ∈ o.fields, IsAssignment raw) :
    Refuses h m (written h o) :=
  (adds_terms hm o.terms).refuses
    ((refuses_forEach (fun _ => adds_field hm) (fun _ => refuses_field) hfields).seq _)

theorem refuses_ranges (hm : m.Valid) (hfields : ∀ raw ∈ o.fields, IsAssignment raw)
    (hranges : ¬ ∀ raw ∈ o.ranges, IsRange raw) : Refuses h m (written h o) :=
  (adds_terms hm o.terms).refuses ((adds_forEach (fun _ => adds_field hm) hfields).refuses
    (refuses_forEach (fun _ => adds_range) (fun _ => refuses_range) hranges))

theorem outcome_finished (hd : d.Holds h m t) (ht : t ≠ []) (boost : Option Double) :
    (finished h m boost).outcome d = (boosted h m boost).outcome d := by
  have htext : (d.store.text h).isEmpty = false := by rw [hd.text]; simpa using ht
  rw [finished, outcome_bind, outcome_get]
  simp only [htext]
  rfl

theorem outcome_finished_nil (hd : d.Holds h m []) (boost : Option Double) :
    (finished h m boost).outcome d = (.error (.usage .nothingToSearch), d) := by
  have htext : (d.store.text h).isEmpty = true := by rw [hd.text]; rfl
  rw [finished, outcome_bind, outcome_get]
  simp only [htext]
  rfl

/-- Building under a modifier that the options allow: a new query is written and finished. -/
theorem exists_begun (hfuzzy : Condition.fuzziness.Met m o) :
    ∃ h d, d.Holds h (o.overriding m) [] ∧ (query m o).outcome {} = (do
      written h o
      finished h (o.overriding m) o.boost).outcome d := by
  have hnone : ({} : Progress).store.Sound := fun q hq => nomatch hq
  exact ⟨_, _, Progress.holds_newQuery hnone (o.overriding m), by rw [query_eq hfuzzy]; rfl⟩

theorem valid_overriding (hm : m.Valid) (hfuzzy : Condition.fuzziness.Met m o) :
    (o.overriding m).Valid := by
  intro f hf
  have hgiven : (o.fuzziness.map fun f => some (Number.double f)).getD m.fuzziness = some f := hf
  cases hasked : o.fuzziness with
  | none => exact hm f (by rwa [hasked] at hgiven)
  | some g =>
    rw [hasked] at hgiven
    obtain rfl : Number.double g = f := Option.some.inj hgiven
    exact hfuzzy g hasked

/-- Once all operands have their form, the clauses stand in a query that is to be finished. -/
theorem exists_written (hm : m.Valid) (hfuzzy : Condition.fuzziness.Met m o)
    (hfields : Condition.fields.Met m o) (hranges : Condition.ranges.Met m o) :
    ∃ h d, d.Holds h (o.overriding m) (o.clauses (o.overriding m)).flatten ∧
      (query m o).outcome {} = (finished h (o.overriding m) o.boost).outcome d := by
  obtain ⟨h, d, hd, hquery⟩ := exists_begun hfuzzy
  obtain ⟨d', hwritten, hd'⟩ := adds_written (valid_overriding hm hfuzzy) hfields hranges d [] hd
  exact ⟨h, d', hd', by rw [hquery, outcome_bind_of_ok hwritten]⟩

theorem flatten_clauses_ne_nil_iff :
    (o.clauses (o.overriding m)).flatten ≠ [] ↔ Condition.clauses.Met m o := by
  rw [Ne, List.flatten_eq_nil_iff, Classical.not_forall]
  exact exists_congr fun t => Classical.not_imp

/-- **If all conditions are met**, the text that is asked for is built. -/
theorem outcome_of_met (hm : m.Valid) (hmet : ∀ c : Condition, c.Met m o) :
    ∃ d, (query m o).outcome {} = (.ok (o.text (o.overriding m)), d) := by
  have htext := flatten_clauses_ne_nil_iff.mpr (hmet .clauses)
  obtain ⟨h, d, hd, hquery⟩ := exists_written hm (hmet .fuzziness) (hmet .fields) (hmet .ranges)
  obtain ⟨d', hboosted⟩ := outcome_boosted hd (valid_overriding hm (hmet .fuzziness)) htext (hmet .boost)
  exact ⟨d', by rw [hquery, outcome_finished hd htext, hboosted]; rfl⟩

/-- **The first condition that is violated** decides which fault building ends with. -/
theorem outcome_of_firstViolated (hm : m.Valid) {c : Condition} (hc : c.FirstViolated m o) :
    (c.code = 2 ∧ c.fault? o = none ∧ ∃ f d, (query m o).outcome {} = (.error (.usage f), d)) ∨
      (c.code = 1 ∧ ∃ e d, c.fault? o = some e ∧ (query m o).outcome {} = (.error (.query e), d)) := by
  obtain ⟨hbefore, hviolated⟩ := hc
  -- The conditions before `c` carry the building up to the step that looks at `c`.
  cases c with
  | fuzziness =>
    obtain ⟨f, hviolated⟩ := Classical.not_forall.mp hviolated
    obtain ⟨hf, hnot⟩ := Classical.not_imp.mp hviolated
    have hcheck : Modifier.checkFuzziness (some (.double f)) = .error (.invalidFuzziness (.double f)) :=
      if_neg hnot
    have hmodifier : o.modifier m = .error (.invalidFuzziness (.double f)) := by
      rw [BuildOptions.modifier, hf]
      simp only [Modifier.withFuzziness, Draft.change, hcheck]
    refine .inr ⟨rfl, _, {}, by rw [Condition.fault?, hf]; rfl, ?_⟩
    rw [query, hmodifier]
    rfl
  | fields =>
    have hfuzzy := hbefore .fuzziness (by decide)
    obtain ⟨h, d, hd, hquery⟩ := exists_begun hfuzzy
    obtain ⟨f, d', hrefused⟩ := refuses_fields (valid_overriding hm hfuzzy) hviolated d [] hd
    exact .inl ⟨rfl, rfl, f, d', by rw [hquery, outcome_bind_of_error hrefused]⟩
  | ranges =>
    have hfuzzy := hbefore .fuzziness (by decide)
    obtain ⟨h, d, hd, hquery⟩ := exists_begun hfuzzy
    obtain ⟨f, d', hrefused⟩ :=
      refuses_ranges (valid_overriding hm hfuzzy) (hbefore .fields (by decide)) hviolated d [] hd
    exact .inl ⟨rfl, rfl, f, d', by rw [hquery, outcome_bind_of_error hrefused]⟩
  | clauses =>
    obtain ⟨h, d, hd, hquery⟩ := exists_written hm (hbefore .fuzziness (by decide))
      (hbefore .fields (by decide)) (hbefore .ranges (by decide))
    rw [Classical.not_not.mp (mt flatten_clauses_ne_nil_iff.mp hviolated)] at hd
    exact .inl ⟨rfl, rfl, _, d, by rw [hquery, outcome_finished_nil hd]⟩
  | boost =>
    obtain ⟨b, hviolated⟩ := Classical.not_forall.mp hviolated
    obtain ⟨hb, hnot⟩ := Classical.not_imp.mp hviolated
    have hfuzzy := hbefore .fuzziness (by decide)
    have htext := flatten_clauses_ne_nil_iff.mpr (hbefore .clauses (by decide))
    obtain ⟨h, d, hd, hquery⟩ :=
      exists_written hm hfuzzy (hbefore .fields (by decide)) (hbefore .ranges (by decide))
    obtain ⟨d', hrefused⟩ :=
      refused_boosted hd (valid_overriding hm hfuzzy) htext (Bool.eq_false_iff.mpr hnot)
    refine .inr ⟨rfl, _, d', by rw [Condition.fault?, hb]; rfl, ?_⟩
    rw [hquery, outcome_finished hd htext, hb, hrefused]

end Building

/-! ## The command -/

section Command

variable {env : Environment} {files : Files} {g : GlobalOptions} {m : Modifier}
  {args rest : List Text} {o : BuildOptions} {d : Progress} {t : Text}

theorem isRow_text (hfields : Condition.fields.Met m o) (hranges : Condition.ranges.Met m o)
    (hclauses : Condition.clauses.Met m o) : IsRow (o.text (o.overriding m)) := by
  have hrows : ∀ t ∈ o.clauses (o.overriding m), t ≠ [] → IsRow t := by
    intro t ht hne
    rcases List.mem_cons.mp ht with rfl | ht
    · exact isRow_termsClause hne
    · rcases List.mem_append.mp ht with ht | ht
      · obtain ⟨raw, hraw, rfl⟩ := List.mem_map.mp ht
        exact isRow_fieldClause (hfields raw hraw) hne
      · obtain ⟨raw, hraw, rfl⟩ := List.mem_map.mp ht
        exact isRow_rangeClause (hranges raw hraw).toIsAssignment hne
  exact isRow_boostedText (Text.isRow_flatten hrows (Building.flatten_clauses_ne_nil_iff.mpr hclauses)) _

/-- A configured modifier is a valid one. -/
theorem valid_configured (hconfigured : configured env files g = .ok m) : m.Valid := by
  unfold configured at hconfigured
  cases hload : Configuration.load env files (g.config.map FilePath.ofText) with
  | error e => rw [hload] at hconfigured; cases hconfigured
  | ok c =>
    rw [hload] at hconfigured
    have hmodifier : c.modifier = .ok m := hconfigured
    rcases c.modifier_valid_or_fault with ⟨m', hm', hvalid⟩ | ⟨e, he, -⟩
    · obtain rfl := Except.ok.inj (hmodifier.symm.trans hm')
      exact hvalid
    · rw [he] at hmodifier
      cases hmodifier

/-- How the run of a build ends, apart from what is told. -/
theorem run_build (hargs : globalOptions files args = .ok (g, "build".toList :: rest))
    (hconfigured : configured env files g = .ok m) (hread : BuildOptions.read rest = .ok o)
    (hhelp : o.help = false) (hdebug : g.debug = false) {r : Except BuildFault Text}
    (hquery : (Building.query m o).outcome {} = (r, d)) :
    (run env files args).code = (match r with
        | .ok _ => 0
        | .error (.usage _) => 2
        | .error (.query _) => 1) ∧
      (run env files args).output = match r with
        | .ok t => if o.raw then plain (Text.strip t) else laidOut (Text.strip t)
        | .error (.usage _) => []
        | .error (.query e) => laidOut ("Error: ".toList ++ e.message) := by
  have hbuild : build m o = (r.map Text.strip, d.notes) := by
    have hrun : (Building.query m o).run.run {} = (r, d) := hquery
    rw [build, hrun]
  rw [run_eq hargs (show Command.ofName? "build".toList = some .build by decide), hconfigured]
  simp only [runCommand, runBuild, hread, hhelp, hbuild, hdebug]
  rcases r with (f | e) | t
  · exact ⟨rfl, rfl⟩
  · exact ⟨rfl, rfl⟩
  · exact ⟨rfl, rfl⟩

/-- **The conditions decide** how the command ends.  It succeeds exactly when all of them are met; the first
    that is violated gives the code, and what is put out then is nothing, or a line about a number.  There
    is something to search for if a term or a value is not blank or something lies between two bounds.  On
    success the text that is asked for is built, and all that stripping takes from it is its last blank.
    Asked for the text only, the command puts out a line that gives the text back with a blank, unless a
    control sequence stands in the text. -/
theorem build_ends_by_conditions
    (hargs : globalOptions files args = .ok (g, "build".toList :: rest))
    (hconfigured : configured env files g = .ok m) (hread : BuildOptions.read rest = .ok o)
    (hhelp : o.help = false) (hdebug : g.debug = false) :
    let r := run env files args
    (r.code = 0 ↔ ∀ c : Condition, c.Met m o) ∧
    (∀ c : Condition, c.FirstViolated m o → r.code = c.code ∧
      r.output = (c.fault? o).elim [] fun e => laidOut ("Error: ".toList ++ e.message)) ∧
    (Condition.clauses.Met m o ↔ (∃ t ∈ o.terms, Text.isBlank t = false) ∨
      (∃ raw ∈ o.fields, Text.isBlank (valuePart raw) = false) ∨
      ∃ raw ∈ o.ranges, ∃ start stop, Text.cut ['.', '.'] (valuePart raw) = some (start, stop) ∧
        nothingBetween (bound start) (bound stop) = false) ∧
    (r.code = 0 → ∃ t d, (Building.query m o).outcome {} = (.ok t, d) ∧ t = o.text (o.overriding m) ∧
      Text.strip t ++ [' '] = t ∧
      (o.raw = true → r.output = withoutSequences (Text.strip t) ++ ['\n'] ∧
        ((∃ u, r.output = u ++ ['\n'] ∧ u ++ [' '] = t) ↔ ∀ s, IsSequence s → ¬ s <:+: t))) := by
  intro r
  have hm := valid_configured hconfigured
  have hviolated : ∀ c : Condition, c.FirstViolated m o → r.code = c.code ∧
      r.output = (c.fault? o).elim [] fun e => laidOut ("Error: ".toList ++ e.message) := by
    intro c hc
    rcases Building.outcome_of_firstViolated hm hc with
      ⟨hcode, hfault, f, d, hquery⟩ | ⟨hcode, e, d, hfault, hquery⟩
    · rw [hcode, hfault]
      exact run_build hargs hconfigured hread hhelp hdebug hquery
    · rw [hcode, hfault]
      exact run_build hargs hconfigured hread hhelp hdebug hquery
  have hmet : r.code = 0 ↔ ∀ c : Condition, c.Met m o := by
    constructor
    -- Where a condition is violated one is the first, and no first one ends with the code 0.
    · intro hzero c
      refine Classical.not_not.mp fun hc => ?_
      obtain ⟨c', hc'⟩ := c.exists_firstViolated hc
      have hcode := (hviolated c' hc').1.symm.trans hzero
      cases c' <;> cases hcode
    · intro hall
      obtain ⟨d, hquery⟩ := Building.outcome_of_met hm hall
      exact (run_build hargs hconfigured hread hhelp hdebug hquery).1
  refine ⟨hmet, hviolated, Condition.clauses_met_iff, fun hzero => ?_⟩
  have hall := hmet.mp hzero
  obtain ⟨d, hquery⟩ := Building.outcome_of_met hm hall
  have hrow := (isRow_text (hall .fields) (hall .ranges) (hall .clauses)).strip_append
  refine ⟨_, d, hquery, rfl, hrow, fun hraw => ?_⟩
  have houtput : r.output = plain (Text.strip (o.text (o.overriding m))) := by
    have hput := (run_build hargs hconfigured hread hhelp hdebug hquery).2
    rw [hraw] at hput
    exact hput
  refine ⟨houtput, ?_⟩
  rw [houtput]
  exact exists_line_iff hrow

end Command

deriving instance DecidableEq for BuildOptions

/-- A field and a range, in a directory without files: the blanks around the name do not count. -/
theorem build_ends_by_conditions_range :
    let env : Environment := [("HOME".toList, "h".toList)]
    let files := Files.ofList []
    let rest := ["--raw".toList, "-f".toList, " t =a ".toList, "-r".toList, "y=1..b".toList]
    let o : BuildOptions :=
      { fields := [" t =a ".toList], ranges := ["y=1..b".toList], raw := true }
    let r := run env files ("build".toList :: rest)
    r.code = 0 ∧ r.output = "t:((a\\ ) ) y:[1 TO b]\n".toList ∧ (∀ c : Condition, c.Met {} o) ∧
      ∃ t d u, (Building.query {} o).outcome {} = (.ok t, d) ∧ t = o.text {} ∧
        r.output = u ++ ['\n'] ∧ u ++ [' '] = t := by
  intro env files rest o r
  have hargs : globalOptions files ("build".toList :: rest) = .ok ({}, "build".toList :: rest) := by
    decide +kernel
  have hconfigured : configured env files {} = .ok {} := by decide +kernel
  have hread : BuildOptions.read rest = .ok o := by decide +kernel
  obtain ⟨hmet, -, -, hbuilt⟩ := build_ends_by_conditions hargs hconfigured hread rfl rfl
  have hcode : r.code = 0 := by decide +kernel
  obtain ⟨t, d, hquery, htext, -, hraw⟩ := hbuilt hcode
  have hnone : withoutSequences (o.text {}) = o.text {} := by decide +kernel
  obtain ⟨u, hline, hblank⟩ := (hraw rfl).2.mpr (htext ▸ withoutSequences_eq_self_iff.mp hnone)
  exact ⟨hcode, by decide +kernel, hmet.mp hcode, t, d, u, hquery, htext, hline, hblank⟩

/-- The name of a field with a control sequence in it: the command succeeds, and the line that it puts out
    is not the text of the query. -/
theorem raw_text_cut_short :
    let env : Environment := [("HOME".toList, "h".toList)]
    let rest := ["--raw".toList, "-f".toList, "a\x1b[5~b=x".toList]
    let o : BuildOptions := { fields := ["a\x1b[5~b=x".toList], raw := true }
    let t := "a\x1b[5~b:((x) ) ".toList
    let r := run env (Files.ofList []) ("build".toList :: rest)
    (BuildOptions.read rest).toOption = some o ∧
      ((Building.query {} o).outcome {}).1.toOption = some t ∧
      r.code = 0 ∧ r.output = "ab:((x) )\n".toList ∧ ∀ u, r.output = u ++ ['\n'] → u ++ [' '] ≠ t := by
  intro env rest o t r
  have houtput : r.output = "ab:((x) )\n".toList := by decide +kernel
  refine ⟨by decide +kernel, by decide +kernel, by decide +kernel, houtput, fun u hu => ?_⟩
  have hline : "ab:((x) )".toList ++ ['\n'] = u ++ ['\n'] := houtput.symm.trans hu
  obtain rfl := List.append_cancel_right hline
  decide

end SearchQuery.CommandLine
