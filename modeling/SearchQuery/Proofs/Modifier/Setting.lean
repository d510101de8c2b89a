/-
  Setting the fields of a draft: the last write wins.

  A draft is changed by its sixteen setters, and some calls of them are refused.  What comes out in
  the end does not depend on how the calls for different fields are mixed.

  1. **Writes** — `Setter.write?` says what each setter writes, and when it refuses.  `call_of_write`
     and `call_of_refused` compare it with a call: the call makes that one write, or it is refused and
     changes nothing.
  2. **Fields (`Field.read_writeAll`)** — a field of a draft with what a write puts into it.  After any
     writes it holds the value of the last one for it, or what it held before; one induction serves
     all five fields.
  3. **Validity (`fuzziness_setAll`)** — a fuzziness is checked and then rounded to double precision.
     Numbers below one stay below one, but a fraction may be rounded up to it (`Calling.RoundsUp`), and
     that is the only way for a draft to hold what no modifier can.
  4. **The result (`Started.last_write_wins`)** — whatever is called on a draft, each field was written
     last, and a modifier can be made of it unless the fuzziness in it was rounded up.
-/
import SearchQuery.Proofs.Query.Rendering
import SearchQuery.Value.Setter

namespace SearchQuery

/-! ## Values for fields -/

namespace Value

/-- The occurrence that a value names. -/
def occurrence? : Value → Option Occurrence
  | .scalar (.text t) => Occurrence.ofName? t
  | _ => none

/-- The fuzziness that a value is, in double precision: none at all, or a number from zero up to
    one. -/
def fuzziness? : Value → Option (Option Double)
  | .scalar .null => some none
  | .scalar (.number f) => if Modifier.isFuzziness f then some (some f.toDouble) else none
  | _ => none

theorem namedOccurrence_of_some {qs : Queries} {v : Value} {o : Occurrence}
    (h : v.occurrence? = some o) : v.namedOccurrence qs = .given o := by
  unfold occurrence? at h
  split at h
  · rw [namedOccurrence, h]
  · cases h

theorem namedOccurrence_of_none {qs : Queries} {v : Value} (h : v.occurrence? = none) (o : Occurrence) :
    v.namedOccurrence qs ≠ .given o := by
  intro hg
  unfold namedOccurrence asOccurrence at hg
  split at hg
  · simp only [occurrence?] at h
    simp [h] at hg
  · split at hg <;> cases hg

theorem asFuzziness_of_some {v : Value} {f : Option Double} (h : v.fuzziness? = some f) :
    ∃ g, v.asFuzziness = .ok g ∧ Modifier.checkFuzziness g = .ok () ∧ g.map Number.toDouble = f := by
  unfold fuzziness? at h
  split at h
  · cases h
    exact ⟨none, rfl, rfl, rfl⟩
  · rename_i g
    split at h
    · rename_i hg
      cases h
      exact ⟨some g, rfl, by rw [Modifier.checkFuzziness, if_pos hg], rfl⟩
    · cases h
  · cases h

/-- A value that is no fuzziness is refused, by its kind or by its place. -/
theorem asFuzziness_of_none {v : Value} (h : v.fuzziness? = none) :
    (∃ e, v.asFuzziness = .error e) ∨
      ∃ g e, v.asFuzziness = .ok g ∧ Modifier.checkFuzziness g = .error e := by
  unfold fuzziness? at h
  split at h
  · cases h
  · rename_i g
    split at h
    · cases h
    · rename_i hg
      exact .inr ⟨some g, _, rfl, by rw [Modifier.checkFuzziness, if_neg hg]⟩
  · unfold asFuzziness
    split
    · contradiction
    · rename_i g _ hv
      exact absurd rfl (hv g)
    · exact .inr ⟨_, _, rfl, rfl⟩
    · exact .inl ⟨_, rfl⟩

end Value

theorem Modifier.isFuzziness_of_lt_unit {u : Nat} (hu : u < Double.unit) :
    isFuzziness (.double (.finite false u)) = true := by
  simp only [isFuzziness, Number.le, Number.lt, Number.position?, Double.position?,
    Double.positionOfInt, Double.Position.lt, Double.Position.le, Bool.and_eq_true,
    Bool.not_eq_true', decide_eq_true_eq, decide_eq_false_iff_not, Int.zero_mul, Int.one_mul,
    Int.not_le]
  exact ⟨Int.natCast_nonneg u, Int.ofNat_lt.mpr hu⟩

/-- A fraction from zero up to one is rounded to a fuzziness, or to one. -/
theorem Modifier.isFuzziness_ofRat {q : Rat} (hlow : 0 ≤ q) (hhigh : q < 1) :
    isFuzziness (.double (.ofRat q)) = true ∨ Double.ofRat q = .one := by
  have hnum : 0 ≤ q.num := Rat.num_nonneg.mpr hlow
  have hlt : q.num < q.den := by simpa [Rat.lt_iff] using hhigh
  have hunits : q.num.natAbs * Double.unit ≤ Double.unit * q.den := by
    rw [Nat.mul_comm]
    exact Nat.mul_le_mul_left _ (by omega)
  have hle : Double.rounded (q.num.natAbs * Double.unit) q.den ≤ Double.unit :=
    Double.rounded_le q.den_pos Double.quantum_dvd_unit hunits
  have hsign : decide (q.num < 0) = false := by simpa using hnum
  have hq : Double.ofRat q = .finite false (Double.rounded (q.num.natAbs * Double.unit) q.den) := by
    rw [Double.ofRat, hsign]
    exact Double.ofQuotient_of_rounded false (Nat.le_trans hle (by decide +kernel)) rfl
  rw [hq]
  rcases Nat.lt_or_eq_of_le hle with hbelow | hone
  · exact .inl (isFuzziness_of_lt_unit hbelow)
  · exact .inr (by rw [hone]; rfl)

namespace SetterArg

/-- The occurrence that is named. -/
def occurrence? : SetterArg → Option Occurrence
  | .value v => v.occurrence?
  | .fraction _ => none

/-- The fuzziness that is given, in double precision. -/
def fuzziness? : SetterArg → Option (Option Double)
  | .value v => v.fuzziness?
  | .fraction q => if 0 ≤ q ∧ q < 1 then some (some (.ofRat q)) else none

variable {a : SetterArg}

theorem isWritable_of_occurrence? {o : Occurrence} (h : a.occurrence? = some o) :
    a.isWritable = true := by
  cases a with
  | fraction q => cases h
  | value v =>
    have hv : v.occurrence? = some o := h
    unfold Value.occurrence? at hv
    split at hv
    · rfl
    · cases hv

theorem namedOccurrence_of_some {qs : Queries} {o : Occurrence} (h : a.occurrence? = some o) :
    a.namedOccurrence qs = .given o := by
  cases a with
  | fraction q => cases h
  | value v => exact Value.namedOccurrence_of_some h

theorem namedOccurrence_of_none {qs : Queries} (h : a.occurrence? = none) (o : Occurrence) :
    a.namedOccurrence qs ≠ .given o := by
  cases a with
  | fraction q => exact nofun
  | value v => exact Value.namedOccurrence_of_none h o

end SetterArg

namespace Draft

/-! ## Writes -/

/-- A value for one of the five fields. -/
inductive Write where
  | occurrence (o : Occurrence)
  | split (on : Bool)
  | disjunct (on : Bool)
  | wildcarded (on : Bool)
  | fuzziness (f : Option Double)
  deriving DecidableEq, Repr

/-- The name of a field. -/
inductive Slot where
  | occurrence
  | split
  | disjunct
  | wildcarded
  | fuzziness
  deriving DecidableEq, Repr

/-- The field that a write is for. -/
def Write.slot : Write → Slot
  | .occurrence _ => .occurrence
  | .split _ => .split
  | .disjunct _ => .disjunct
  | .wildcarded _ => .wildcarded
  | .fuzziness _ => .fuzziness

/-- The draft with a value written into its field. -/
def write (d : Draft) : Write → Draft
  | .occurrence o => { d with occurrence := o }
  | .split on => { d with split := on }
  | .disjunct on => { d with disjunct := on }
  | .wildcarded on => { d with wildcarded := on }
  | .fuzziness f => { d with fuzziness := f.map .double }

/-- A call of a setter, with what it is given if it takes an argument. -/
inductive Setter where
  | occurrence (a : SetterArg)
  | required
  | prohibited
  | excluded
  | optional
  | setWildcarded (a : SetterArg)
  | wildcarded
  | notWildcarded
  | setSplit (a : SetterArg)
  | doSplit
  | dontSplit
  | setDisjunct (a : SetterArg)
  | disjunct
  | conjunct
  | setFuzziness (a : SetterArg)
  | noFuzziness
  deriving Repr

namespace Setter

/-- The name that a setter is called by. -/
def name : Setter → Text
  | .occurrence _ => "term_modifier"
  | .required => "required"
  | .prohibited => "prohibited"
  | .excluded => "excluded"
  | .optional => "optional"
  | .setWildcarded _ => "set_wildcarded"
  | .wildcarded => "wildcarded"
  | .notWildcarded => "not_wildcarded"
  | .setSplit _ => "set_split"
  | .doSplit => "do_split"
  | .dontSplit => "dont_split"
  | .setDisjunct _ => "set_disjunct"
  | .disjunct => "disjunct"
  | .conjunct => "conjunct"
  | .setFuzziness _ => "set_fuzziness"
  | .noFuzziness => "no_fuzziness"

/-- What a setter is given. -/
def arg : Setter → SetterArg
  | .occurrence a | .setWildcarded a | .setSplit a | .setDisjunct a | .setFuzziness a => a
  | _ => .value .absent

/-- The field that a setter is for. -/
def slot : Setter → Slot
  | .occurrence _ | .required | .prohibited | .excluded | .optional => .occurrence
  | .setWildcarded _ | .wildcarded | .notWildcarded => .wildcarded
  | .setSplit _ | .doSplit | .dontSplit => .split
  | .setDisjunct _ | .disjunct | .conjunct => .disjunct
  | .setFuzziness _ | .noFuzziness => .fuzziness

/-- What a call writes: a flag goes by whether there is something in what is given.  Nothing is
    written where that names no occurrence or is no fuzziness. -/
def write? (qs : Queries) : Setter → Option Write
  | .occurrence a => a.occurrence?.map .occurrence
  | .required => some (.occurrence .required)
  | .prohibited | .excluded => some (.occurrence .prohibited)
  | .optional => some (.occurrence .plain)
  | .setWildcarded a => some (.wildcarded (a.truthy qs))
  | .wildcarded => some (.wildcarded true)
  | .notWildcarded => some (.wildcarded false)
  | .setSplit a => some (.split (a.truthy qs))
  | .doSplit => some (.split true)
  | .dontSplit => some (.split false)
  | .setDisjunct a => some (.disjunct (a.truthy qs))
  | .disjunct => some (.disjunct true)
  | .conjunct => some (.disjunct false)
  | .setFuzziness a => a.fuzziness?.map .fuzziness
  | .noFuzziness => some (.fuzziness none)

end Setter

/-- A call of a setter, with what the queries show at that time. -/
structure Calling where
  queries : Queries
  setter : Setter

/-- What a call writes. -/
def Calling.write? (c : Calling) : Option Write := c.setter.write? c.queries

/-- How a draft answers to a call, and the draft after it. -/
def call (d : Draft) (c : Calling) : Except SetterFault Unit × Draft :=
  d.set c.queries c.setter.name c.setter.arg

/-- The draft after calls, of which some may have been refused. -/
def setAll (d : Draft) (calls : List Calling) : Draft := calls.foldl (fun d c => (d.call c).2) d

/-- What a setter does, in one word: makes its write, or refuses and changes nothing. -/
def Calling.Does (c : Calling) (d : Draft) : Prop :=
  match c.write? with
  | some w => d.call c = (.ok (), d.write w)
  | none => ∃ e, d.call c = (.error e, d)

theorem call_of_change {c : Calling} {x : Change}
    (h : Change.ofCall c.queries c.setter.name c.setter.arg = .ok x) (d : Draft) :
    d.call c = ((d.change x).1.mapError fun e => .query e.told, (d.change x).2) := by
  rw [call, set, h]

theorem call_of_error {c : Calling} {e : SetterFault}
    (h : Change.ofCall c.queries c.setter.name c.setter.arg = .error e) (d : Draft) :
    d.call c = (.error e, d) := by
  rw [call, set, h]

theorem does_occurrence (qs : Queries) (a : SetterArg) (d : Draft) :
    Calling.Does ⟨qs, .occurrence a⟩ d := by
  have hread : Change.ofCall qs "term_modifier".toList a
      = if a.isWritable then .ok (.occurrence (a.namedOccurrence qs))
        else .error (.query .unwritable) := rfl
  rw [Calling.Does, Calling.write?, Setter.write?]
  cases ho : a.occurrence? with
  | some o =>
    have hwritable : a.isWritable = true := SetterArg.isWritable_of_occurrence? ho
    rw [hwritable] at hread
    rw [call_of_change (c := ⟨qs, .occurrence a⟩) hread d, SetterArg.namedOccurrence_of_some ho]
    rfl
  | none =>
    cases hwritable : a.isWritable with
    | false =>
      rw [hwritable] at hread
      exact ⟨_, call_of_error (c := ⟨qs, .occurrence a⟩) hread d⟩
    | true =>
      rw [hwritable] at hread
      have h := call_of_change (c := ⟨qs, .occurrence a⟩) hread d
      cases ha : a.namedOccurrence qs with
      | given o => exact absurd ha (SetterArg.namedOccurrence_of_none ho o)
      | absent => rw [ha] at h; exact ⟨_, h⟩
      | other kind shown => rw [ha] at h; exact ⟨_, h⟩

/-- A value as the fuzziness is written if it is one. -/
theorem does_setFuzziness_value (qs : Queries) (v : Value) (d : Draft) :
    Calling.Does ⟨qs, .setFuzziness (.value v)⟩ d := by
  have h : Change.ofCall qs "set_fuzziness".toList (.value v) = v.asFuzziness.map .fuzziness := rfl
  rw [Calling.Does, Calling.write?, Setter.write?, SetterArg.fuzziness?]
  cases hf : v.fuzziness? with
  | some f =>
    obtain ⟨g, hv, hg, rfl⟩ := Value.asFuzziness_of_some hf
    rw [call_of_change (x := .fuzziness g) (h.trans (by rw [hv]; rfl)) d, change, hg]
    cases g <;> rfl
  | none =>
    rcases Value.asFuzziness_of_none hf with ⟨e, hv⟩ | ⟨g, e, hv, hg⟩
    · exact ⟨e, call_of_error (h.trans (by rw [hv]; rfl)) d⟩
    · refine ⟨.query e.told, ?_⟩
      rw [call_of_change (x := .fuzziness g) (h.trans (by rw [hv]; rfl)) d, change, hg]
      rfl

/-- A fraction as the fuzziness is written, as the nearest number, if it is from zero up to one. -/
theorem does_setFuzziness_fraction (qs : Queries) (q : Rat) (d : Draft) :
    Calling.Does ⟨qs, .setFuzziness (.fraction q)⟩ d := by
  have h : d.call ⟨qs, .setFuzziness (.fraction q)⟩ = _ := call_of_change (x := .fraction q) rfl d
  rw [Calling.Does, Calling.write?, Setter.write?, SetterArg.fuzziness?, h, change]
  by_cases hq : 0 ≤ q ∧ q < 1
  · rw [if_pos hq, if_pos hq]
    rfl
  · rw [if_neg hq, if_neg hq]
    exact ⟨_, rfl⟩

/-- Each setter makes its write, or is refused and changes nothing. -/
theorem does (c : Calling) (d : Draft) : c.Does d := by
  obtain ⟨qs, s⟩ := c
  cases s
  case occurrence a => exact does_occurrence qs a d
  case setFuzziness a =>
    cases a with
    | value v => exact does_setFuzziness_value qs v d
    | fraction q => exact does_setFuzziness_fraction qs q d
  all_goals exact (rfl : d.call _ = _)

theorem call_of_write {c : Calling} {w : Write} (h : c.write? = some w) (d : Draft) :
    d.call c = (.ok (), d.write w) := by
  have := does c d
  rwa [Calling.Does, h] at this

theorem call_of_refused {c : Calling} (h : c.write? = none) (d : Draft) :
    ∃ e, d.call c = (.error e, d) := by
  have := does c d
  rwa [Calling.Does, h] at this

theorem call_of_slot {c : Calling} {w : Write} (h : c.write? = some w) : w.slot = c.setter.slot := by
  obtain ⟨qs, s⟩ := c
  cases s
  case occurrence v =>
    obtain ⟨o, -, rfl⟩ := Option.map_eq_some_iff.mp h
    rfl
  case setFuzziness v =>
    obtain ⟨f, -, rfl⟩ := Option.map_eq_some_iff.mp h
    rfl
  all_goals cases h; rfl

/-- What is called on a draft comes down to the writes of the calls that were not refused. -/
theorem setAll_eq (d : Draft) (calls : List Calling) :
    d.setAll calls = (calls.filterMap Calling.write?).foldl write d := by
  induction calls generalizing d with
  | nil => rfl
  | cons c cs ih =>
    show setAll (d.call c).2 cs = _
    rw [ih, List.filterMap_cons]
    cases h : c.write? with
    | some w => rw [call_of_write h]; rfl
    | none =>
      obtain ⟨e, he⟩ := call_of_refused h d
      rw [he]

/-! ## Fields -/

/-- A field of a draft: how it is read, and what a write puts into it, if it is for this field. -/
structure Field (α : Type) where
  slot : Slot
  read : Draft → α
  put? : Write → Option α
  read_write : ∀ d w, read (d.write w) = (put? w).getD (read d)
  put?_of_ne : ∀ w, w.slot ≠ slot → put? w = none

namespace Field

/-- The occurrence of a draft. -/
def occurrence : Field Occurrence where
  slot := .occurrence
  read := Draft.occurrence
  put? | .occurrence o => some o | _ => none
  read_write d w := by cases w <;> rfl
  put?_of_ne w h := by cases w <;> first | rfl | exact absurd rfl h

/-- Whether a value is split, in a draft. -/
def split : Field Bool where
  slot := .split
  read := Draft.split
  put? | .split on => some on | _ => none
  read_write d w := by cases w <;> rfl
  put?_of_ne w h := by cases w <;> first | rfl | exact absurd rfl h

/-- Whether any member may match, in a draft. -/
def disjunct : Field Bool where
  slot := .disjunct
  read := Draft.disjunct
  put? | .disjunct on => some on | _ => none
  read_write d w := by cases w <;> rfl
  put?_of_ne w h := by cases w <;> first | rfl | exact absurd rfl h

/-- Whether beginnings match, in a draft. -/
def wildcarded : Field Bool where
  slot := .wildcarded
  read := Draft.wildcarded
  put? | .wildcarded on => some on | _ => none
  read_write d w := by cases w <;> rfl
  put?_of_ne w h := by cases w <;> first | rfl | exact absurd rfl h

/-- The fuzziness of a draft. -/
def fuzziness : Field (Option Number) where
  slot := .fuzziness
  read := Draft.fuzziness
  put? | .fuzziness f => some (f.map .double) | _ => none
  read_write d w := by cases w <;> rfl
  put?_of_ne w h := by cases w <;> first | rfl | exact absurd rfl h

variable {α : Type} (k : Field α)

/-- What the last of the calls that was for a field, and was not refused, wrote into it. -/
def last? (calls : List Calling) : Option α :=
  (calls.filterMap fun c => c.write?.bind k.put?).getLast?

/-- After any writes a field holds the value of the last one for it, or what it held before. -/
theorem read_writeAll (ws : List Write) (d : Draft) :
    k.read (ws.foldl write d) = ((ws.filterMap k.put?).getLast?).getD (k.read d) := by
  induction ws generalizing d with
  | nil => rfl
  | cons w ws ih =>
    rw [List.foldl_cons, ih, k.read_write, List.filterMap_cons]
    cases k.put? w with
    | none => rfl
    | some a =>
      show (List.getLast? _).getD a = _
      rw [List.getLast?_cons]
      rfl

theorem read_setAll (d : Draft) (calls : List Calling) :
    k.read (d.setAll calls) = (k.last? calls).getD (k.read d) := by
  rw [setAll_eq, read_writeAll, List.filterMap_filterMap, last?]

/-- Only the calls of a field's own setters count for it. -/
theorem last?_filter (calls : List Calling) :
    k.last? (calls.filter fun c => c.setter.slot = k.slot) = k.last? calls := by
  rw [last?, List.filterMap_filter, last?]
  congr 2
  funext c
  split
  · rfl
  · rename_i hc
    symm
    cases hw : c.write? with
    | none => rfl
    | some w =>
      apply k.put?_of_ne
      rw [call_of_slot hw]
      simpa using hc

end Field

/-- A draft is known by its fields. -/
theorem eq_of_reads {d e : Draft} (h : ∀ {α : Type} (k : Field α), k.read d = k.read e) : d = e := by
  have ho : d.occurrence = e.occurrence := h Field.occurrence
  have hs : d.split = e.split := h Field.split
  have hd : d.disjunct = e.disjunct := h Field.disjunct
  have hw : d.wildcarded = e.wildcarded := h Field.wildcarded
  have hf : d.fuzziness = e.fuzziness := h Field.fuzziness
  cases d
  cases e
  simp_all

/-- Two runs in which the calls for each field are the same, in their order, end alike. -/
theorem setAll_of_same_filters (d : Draft) {calls others : List Calling}
    (h : ∀ k, calls.filter (fun c => c.setter.slot = k) = others.filter fun c => c.setter.slot = k) :
    d.setAll calls = d.setAll others := by
  apply eq_of_reads
  intro α k
  rw [k.read_setAll, k.read_setAll, ← k.last?_filter calls, h, k.last?_filter]

/-! ## Validity -/

/-- A draft whose fuzziness, if it has one, is a fuzziness. -/
def Sound (d : Draft) : Prop := ∀ f, d.fuzziness = some f → Modifier.isFuzziness f = true

theorem Sound.build {d : Draft} (hd : d.Sound) :
    d.build = .ok ⟨d.occurrence, d.split, d.disjunct, d.wildcarded, d.fuzziness⟩ :=
  Modifier.checked_eq hd

/-- A call that sets a fraction below one, which double precision rounds up to one. -/
def Calling.RoundsUp (c : Calling) : Prop :=
  ∃ q : Rat, c.setter = .setFuzziness (.fraction q) ∧ 0 ≤ q ∧ q < 1 ∧ Double.ofRat q = .one

/-- The fuzziness that calls leave behind was rounded up: one of them does it, and no later one sets
    the fuzziness. -/
def RoundedUp (calls : List Calling) : Prop :=
  ∃ before c after, calls = before ++ c :: after ∧ c.RoundsUp ∧
    ∀ later ∈ after, later.setter.slot = .fuzziness → later.write? = none

theorem isFuzziness_of_fuzziness? {v : Value} {x : Double} (h : v.fuzziness? = some (some x)) :
    Modifier.isFuzziness (.double x) = true := by
  obtain ⟨g, -, hg, hx⟩ := Value.asFuzziness_of_some h
  obtain ⟨f, rfl, rfl⟩ := Option.map_eq_some_iff.mp hx
  apply Modifier.isFuzziness_toDouble
  rw [Modifier.checkFuzziness] at hg
  split at hg
  · assumption
  · cases hg

/-- **What is written as the fuzziness** is one, unless it was rounded up. -/
theorem isFuzziness_of_write {c : Calling} {x : Double} (h : c.write? = some (.fuzziness (some x))) :
    Modifier.isFuzziness (.double x) = true ∨ x = .one ∧ c.RoundsUp := by
  obtain ⟨qs, s⟩ := c
  cases s
  case setFuzziness a =>
    obtain ⟨f, hf, hw⟩ := Option.map_eq_some_iff.mp h
    cases hw
    cases a with
    | value v => exact .inl (isFuzziness_of_fuzziness? hf)
    | fraction q =>
      rw [SetterArg.fuzziness?] at hf
      split at hf
      · rename_i hq
        obtain rfl : Double.ofRat q = x := by simpa using hf
        rcases Modifier.isFuzziness_ofRat hq.1 hq.2 with hin | hone
        · exact .inl hin
        · exact .inr ⟨hone, q, rfl, hq.1, hq.2, hone⟩
      · cases hf
  case occurrence a =>
    obtain ⟨o, -, hw⟩ := Option.map_eq_some_iff.mp h
    cases hw
  all_goals cases h

theorem Calling.RoundsUp.write?_eq {c : Calling} (hc : c.RoundsUp) :
    c.write? = some (.fuzziness (some .one)) := by
  obtain ⟨q, hs, hlow, hhigh, hone⟩ := hc
  rw [Calling.write?, hs, Setter.write?, SetterArg.fuzziness?, if_pos ⟨hlow, hhigh⟩, hone]
  rfl

namespace Field

/-- Where the last of the calls stands that wrote into a field. -/
theorem last?_eq_some_iff {α : Type} (k : Field α) {calls : List Calling} {a : α} :
    k.last? calls = some a ↔ ∃ before c after, calls = before ++ c :: after ∧
      c.write?.bind k.put? = some a ∧ ∀ later ∈ after, later.write?.bind k.put? = none := by
  rw [last?, List.getLast?_filterMap, List.findSome?_eq_some_iff]
  constructor
  · rintro ⟨after, c, before, hcalls, hc, hafter⟩
    refine ⟨before.reverse, c, after.reverse, ?_, hc, fun later hlater =>
      hafter later (List.mem_reverse.mp hlater)⟩
    have h := congrArg List.reverse hcalls
    simpa using h
  · rintro ⟨before, c, after, rfl, hc, hafter⟩
    refine ⟨after.reverse, c, before.reverse, by simp, hc, fun later hlater =>
      hafter later (List.mem_reverse.mp hlater)⟩

/-- A call writes no fuzziness exactly if it is for another field or is refused. -/
theorem put?_fuzziness_eq_none_iff {c : Calling} :
    c.write?.bind fuzziness.put? = none ↔ (c.setter.slot = .fuzziness → c.write? = none) := by
  cases hw : c.write? with
  | none => simp
  | some w =>
    rw [← call_of_slot hw]
    cases w <;> simp [Field.fuzziness, Write.slot]

end Field

/-- **The fuzziness of a draft** is one, or it was rounded up. -/
theorem Sound.setAll {d : Draft} (hd : d.Sound) (calls : List Calling) :
    (d.setAll calls).Sound ∨
      (d.setAll calls).fuzziness = some (.double .one) ∧ RoundedUp calls := by
  have hread : (d.setAll calls).fuzziness = (Field.fuzziness.last? calls).getD d.fuzziness :=
    Field.fuzziness.read_setAll d calls
  cases hlast : Field.fuzziness.last? calls with
  | none =>
    refine .inl fun f hf => hd f ?_
    rw [hlast] at hread
    exact hread.symm.trans hf
  | some f =>
    rw [hlast] at hread
    obtain ⟨before, c, after, hcalls, hc, hafter⟩ := (Field.last?_eq_some_iff _).mp hlast
    obtain ⟨w, hw, hput⟩ := Option.bind_eq_some_iff.mp hc
    cases w with
    | fuzziness g =>
      obtain rfl : g.map Number.double = f := by simpa [Field.fuzziness] using hput
      cases g with
      | none =>
        refine .inl fun f hf => ?_
        rw [hread] at hf
        cases hf
      | some x =>
        rcases isFuzziness_of_write hw with hin | ⟨rfl, hrounds⟩
        · refine .inl fun f hf => ?_
          rw [hread] at hf
          cases hf
          exact hin
        · exact .inr ⟨hread, before, c, after, hcalls, hrounds, fun later hlater =>
            Field.put?_fuzziness_eq_none_iff.mp (hafter later hlater)⟩
    | _ => cases hput

/-- If the fuzziness was rounded up, then it is the number one. -/
theorem RoundedUp.fuzziness_eq {calls : List Calling} (h : RoundedUp calls) (d : Draft) :
    (d.setAll calls).fuzziness = some (.double .one) := by
  have hread : (d.setAll calls).fuzziness = (Field.fuzziness.last? calls).getD d.fuzziness :=
    Field.fuzziness.read_setAll d calls
  obtain ⟨before, c, after, hcalls, hrounds, hafter⟩ := h
  have hlast : Field.fuzziness.last? calls = some (some (.double .one)) := by
    refine (Field.last?_eq_some_iff _).mpr ⟨before, c, after, hcalls, ?_, fun later hlater =>
      Field.put?_fuzziness_eq_none_iff.mpr (hafter later hlater)⟩
    rw [hrounds.write?_eq]
    rfl
  rw [hread, hlast]
  rfl

/-- A draft with the number one as its fuzziness makes no modifier. -/
theorem build_of_one {d : Draft} (h : d.fuzziness = some (.double .one)) :
    d.build = .error (.invalidFuzziness (.double .one)) := by
  have hout : ¬ Modifier.isFuzziness (.double .one) = true := by decide +kernel
  rw [build, Modifier.checked, h, Modifier.checkFuzziness, if_neg hout]
  rfl

/-! ## The result -/

/-- How a draft comes to be: afresh, or with the fields of a valid modifier. -/
inductive Started : Draft → Prop
  | fresh : Started {}
  | copied {m : Modifier} {d : Draft} (hm : m.Valid) (h : copyOf? (some m) = .ok d) : Started d

theorem Started.sound {d : Draft} (hd : d.Started) : d.Sound := by
  cases hd with
  | fresh => intro f hf; cases hf
  | copied hm h => cases h; exact hm

/-- A copy of a valid modifier makes an equal one. -/
theorem exists_build_copy {m : Modifier} (hm : m.Valid) :
    ∃ d n, copyOf? (some m) = .ok d ∧ d.build = .ok n ∧ m.equal n = true :=
  ⟨ofModifier m, m, rfl, Modifier.checked_eq hm, Modifier.equal_self hm⟩

/-- **The last write wins.**  Whatever is called on a draft, each field is what the last call for it
    wrote that was not refused, or what it was at first; so runs that agree on the calls for each field
    end alike.  A refused call changes nothing.  A valid modifier can be made of the draft unless the
    fuzziness in it was rounded up to one, and then it is refused. -/
theorem Started.last_write_wins {d : Draft} (hd : d.Started) (calls : List Calling) :
    let e := d.setAll calls
    (e.occurrence = (Field.occurrence.last? calls).getD d.occurrence ∧
      e.split = (Field.split.last? calls).getD d.split ∧
      e.disjunct = (Field.disjunct.last? calls).getD d.disjunct ∧
      e.wildcarded = (Field.wildcarded.last? calls).getD d.wildcarded ∧
      e.fuzziness = (Field.fuzziness.last? calls).getD d.fuzziness) ∧
    (¬ RoundedUp calls → e.build = .ok ⟨e.occurrence, e.split, e.disjunct, e.wildcarded, e.fuzziness⟩ ∧
      ∀ f, e.fuzziness = some f →
        (Number.int 0).le f = true ∧ f.lt (.int 1) = true ∧ f ≠ .double .nan) ∧
    (RoundedUp calls → e.build = .error (.invalidFuzziness (.double .one))) ∧
    (∀ others, (∀ k, calls.filter (fun c => c.setter.slot = k) =
        others.filter fun c => c.setter.slot = k) → e = d.setAll others) ∧
    (∀ c, (e.call c).1 = .ok () ↔ ∃ w, c.write? = some w) ∧
    (∀ c f, (e.call c).1 = .error f → (e.call c).2 = e) ∧
    ∀ m : Modifier, m.Valid →
      ∃ copy n, copyOf? (some m) = .ok copy ∧ copy.build = .ok n ∧ m.equal n = true := by
  intro e
  refine ⟨⟨?_, ?_, ?_, ?_, ?_⟩, ?_, ?_, ?_, ?_, ?_, fun m hm => exists_build_copy hm⟩
  · exact Field.occurrence.read_setAll d calls
  · exact Field.split.read_setAll d calls
  · exact Field.disjunct.read_setAll d calls
  · exact Field.wildcarded.read_setAll d calls
  · exact Field.fuzziness.read_setAll d calls
  · intro hnot
    have hs : e.Sound := (hd.sound.setAll calls).resolve_right fun h => hnot h.2
    refine ⟨hs.build, fun f hf => ?_⟩
    have hin : Modifier.isFuzziness f = true := hs f hf
    have hends := Bool.and_eq_true_iff.mp hin
    refine ⟨hends.1, hends.2, ?_⟩
    rintro rfl
    exact absurd hin (by decide)
  · intro hrounded
    exact build_of_one (hrounded.fuzziness_eq d)
  · intro others h
    exact setAll_of_same_filters d h
  · intro c
    cases h : c.write? with
    | some w =>
      rw [call_of_write h]
      exact ⟨fun _ => ⟨w, rfl⟩, fun _ => rfl⟩
    | none =>
      obtain ⟨f, hf⟩ := call_of_refused h e
      rw [hf]
      constructor
      · intro hok; cases hok
      · rintro ⟨w, hw⟩; cases hw
  · intro c f h
    cases hw : c.write? with
    | some w => rw [call_of_write hw] at h; cases h
    | none =>
      obtain ⟨f', hf⟩ := call_of_refused hw e
      rw [hf]

/-- A refused call between others: the fuzziness that was copied stays, in its form. -/
theorem last_write_wins_refused :
    let calls := ([.required, .setFuzziness (.value (.text "x".toList)), .excluded].map
      (Calling.mk ⟨fun _ => [], fun _ => {}⟩))
    ¬ RoundedUp calls ∧
      ((ofModifier { fuzziness := some (.int 0) }).setAll calls).build
        = .ok ⟨.prohibited, false, false, false, some (.int 0)⟩ := by
  intro calls
  have hd : Started (ofModifier { fuzziness := some (.int 0) }) :=
    .copied (m := { fuzziness := some (.int 0) }) (by decide +kernel) rfl
  have hnot : ¬ RoundedUp calls := by
    rintro ⟨before, c, after, hcalls, ⟨q, hq, -⟩, -⟩
    have hc : c ∈ calls := by rw [hcalls]; simp
    simp only [calls, List.map_cons, List.map_nil, List.mem_cons, List.not_mem_nil, or_false] at hc
    rcases hc with rfl | rfl | rfl <;> cases hq
  obtain ⟨⟨ho, -, -, -, hf⟩, hbuild, -⟩ := hd.last_write_wins calls
  refine ⟨hnot, ?_⟩
  rw [(hbuild hnot).1, ho, hf]
  rfl

/-- A fraction below one passes the check, and is then refused as the number that it was rounded to. -/
theorem build_refused_after_rounding :
    let q : Rat := mkRat 99999999999999999999 100000000000000000000
    let c : Calling := ⟨⟨fun _ => [], fun _ => {}⟩, .setFuzziness (.fraction q)⟩
    Started {} ∧ q < 1 ∧ (({} : Draft).call c).1 = .ok () ∧
      (({} : Draft).setAll [c]).build = .error (.invalidFuzziness (.double .one)) := by
  intro q c
  have hq : 0 ≤ q ∧ q < 1 := by decide +kernel
  have hone : Double.ofRat q = .one := by decide +kernel
  have hrounds : c.RoundsUp := ⟨q, rfl, hq.1, hq.2, hone⟩
  have hcall : ({} : Draft).call c = (.ok (), _) := call_of_write hrounds.write?_eq {}
  have hrounded : RoundedUp [c] := by
    refine ⟨[], c, [], rfl, hrounds, ?_⟩
    intro later hlater
    cases hlater
  exact ⟨.fresh, hq.2, congrArg Prod.fst hcall, build_of_one (hrounded.fuzziness_eq {})⟩

end Draft
end SearchQuery
