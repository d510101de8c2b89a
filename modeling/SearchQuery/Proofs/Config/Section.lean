/-
  Which sections describe a modifier, and which modifier they describe.

  1. **Values** — what each field is read from: `flag_eq_ok_iff`, `occurrence_eq_ok_iff` and, as long as it
     is a fuzziness, `fuzziness_eq_ok_iff`.  An integer is rounded before it is compared with the limits
     of a fuzziness, but no other than zero comes between them.
  2. **Entries (`Permitted`)** — the entries that may stand in a section, said without the reader: the name
     of a field, with a value that the field can have.
  3. **Sections (`modifier_eq_ok_iff`)** — a section is read exactly when all of its entries are permitted,
     and then each field has the value that is given for it.  This says nothing of the order of the
     entries, and leaves no choice of the modifier (`Gives.unique`).
-/
import SearchQuery.Proofs.Config.Precedence

namespace SearchQuery

theorem Occurrence.eq_name_of_ofName? {t : Text} {o : Occurrence} (h : ofName? t = some o) :
    t = o.name := by
  unfold ofName? at h
  split at h
  · rename_i ht
    cases h
    exact ht
  split at h
  · rename_i ht
    cases h
    exact ht
  split at h
  · rename_i ht
    cases h
    exact ht
  · cases h

namespace ModifierSection

variable {field : Text} {d : Document} {es : Configuration} {e : Scalar × Document} {m : Modifier}

/-! ## Values -/

theorem flag_eq_ok_iff {b : Bool} : flag field d = .ok b ↔ d = .flag b := by
  constructor
  · intro h
    unfold flag at h
    split at h
    · cases h
      rfl
    · cases h
  · rintro rfl
    rfl

theorem occurrence_eq_ok_iff {o : Occurrence} : occurrence field d = .ok o ↔ d = .text o.name := by
  constructor
  · intro h
    unfold occurrence at h
    split at h
    · rename_i t
      cases ho : Occurrence.ofName? t with
      | none => rw [ho] at h; cases h
      | some o' =>
        rw [ho] at h
        cases h
        exact congrArg Document.text (Occurrence.eq_name_of_ofName? ho)
    · cases h
  · rintro rfl
    show occurrence field (.scalar (.text o.name)) = .ok o
    simp only [occurrence, Occurrence.ofName?_name]

/-- A fuzziness as a value of its field, or the value that says that there is none. -/
def fuzzinessValue : Option Number → Document
  | none => .null
  | some f => .scalar (.number f)

/-- What is read for a number is that number in double precision. -/
theorem eq_of_fuzziness_eq_ok {f v : Option Number} (h : fuzziness field (fuzzinessValue f) = .ok v) :
    v = f.map fun f => .double f.toDouble := by
  revert h
  generalize hd : fuzzinessValue f = d
  fun_cases fuzziness field d with
  | case1 =>
    intro h
    cases f with
    | none => exact (Except.ok.inj h).symm
    | some f => cases hd
  | case2 => intro h; cases h
  | case3 n =>
    intro h
    cases f with
    | none => cases hd
    | some f =>
      obtain rfl : f = .int n := Scalar.number.inj (Document.scalar.inj hd)
      exact (Except.ok.inj h).symm
  | case4 x =>
    intro h
    cases f with
    | none => cases hd
    | some f =>
      obtain rfl : f = .double x := Scalar.number.inj (Document.scalar.inj hd)
      exact (Except.ok.inj h).symm
  | case5 => cases f <;> cases hd
  | case6 => intro h; cases h

/-- A number that may be given as a fuzziness: not a truth value, and between the limits. -/
structure IsGivenFuzziness (f : Number) : Prop where
  number : ∀ b, f ≠ .flag b
  limits : Modifier.isFuzziness f = true

/-- An integer that has a place in double precision is read as that. -/
theorem fuzziness_int_of_finite {n : Int} {s : Bool} {u : Nat} (h : Double.ofInt n = .finite s u) :
    fuzziness field (.scalar (.number (.int n))) = .ok (some (.double (.finite s u))) := by
  generalize hd : Document.scalar (.number (.int n)) = d
  fun_cases fuzziness field d with
  | case1 => cases hd
  | case2 n' t hinfinity =>
    obtain rfl : n = n' := Number.int.inj (Scalar.number.inj (Document.scalar.inj hd))
    rw [h] at hinfinity
    cases hinfinity
  | case3 n' =>
    obtain rfl : n = n' := Number.int.inj (Scalar.number.inj (Document.scalar.inj hd))
    rw [h]
  | case4 => cases hd
  | case5 => cases hd
  | case6 _ _ hint => exact absurd hd.symm (hint n)

/-- A fuzziness that is given is read, and so is that there is none. -/
theorem fuzziness_of_given {f : Option Number} (h : ∀ g, f = some g → IsGivenFuzziness g) :
    fuzziness field (fuzzinessValue f) = .ok (f.map fun f => .double f.toDouble) := by
  cases f with
  | none => rfl
  | some f =>
    obtain ⟨hnumber, hlimits⟩ := h f rfl
    rcases Number.cases_of_isFuzziness hlimits with rfl | rfl | ⟨s, u, rfl⟩
    · exact absurd rfl (hnumber false)
    · have hzero : Double.ofInt 0 = .finite false 0 := by decide +kernel
      have hdouble : (Number.int 0).toDouble = .finite false 0 := hzero
      rw [Option.map_some, hdouble]
      exact fuzziness_int_of_finite hzero
    · rfl

/-- **What is read as a fuzziness** between the limits was given as one, or as none. -/
theorem given_of_fuzziness_eq_ok {v : Option Number} (h : fuzziness field d = .ok v)
    (hlimits : ∀ f, v = some f → Modifier.isFuzziness f = true) :
    ∃ f, d = fuzzinessValue f ∧ ∀ g, f = some g → IsGivenFuzziness g := by
  revert h
  fun_cases fuzziness field d with
  | case1 => exact fun _ => ⟨none, rfl, fun g hg => nomatch hg⟩
  | case2 => intro h; cases h
  | case3 n =>
    intro h
    obtain rfl := Number.eq_zero_of_isFuzziness_ofInt (hlimits _ (Except.ok.inj h).symm)
    refine ⟨some (.int 0), rfl, fun g hg => ?_⟩
    obtain rfl := Option.some.inj hg
    exact ⟨fun b hb => (nomatch hb), by decide +kernel⟩
  | case4 x =>
    intro h
    refine ⟨some (.double x), rfl, fun g hg => ?_⟩
    obtain rfl := Option.some.inj hg
    exact ⟨fun b hb => (nomatch hb), hlimits _ (Except.ok.inj h).symm⟩
  | case5 =>
    intro h
    exact absurd (hlimits _ (Except.ok.inj h).symm) (by decide)
  | case6 => intro h; cases h

/-! ## Entries -/

/-- The names of the fields that hold truth values. -/
def flagNames : List Text := ["split".toList, "disjunct".toList, "wildcarded".toList]

/-- The entries that may stand in a section. -/
inductive Permitted : Scalar × Document → Prop
  | occurrence (o : Occurrence) : Permitted (.text "term_modifier".toList, .text o.name)
  | flag {name : Text} (h : name ∈ flagNames) (b : Bool) : Permitted (.text name, .flag b)
  | fuzziness (f : Option Number) (h : ∀ g, f = some g → IsGivenFuzziness g) :
      Permitted (.text "fuzziness".toList, fuzzinessValue f)

/-- What a permitted entry gives for each kind of field. -/
theorem Permitted.value {name : Text} (h : Permitted (.text name, d)) :
    (name = "term_modifier".toList → ∃ o : Occurrence, d = .text o.name) ∧
      (name ∈ flagNames → ∃ b, d = .flag b) ∧
      (name = "fuzziness".toList →
        ∃ f, d = fuzzinessValue f ∧ ∀ g, f = some g → IsGivenFuzziness g) := by
  generalize he : (Scalar.text name, d) = e at h
  cases h with
  | occurrence o =>
    obtain ⟨hk, rfl⟩ := Prod.mk.inj he
    obtain rfl := Scalar.text.inj hk
    exact ⟨fun _ => ⟨o, rfl⟩, fun hflag => absurd hflag (by decide), fun hf => absurd hf (by decide)⟩
  | flag hflag b =>
    obtain ⟨hk, rfl⟩ := Prod.mk.inj he
    obtain rfl := Scalar.text.inj hk
    refine ⟨fun ho => ?_, fun _ => ⟨b, rfl⟩, fun hf => ?_⟩
    · exact absurd (ho ▸ hflag) (by decide)
    · exact absurd (hf ▸ hflag) (by decide)
  | fuzziness f hgiven =>
    obtain ⟨hk, rfl⟩ := Prod.mk.inj he
    obtain rfl := Scalar.text.inj hk
    exact ⟨fun ho => absurd ho (by decide), fun hflag => absurd hflag (by decide),
      fun _ => ⟨f, rfl, hgiven⟩⟩

theorem setField_occurrence (m : Modifier) (o : Occurrence) :
    setField m (.text "term_modifier".toList, .text o.name) = .ok { m with occurrence := o } := by
  cases o <;> rfl

theorem setField_fuzziness (m : Modifier) {f : Option Number}
    (h : ∀ g, f = some g → IsGivenFuzziness g) :
    setField m (.text "fuzziness".toList, fuzzinessValue f)
      = .ok { m with fuzziness := f.map fun f => .double f.toDouble } := by
  have hset (d : Document) : setField m (.text "fuzziness".toList, d)
      = (fuzziness "fuzziness" d).bind fun v => .ok { m with fuzziness := v } := rfl
  rw [hset, fuzziness_of_given h]
  rfl

/-- A permitted entry is read. -/
theorem Permitted.accepts (h : Permitted e) : Accepts e := by
  cases h with
  | occurrence o => exact ⟨_, setField_occurrence {} o⟩
  | flag h b =>
    rcases List.mem_cons.mp h with rfl | h
    · exact ⟨_, rfl⟩
    rcases List.mem_cons.mp h with rfl | h
    · exact ⟨_, rfl⟩
    obtain rfl := List.mem_singleton.mp h
    exact ⟨_, rfl⟩
  | fuzziness f h => exact ⟨_, setField_fuzziness {} h⟩

/-- An entry that is read is permitted, as long as what it gives for a fuzziness is one. -/
theorem Accepts.permitted (h : Accepts e)
    (hlimits : ∀ d f, e = (.text "fuzziness".toList, d) → fuzziness "fuzziness" d = .ok (some f) →
      Modifier.isFuzziness f = true) : Permitted e := by
  obtain ⟨m, h⟩ := h
  obtain ⟨k, d⟩ := e
  unfold setField at h
  cases k with
  | text name =>
    simp only at h
    split at h
    · subst_vars
      obtain ⟨o, ho, -⟩ := bind_eq_ok h
      rw [occurrence_eq_ok_iff.mp ho]
      exact .occurrence o
    split at h
    · subst_vars
      obtain ⟨b, hb, -⟩ := bind_eq_ok h
      rw [flag_eq_ok_iff.mp hb]
      exact .flag (by decide) b
    split at h
    · subst_vars
      obtain ⟨b, hb, -⟩ := bind_eq_ok h
      rw [flag_eq_ok_iff.mp hb]
      exact .flag (by decide) b
    split at h
    · subst_vars
      obtain ⟨b, hb, -⟩ := bind_eq_ok h
      rw [flag_eq_ok_iff.mp hb]
      exact .flag (by decide) b
    split at h
    · subst_vars
      obtain ⟨v, hv, -⟩ := bind_eq_ok h
      obtain ⟨f, rfl, hf⟩ := given_of_fuzziness_eq_ok hv fun f hf => hlimits d f rfl (hf ▸ hv)
      exact .fuzziness f hf
    · cases h
  | _ => cases h

/-! ## Sections -/

/-- A field has the value that an entry gives for it, or its standard value if there is no such entry. -/
structure Filled {α β : Type} (es : Configuration) (name : Text) (written : α → Document)
    (meant : α → β) (standard value : β) : Prop where
  given : ∀ a, (.text name, written a) ∈ es → value = meant a
  standard : (∀ d, (.text name, d) ∉ es) → value = standard

/-- The fields of a modifier have the values that the entries of a section give for them. -/
structure Gives (es : Configuration) (m : Modifier) : Prop where
  occurrence : Filled es "term_modifier" (fun o : Occurrence => .text o.name) id .plain m.occurrence
  split : Filled es "split" .flag id false m.split
  disjunct : Filled es "disjunct" .flag id false m.disjunct
  wildcarded : Filled es "wildcarded" .flag id false m.wildcarded
  fuzziness : Filled es "fuzziness" fuzzinessValue (Option.map fun f => .double f.toDouble) none
    m.fuzziness

section Fields

variable {α β : Type} {name : Text} {written : α → Document} {meant : α → β} {standard value value' : β}

/-- A field that takes what is read from its entry has the value that the entry gives. -/
theorem filled_of_takes {read : Document → Except SectionFault β} (hkeyed : Entries.Keyed es)
    (hread : ∀ a b, read (written a) = .ok b → b = meant a)
    (h : Takes read (Entries.get? (.text name) es) standard value) :
    Filled es name written meant standard value := by
  refine ⟨fun a ha => ?_, fun hnone => ?_⟩
  · rw [Entries.get?_of_mem (Scalar.sameKey_text_right.mpr rfl) hkeyed ha] at h
    exact hread a value h
  · have hget : Entries.get? (.text name) es = none :=
      Entries.get?_eq_none fun ⟨k, d⟩ he => Scalar.sameKey_text_eq_false fun hk =>
        hnone d (by rwa [← show k = _ from hk])
    rw [hget] at h
    exact h

/-- There is one value that the entries of a section give. -/
theorem Filled.unique (h : Filled es name written meant standard value)
    (h' : Filled es name written meant standard value')
    (hpermitted : ∀ d, (.text name, d) ∈ es → ∃ a, d = written a) : value = value' := by
  by_cases hnone : ∀ d, (.text name, d) ∉ es
  · rw [h.standard hnone, h'.standard hnone]
  · obtain ⟨d, hd⟩ := Classical.not_forall.mp hnone
    have hmem := Classical.not_not.mp hd
    obtain ⟨a, rfl⟩ := hpermitted d hmem
    rw [h.given a hmem, h'.given a hmem]

end Fields

/-- **The modifier of a section** is settled by the values that its entries give. -/
theorem Gives.unique {n : Modifier} (hes : ∀ e ∈ es, Permitted e) (h : Gives es m) (h' : Gives es n) :
    m = n := by
  have hflag (name : Text) (hname : name ∈ flagNames) :
      ∀ d, (.text name, d) ∈ es → ∃ b, d = .flag b := fun d hd => (hes _ hd).value.2.1 hname
  have ho := h.occurrence.unique h'.occurrence fun d hd => (hes _ hd).value.1 rfl
  have hs := h.split.unique h'.split (hflag _ (by decide))
  have hd := h.disjunct.unique h'.disjunct (hflag _ (by decide))
  have hw := h.wildcarded.unique h'.wildcarded (hflag _ (by decide))
  have hf := h.fuzziness.unique h'.fuzziness fun d hd =>
    ((hes _ hd).value.2.2 rfl).imp fun _ => And.left
  cases m
  cases n
  simp_all

/-- A section that is read gives its fields. -/
theorem gives_of_foldlM (hkeyed : Entries.Keyed es) (h : es.foldlM setField {} = .ok m) : Gives es m := by
  have hsets := sets_foldlM hkeyed h
  have hflag (field : Text) (a b : Bool) (hb : flag field (.flag a) = .ok b) : b = id a :=
    (Except.ok.inj hb).symm
  have hoccurrence (o o' : Occurrence) (ho : occurrence "term_modifier" (.text o.name) = .ok o') :
      o' = id o := by
    have hname : o.name = o'.name :=
      Scalar.text.inj (Document.scalar.inj (occurrence_eq_ok_iff.mp ho))
    have hboth := Occurrence.ofName?_name o
    rw [hname, Occurrence.ofName?_name] at hboth
    exact Option.some.inj hboth
  exact ⟨filled_of_takes hkeyed hoccurrence hsets.occurrence,
    filled_of_takes hkeyed (hflag _) hsets.split, filled_of_takes hkeyed (hflag _) hsets.disjunct,
    filled_of_takes hkeyed (hflag _) hsets.wildcarded,
    filled_of_takes hkeyed (fun _ _ => eq_of_fuzziness_eq_ok) hsets.fuzziness⟩

/-- A modifier whose fields are given by permitted entries is valid. -/
theorem Gives.valid (hes : ∀ e ∈ es, Permitted e) (h : Gives es m) : m.Valid := by
  intro g hg
  by_cases hnone : ∀ d, (.text "fuzziness".toList, d) ∉ es
  · rw [h.fuzziness.standard hnone] at hg
    cases hg
  · obtain ⟨d, hd⟩ := Classical.not_forall.mp hnone
    have hmem := Classical.not_not.mp hd
    obtain ⟨f, rfl, hgiven⟩ := (hes _ hmem).value.2.2 rfl
    rw [h.fuzziness.given f hmem] at hg
    obtain ⟨f', rfl, rfl⟩ := Option.map_eq_some_iff.mp hg
    exact Modifier.isFuzziness_toDouble (hgiven f' rfl).limits

/-- **A section is read** exactly when its entries are permitted, as the modifier that they give. -/
theorem read_eq_ok_iff (hkeyed : Entries.Keyed es) :
    read es = .ok m ↔ (∀ e ∈ es, Permitted e) ∧ Gives es m := by
  rw [read_eq_ok]
  constructor
  · rintro ⟨hm, hvalid⟩
    refine ⟨fun e he => (accepts_of_foldlM hm e he).permitted fun d f hd hf => ?_,
      gives_of_foldlM hkeyed hm⟩
    subst hd
    have htakes := (sets_foldlM hkeyed hm).fuzziness
    rw [Entries.get?_of_mem (Scalar.sameKey_text_right.mpr rfl) hkeyed he] at htakes
    exact hvalid f (Except.ok.inj (htakes.symm.trans hf))
  · rintro ⟨hes, hgives⟩
    obtain ⟨m', hm'⟩ := exists_foldlM (fun e he => (hes e he).accepts) {}
    obtain rfl := hgives.unique hes (gives_of_foldlM hkeyed hm')
    exact ⟨hm', hgives.valid hes⟩

theorem Gives.perm {es' : Configuration} (hperm : es'.Perm es) (h : Gives es m) : Gives es' m := by
  have hfilled {α β : Type} {name : Text} {written : α → Document} {meant : α → β}
      {standard value : β} (hf : Filled es name written meant standard value) :
      Filled es' name written meant standard value :=
    ⟨fun a ha => hf.given a (hperm.mem_iff.mp ha),
      fun hnone => hf.standard fun d hd => hnone d (hperm.mem_iff.mpr hd)⟩
  exact ⟨hfilled h.occurrence, hfilled h.split, hfilled h.disjunct, hfilled h.wildcarded,
    hfilled h.fuzziness⟩

/-- **The order** of the entries does not matter to a section that is read. -/
theorem read_perm {es' : Configuration} (hperm : es'.Perm es) (hkeyed : Entries.Keyed es)
    (h : read es = .ok m) : read es' = .ok m := by
  obtain ⟨hes, hgives⟩ := (read_eq_ok_iff hkeyed).mp h
  have hkeyed' : Entries.Keyed es' :=
    (hperm.pairwise_iff fun {a b} hab => by rwa [Scalar.sameKey_comm]).mpr hkeyed
  exact (read_eq_ok_iff hkeyed').mpr ⟨fun e he => hes e (hperm.mem_iff.mp he), hgives.perm hperm⟩

end ModifierSection

/-! ## Writing a section -/

namespace Modifier

variable {m : Modifier}

/-- A modifier as a section, with all of its fields. -/
def asSection (m : Modifier) : Configuration :=
  [(.text "term_modifier".toList, .text m.occurrence.name),
    (.text "split".toList, .flag m.split),
    (.text "disjunct".toList, .flag m.disjunct),
    (.text "wildcarded".toList, .flag m.wildcarded),
    (.text "fuzziness".toList, ModifierSection.fuzzinessValue m.fuzziness)]

theorem keyed_asSection (m : Modifier) : Entries.Keyed m.asSection := by
  simp [asSection, Entries.Keyed, Scalar.sameKey]

/-- In double precision the fuzziness of a modifier is another number only if it is zero. -/
theorem twins_fuzzed (hm : m.Valid) : m.Twins (m.fuzzed m.fuzziness) := by
  refine ⟨rfl, rfl, rfl, rfl, ?_⟩
  cases hf : m.fuzziness with
  | none => exact Or.inl rfl
  | some f =>
    rcases Number.cases_of_isFuzziness (hm f hf) with rfl | rfl | ⟨s, u, rfl⟩
    · exact Or.inr ⟨_, _, rfl, rfl, by decide +kernel, by decide +kernel⟩
    · exact Or.inr ⟨_, _, rfl, rfl, by decide +kernel, by decide +kernel⟩
    · exact Or.inl rfl

open ModifierSection in
/-- A section that was written is read back as the modifier, with its fuzziness in double precision. -/
theorem read_asSection (hm : m.Valid) (hnumber : ∀ b, m.fuzziness ≠ some (.flag b)) :
    ModifierSection.read m.asSection = .ok (m.fuzzed m.fuzziness) := by
  have hgiven : ∀ g, m.fuzziness = some g → IsGivenFuzziness g := fun g hg =>
    ⟨fun b hb => hnumber b (hb ▸ hg), hm g hg⟩
  have hsplit (n : Modifier) (b : Bool) :
      setField n (.text "split".toList, .flag b) = .ok { n with split := b } := rfl
  have hdisjunct (n : Modifier) (b : Bool) :
      setField n (.text "disjunct".toList, .flag b) = .ok { n with disjunct := b } := rfl
  have hwildcarded (n : Modifier) (b : Bool) :
      setField n (.text "wildcarded".toList, .flag b) = .ok { n with wildcarded := b } := rfl
  refine read_eq_ok.mpr ⟨?_, fun g hg => ?_⟩
  · simp only [asSection, List.foldlM_cons, List.foldlM_nil, setField_occurrence, hsplit, hdisjunct,
      hwildcarded, setField_fuzziness _ hgiven, bind, Except.bind]
    rfl
  · obtain ⟨f, hf, rfl⟩ := Option.map_eq_some_iff.mp hg
    exact isFuzziness_toDouble (hm f hf)

end Modifier

/-! ## The section of a configuration -/

namespace Configuration

open ModifierSection (Permitted Gives)

/-- **A section describes a modifier** exactly when its entries are permitted: the names of fields, with
    values for them.  Then each field has the value that is given for it, a fuzziness in double precision,
    or its standard value, in whatever order the entries stand; otherwise a value is at fault.  So what a
    modifier is written as is read back as an equal one. -/
theorem section_describes_modifier {c es : Configuration}
    (hsection : Entries.get? (.text "modifier") c = some (.mapping es)) (hkeyed : Entries.Keyed es) :
    ((∃ m, c.modifier = .ok m) ↔ ∀ e ∈ es, Permitted e) ∧
    (∀ m, c.modifier = .ok m ↔ (∀ e ∈ es, Permitted e) ∧ Gives es m) ∧
    ((¬ ∀ e ∈ es, Permitted e) → ∃ f, c.modifier = .error (.modifierSection f) ∧
      (ConfigError.modifierSection f).isValueFault = true) ∧
    (∀ c' es' : Configuration, Entries.get? (.text "modifier") c' = some (.mapping es') →
      es'.Perm es → ∀ m, c.modifier = .ok m → c'.modifier = .ok m) ∧
    ∀ (m : Modifier) (c' es' : Configuration), m.Valid → (∀ b, m.fuzziness ≠ some (.flag b)) →
      Entries.get? (.text "modifier") c' = some (.mapping es') → es'.Perm m.asSection →
      ∃ m', c'.modifier = .ok m' ∧ m.equal m' = true := by
  have hread {c es : Configuration} (h : Entries.get? (.text "modifier") c = some (.mapping es)) :
      c.modifier = (ModifierSection.read es).mapError .modifierSection := by
    have hentries : c.modifierEntries = es := by rw [modifierEntries, h]; rfl
    have hmapping : ∀ d, Entries.get? (.text "modifier") c = some d → d.isMapping = true := by
      intro d hd
      rw [h] at hd
      obtain rfl := Option.some.inj hd
      rfl
    rw [modifier_eq_read hmapping, hentries]
  have hok {c es : Configuration} (h : Entries.get? (.text "modifier") c = some (.mapping es))
      (m : Modifier) : c.modifier = .ok m ↔ ModifierSection.read es = .ok m := by
    rw [hread h]
    cases ModifierSection.read es with
    | error f =>
      constructor
      · intro h; cases h
      · intro h; cases h
    | ok n => exact ⟨fun h => congrArg _ (Except.ok.inj h), fun h => congrArg _ (Except.ok.inj h)⟩
  have hgiven (m : Modifier) : c.modifier = .ok m ↔ (∀ e ∈ es, Permitted e) ∧ Gives es m := by
    rw [hok hsection m, ModifierSection.read_eq_ok_iff hkeyed]
  have hexists : (∃ m, c.modifier = .ok m) ↔ ∀ e ∈ es, Permitted e := by
    constructor
    · rintro ⟨m, hm⟩
      exact ((hgiven m).mp hm).1
    · intro hes
      obtain ⟨m, hm⟩ := ModifierSection.exists_foldlM (fun e he => (hes e he).accepts) {}
      exact ⟨m, (hgiven m).mpr ⟨hes, ModifierSection.gives_of_foldlM hkeyed hm⟩⟩
  refine ⟨hexists, hgiven, fun hnot => ?_, fun c' es' hsection' hperm m hm => ?_,
    fun m c' es' hm hnumber hsection' hperm => ?_⟩
  · rw [hread hsection] at hexists ⊢
    cases hfault : ModifierSection.read es with
    | error f => exact ⟨f, rfl, rfl⟩
    | ok n =>
      rw [hfault] at hexists
      exact absurd (hexists.mp ⟨n, rfl⟩) hnot
  · exact (hok hsection' m).mpr (ModifierSection.read_perm hperm hkeyed ((hok hsection m).mp hm))
  · have hwritten := Modifier.read_asSection hm hnumber
    refine ⟨m.fuzzed m.fuzziness, (hok hsection' _).mpr ?_, ?_⟩
    · exact ModifierSection.read_perm hperm m.keyed_asSection hwritten
    · have hvalid := (ModifierSection.read_eq_ok.mp hwritten).2
      exact (Modifier.equal_iff hm hvalid).mpr (Modifier.twins_fuzzed hm)

/-- A fuzziness of zero is given as an integer, the truth value that equals it is refused, and a modifier
    with all of its fields is read back from the last to the first. -/
theorem section_describes_modifier_zero :
    let sectioned (es : Configuration) : Configuration := [(.text "modifier".toList, .mapping es)]
    let m : Modifier := ⟨.prohibited, true, false, true, some (.int 0)⟩
    (∃ n, modifier (sectioned [(.text "split".toList, .flag true),
        (.text "fuzziness".toList, .scalar (.number (.int 0)))]) = .ok n ∧
      n.split = true ∧ n.disjunct = false ∧ n.fuzziness = some (.double (Number.int 0).toDouble)) ∧
    (∃ f, modifier (sectioned [(.text "fuzziness".toList, .flag false)])
      = .error (.modifierSection f)) ∧
    ∃ m', modifier (sectioned m.asSection.reverse) = .ok m' ∧ m.equal m' = true := by
  intro sectioned m
  refine ⟨?_, ?_, ?_⟩
  · obtain ⟨hexists, hgiven, -⟩ := section_describes_modifier
      (c := sectioned [(.text "split".toList, .flag true),
        (.text "fuzziness".toList, .scalar (.number (.int 0)))]) rfl
      (by simp [Entries.Keyed, Scalar.sameKey])
    have hzero : ∀ g, some (Number.int 0) = some g → ModifierSection.IsGivenFuzziness g := by
      intro g hg
      obtain rfl := Option.some.inj hg
      refine ⟨?_, by decide +kernel⟩
      intro b hb
      cases hb
    obtain ⟨n, hn⟩ := hexists.mpr fun e he => by
      rcases List.mem_cons.mp he with rfl | he
      · exact .flag (by decide) true
      · obtain rfl := List.mem_singleton.mp he
        exact .fuzziness _ hzero
    have hgives := ((hgiven n).mp hn).2
    refine ⟨n, hn, hgives.split.given true List.mem_cons_self,
      hgives.disjunct.standard fun d hd => ?_,
      hgives.fuzziness.given (some (.int 0)) (List.mem_cons_of_mem _ List.mem_cons_self)⟩
    rcases List.mem_cons.mp hd with hd | hd
    · exact absurd (Scalar.text.inj (Prod.mk.inj hd).1) (by decide)
    · exact absurd (Scalar.text.inj (Prod.mk.inj (List.mem_singleton.mp hd)).1) (by decide)
  · obtain ⟨-, -, hfault, -⟩ := section_describes_modifier
      (c := sectioned [(.text "fuzziness".toList, .flag false)]) rfl
      (by simp [Entries.Keyed])
    obtain ⟨f, hf, -⟩ := hfault fun hes => by
      obtain ⟨g, hg, hgiven⟩ := (hes _ List.mem_cons_self).value.2.2 rfl
      cases g with
      | none => cases hg
      | some g => exact (hgiven g rfl).number false (Scalar.number.inj (Document.scalar.inj hg)).symm
    exact ⟨f, hf⟩
  · obtain ⟨-, -, -, -, hwritten⟩ := section_describes_modifier (c := sectioned []) rfl
      List.Pairwise.nil
    have hnumber : ∀ b, m.fuzziness ≠ some (.flag b) := by
      intro b hb
      cases hb
    exact hwritten m _ _ (by decide +kernel) hnumber rfl (List.reverse_perm _)

end Configuration
end SearchQuery
