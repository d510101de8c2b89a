/-
  Which source decides a field of the default modifier.

  1. **One section (`ModifierSection.sets_foldlM`)** — the entries of a section are looked at in order,
     each sets the field that it names, and leaves the others; as no key stands twice, each field ends
     up as its entry says.
  2. **All sections (`field?_mergeAll`)** — merging configurations merges their sections, and of a field
     the merge says what the last source says of it that says anything.
  3. **The files (`Configuration.Layers`)** — four places are looked at, and `Layers.field?` says which
     of the files there decides a field; the files that are read come in that order.
  4. **The command (`CommandLine.precedence`)** — the options of a command come before all sources.  For
     each field one source decides, whatever the sources say of the other fields.
-/
import SearchQuery.Proofs.Config.Faults
import SearchQuery.Proofs.Query.Rendering

namespace SearchQuery

/-- A field takes the value that is read from what is said of it, or keeps the standard one if nothing
    is said. -/
def Takes {ε α : Type} (read : Document → Except ε α) (said : Option Document)
    (standard value : α) : Prop :=
  match said with
  | some d => read d = .ok value
  | none => value = standard

/-- Of two things that are said of a field one after the other, where at most one is said. -/
theorem Takes.trans {ε α : Type} {read : Document → Except ε α} {said said' : Option Document}
    {a b c : α} (h : Takes read said a b) (h' : Takes read said' b c)
    (honce : said.isSome = true → said' = none) : Takes read (said.or said') a c := by
  cases said with
  | none =>
    obtain rfl : b = a := h
    simpa using h'
  | some d =>
    obtain rfl := honce rfl
    obtain rfl : c = b := h'
    exact h

/-! ## One section -/

namespace ModifierSection

/-- The second modifier is the first one with the fields set as is said. -/
structure Sets (said : Text → Option Document) (m m' : Modifier) : Prop where
  occurrence : Takes (occurrence "term_modifier") (said "term_modifier") m.occurrence m'.occurrence
  split : Takes (flag "split") (said "split") m.split m'.split
  disjunct : Takes (flag "disjunct") (said "disjunct") m.disjunct m'.disjunct
  wildcarded : Takes (flag "wildcarded") (said "wildcarded") m.wildcarded m'.wildcarded
  fuzziness : Takes (fuzziness "fuzziness") (said "fuzziness") m.fuzziness m'.fuzziness

theorem Sets.trans {said said' : Text → Option Document} {a b c : Modifier} (h : Sets said a b)
    (h' : Sets said' b c) (honce : ∀ name, (said name).isSome = true → said' name = none) :
    Sets (fun name => (said name).or (said' name)) a c :=
  ⟨h.occurrence.trans h'.occurrence (honce _), h.split.trans h'.split (honce _),
    h.disjunct.trans h'.disjunct (honce _), h.wildcarded.trans h'.wildcarded (honce _),
    h.fuzziness.trans h'.fuzziness (honce _)⟩

/-- **One entry** has a text for its key, and sets the field with this name. -/
theorem sets_setField {m m' : Modifier} {e : Scalar × Document} (h : setField m e = .ok m') :
    ∃ name, e.1 = .text name ∧
      Sets (fun field => if name = field then some e.2 else none) m m' := by
  obtain ⟨k, d⟩ := e
  unfold setField at h
  cases k with
  | text name =>
    refine ⟨name, rfl, ?_⟩
    simp only at h
    split at h
    · subst_vars
      obtain ⟨o, ho, h⟩ := bind_eq_ok h
      cases h
      exact ⟨ho, rfl, rfl, rfl, rfl⟩
    split at h
    · subst_vars
      obtain ⟨b, hb, h⟩ := bind_eq_ok h
      cases h
      exact ⟨rfl, hb, rfl, rfl, rfl⟩
    split at h
    · subst_vars
      obtain ⟨b, hb, h⟩ := bind_eq_ok h
      cases h
      exact ⟨rfl, rfl, hb, rfl, rfl⟩
    split at h
    · subst_vars
      obtain ⟨b, hb, h⟩ := bind_eq_ok h
      cases h
      exact ⟨rfl, rfl, rfl, hb, rfl⟩
    split at h
    · subst_vars
      obtain ⟨f, hf, h⟩ := bind_eq_ok h
      cases h
      exact ⟨rfl, rfl, rfl, rfl, hf⟩
    · cases h
  | _ => cases h

/-- **A section** sets each field as its entry says. -/
theorem sets_foldlM : ∀ {es : Configuration} {m m' : Modifier}, Entries.Keyed es →
    es.foldlM setField m = .ok m' → Sets (fun name => Entries.get? (.text name) es) m m'
  | [], m, m', _, h => by
    cases h
    exact ⟨rfl, rfl, rfl, rfl, rfl⟩
  | e :: es, m, m', hkeyed, h => by
    obtain ⟨hfirst, hrest⟩ := List.pairwise_cons.mp hkeyed
    rw [List.foldlM_cons] at h
    obtain ⟨m₁, he, h⟩ := bind_eq_ok h
    obtain ⟨name, hname, hsets⟩ := sets_setField he
    have htrans := hsets.trans (sets_foldlM hrest h) fun field hsome => ?_
    · have hsaid : (fun field => (if name = field then some e.2 else none).or
          (Entries.get? (.text field) es)) = fun field => Entries.get? (.text field) (e :: es) := by
        funext field
        obtain ⟨k, d⟩ := e
        obtain rfl : k = .text name := hname
        by_cases hfield : name = field <;>
          simp [Entries.get?, Scalar.sameKey_text_right, hfield]
      rw [hsaid] at htrans
      exact htrans
    · -- The field is the one of this entry, and no other entry has its key.
      have hfield : name = field := by
        by_cases hfield : name = field
        · exact hfield
        · simp [hfield] at hsome
      refine Entries.get?_eq_none fun e' he' => Scalar.sameKey_text_eq_false fun heq => ?_
      have hother := hfirst e' he'
      rw [hname, heq, hfield, Scalar.sameKey_text_right.mpr rfl] at hother
      cases hother

/-- An entry that can stand in a section. -/
def Accepts (e : Scalar × Document) : Prop := ∃ m, setField {} e = .ok m

/-- Whether an entry is accepted does not depend on the fields that are set before. -/
theorem map_setField (m m' : Modifier) (e : Scalar × Document) :
    (setField m e).map (fun _ => ()) = (setField m' e).map fun _ => () := by
  obtain ⟨k, d⟩ := e
  cases k with
  | text name =>
    simp only [setField]
    split
    · cases occurrence name d <;> rfl
    split
    · cases flag name d <;> rfl
    split
    · cases flag name d <;> rfl
    split
    · cases flag name d <;> rfl
    split
    · cases fuzziness name d <;> rfl
    · rfl
  | _ => rfl

theorem Accepts.exists_setField {e : Scalar × Document} (h : Accepts e) (m : Modifier) :
    ∃ m', setField m e = .ok m' := by
  obtain ⟨m₁, h⟩ := h
  have hmap := map_setField m {} e
  rw [h] at hmap
  cases he : setField m e with
  | error f => rw [he] at hmap; cases hmap
  | ok m' => exact ⟨m', rfl⟩

theorem accepts_of_eq_ok {m m' : Modifier} {e : Scalar × Document} (h : setField m e = .ok m') :
    Accepts e := by
  have hmap := map_setField m {} e
  rw [h] at hmap
  cases he : setField {} e with
  | error f => rw [he] at hmap; cases hmap
  | ok m₁ => exact ⟨m₁, he⟩

/-- A section is read if all its entries are accepted. -/
theorem exists_foldlM : ∀ {es : Configuration}, (∀ e ∈ es, Accepts e) → ∀ m : Modifier,
    ∃ m', es.foldlM setField m = .ok m'
  | [], _, m => ⟨m, rfl⟩
  | e :: es, h, m => by
    obtain ⟨m₁, he⟩ := (h e List.mem_cons_self).exists_setField m
    obtain ⟨m', hes⟩ := exists_foldlM (fun e' he' => h e' (List.mem_cons_of_mem _ he')) m₁
    refine ⟨m', ?_⟩
    rw [List.foldlM_cons, he]
    exact hes

theorem accepts_of_foldlM : ∀ {es : Configuration} {m m' : Modifier},
    es.foldlM setField m = .ok m' → ∀ e ∈ es, Accepts e
  | [], _, _, _, e, he => by cases he
  | e₁ :: es, m, m', h, e, he => by
    rw [List.foldlM_cons] at h
    obtain ⟨m₁, he₁, h⟩ := bind_eq_ok h
    rcases List.mem_cons.mp he with rfl | he
    · exact accepts_of_eq_ok he₁
    · exact accepts_of_foldlM h e he

theorem Accepts.not_isMapping {e : Scalar × Document} (h : Accepts e) : e.2.isMapping = false := by
  obtain ⟨m, h⟩ := h
  obtain ⟨k, d⟩ := e
  cases d with
  | mapping es =>
    cases k with
    | text name =>
      simp only [setField] at h
      split at h
      · cases h
      split at h
      · cases h
      split at h
      · cases h
      split at h
      · cases h
      split at h <;> cases h
    | _ => cases h
  | _ => rfl

open Document (override mergeEntries)

/-- Sections whose entries are accepted merge into one whose entries are. -/
theorem accepts_mergeEntries : ∀ {later : List (Scalar × Document)} {base : Configuration},
    (∀ e ∈ base, Accepts e) → (∀ e ∈ later, Accepts e) → ∀ e ∈ mergeEntries base later, Accepts e
  | [], base, hbase, _, e, he => by
    rw [mergeEntries] at he
    exact hbase e he
  | (k, d) :: later, base, hbase, hlater, e, he => by
    have hkd : Accepts (k, d) := hlater (k, d) List.mem_cons_self
    rw [mergeEntries, Configuration.override_of_not_isMapping _ hkd.not_isMapping] at he
    refine accepts_mergeEntries (fun e' he' => ?_)
      (fun e' he' => hlater e' (List.mem_cons_of_mem _ he')) e he
    rcases Entries.mem_insert he' with he' | rfl | ⟨k', v, -, hk', rfl⟩
    · exact hbase e' he'
    · exact hkd
    · -- The key in the place is a text, so it is the same text.
      obtain ⟨m, h⟩ := hkd
      obtain ⟨name, rfl, -⟩ := sets_setField h
      rw [Scalar.sameKey_text_right.mp hk']
      exact ⟨m, h⟩

/-- Where entries are accepted, the later one of a field replaces the earlier one. -/
theorem get?_mergeEntries {later : Configuration} (hkeyed : Entries.Keyed later)
    (hlater : ∀ e ∈ later, Accepts e) (name : Text) (base : Configuration) :
    Entries.get? (.text name) (mergeEntries base later)
      = (Entries.get? (.text name) later).or (Entries.get? (.text name) base) := by
  rw [Configuration.get?_merge (.text name) later base hkeyed]
  cases hd : Entries.get? (.text name) later with
  | none => rfl
  | some d =>
    have hscalar : d.isMapping = false := (hlater _ (Entries.mem_of_get? hd)).not_isMapping
    exact congrArg some (Configuration.override_of_not_isMapping _ hscalar)

end ModifierSection

/-! ## All sections -/

namespace Configuration

open Document (override mergeEntries)

/-- A configuration that describes a modifier, in a mapping if there is anything about it. -/
structure Describes (c : Configuration) : Prop where
  mapping : ∀ d, Entries.get? (.text "modifier") c = some d → d.isMapping = true
  valid : ∃ m, c.modifier = .ok m

instance (c : Configuration) : Decidable c.Describes :=
  decidable_of_iff
    ((Entries.get? (.text "modifier") c).all Document.isMapping = true ∧ c.modifier.isOk = true) <| by
    constructor
    · rintro ⟨hmapping, hvalid⟩
      refine ⟨fun d hd => ?_, ?_⟩
      · rw [hd] at hmapping
        exact hmapping
      · cases hm : c.modifier with
        | error e => rw [hm] at hvalid; cases hvalid
        | ok m => exact ⟨m, rfl⟩
    · rintro ⟨hmapping, m, hm⟩
      refine ⟨?_, by rw [hm]; rfl⟩
      cases hd : Entries.get? (.text "modifier") c with
      | none => rfl
      | some d => exact hmapping d hd

theorem modifier_eq_read {c : Configuration}
    (h : ∀ d, Entries.get? (.text "modifier") c = some d → d.isMapping = true) :
    c.modifier = (ModifierSection.read c.modifierEntries).mapError .modifierSection := by
  rw [modifier, modifierSection?, modifierEntries]
  cases hd : Entries.get? (.text "modifier") c with
  | none => rfl
  | some d =>
    cases d with
    | mapping es => cases es <;> rfl
    | _ => exact absurd (h _ hd) Bool.noConfusion

/-- A configuration in which each entry about the default modifier is accepted by itself. -/
structure Sectioned (c : Configuration) : Prop where
  mapping : ∀ d, Entries.get? (.text "modifier") c = some d → d.isMapping = true
  keyed : Entries.Keyed c.modifierEntries
  accepts : ∀ e ∈ c.modifierEntries, ModifierSection.Accepts e

theorem sectioned_nil : Sectioned [] :=
  ⟨fun _ h => (nomatch h), List.Pairwise.nil, fun _ h => (nomatch h)⟩

/-- The entries are read one by one, and set the fields. -/
theorem Sectioned.sets {c : Configuration} (h : c.Sectioned) :
    ∃ m, c.modifierEntries.foldlM ModifierSection.setField {} = .ok m ∧
      ModifierSection.Sets c.field? {} m := by
  obtain ⟨m, hm⟩ := ModifierSection.exists_foldlM h.accepts {}
  exact ⟨m, hm, ModifierSection.sets_foldlM h.keyed hm⟩

theorem keyed_modifierEntries {c : Configuration} (h : (Document.mapping c).Keyed) :
    Entries.Keyed c.modifierEntries := by
  unfold modifierEntries
  cases hd : Entries.get? (.text "modifier") c with
  | none => exact List.Pairwise.nil
  | some d =>
    have hkeyed : d.Keyed := Document.allKeyed_iff.mp h.2 _ (Entries.mem_of_get? hd)
    cases d with
    | mapping es => exact hkeyed.1
    | _ => exact List.Pairwise.nil

theorem Describes.exists_read {c : Configuration} (h : c.Describes) :
    ∃ m, c.modifierEntries.foldlM ModifierSection.setField {} = .ok m ∧ m.Valid := by
  obtain ⟨m, hm⟩ := h.valid
  rw [modifier_eq_read h.mapping] at hm
  cases hread : ModifierSection.read c.modifierEntries with
  | error f => rw [hread] at hm; cases hm
  | ok m' => exact ⟨m', ModifierSection.read_eq_ok.mp hread⟩

theorem Describes.sectioned {c : Configuration} (h : c.Describes)
    (hkeyed : (Document.mapping c).Keyed) : c.Sectioned := by
  obtain ⟨m, hm, -⟩ := h.exists_read
  exact ⟨h.mapping, keyed_modifierEntries hkeyed, ModifierSection.accepts_of_foldlM hm⟩

section Merge

variable {base later : Configuration}

theorem isMapping_override (old : Option Document) {d : Document} (h : d.isMapping = true) :
    (override old d).isMapping = true := by
  cases d with
  | mapping es =>
    cases old with
    | none => rfl
    | some d' => cases d' <;> rfl
  | _ => cases h

/-- What describes the modifier in a merge is what does in the two configurations, merged. -/
theorem modifierEntries_merge (base : Configuration) (hlater : later.Sectioned)
    (hkeyed : Entries.Keyed later) :
    (merge base later).modifierEntries
      = mergeEntries base.modifierEntries later.modifierEntries := by
  have hget : Entries.get? (.text "modifier") (merge base later) = _ :=
    get?_merge (.text "modifier") later base hkeyed
  have hentries := hlater.keyed
  rw [modifierEntries, hget]
  unfold modifierEntries at hentries ⊢
  cases hl : Entries.get? (.text "modifier") later with
  | none =>
    show _ = mergeEntries _ []
    rw [mergeEntries]
  | some d =>
    rw [hl] at hentries
    cases d with
    | mapping es => exact congrArg (Document.entriesOf ∘ some) (override_mapping _ hentries)
    | _ => exact absurd (hlater.mapping _ hl) Bool.noConfusion

theorem Sectioned.merge (hbase : base.Sectioned) (hlater : later.Sectioned)
    (hkeyed : Entries.Keyed later) : (base.merge later).Sectioned := by
  have hentries := modifierEntries_merge base hlater hkeyed
  refine ⟨fun d hd => ?_, ?_, ?_⟩
  · have hget := (get?_merge (.text "modifier") later base hkeyed).symm.trans hd
    cases hl : Entries.get? (.text "modifier") later with
    | none =>
      rw [hl] at hget
      exact hbase.mapping d hget
    | some d' =>
      rw [hl] at hget
      obtain rfl := Option.some.inj hget
      exact isMapping_override _ (hlater.mapping d' hl)
  · rw [hentries]
    exact keyed_merge _ hbase.keyed
  · rw [hentries]
    exact ModifierSection.accepts_mergeEntries hbase.accepts hlater.accepts

/-- Of a field the merge says what the later configuration says of it, or else the earlier one. -/
theorem field?_merge (base : Configuration) (hlater : later.Sectioned)
    (hkeyed : Entries.Keyed later) (name : Text) :
    (base.merge later).field? name = (later.field? name).or (base.field? name) := by
  rw [field?, modifierEntries_merge base hlater hkeyed]
  exact ModifierSection.get?_mergeEntries hlater.keyed hlater.accepts name _

end Merge

theorem sectioned_foldl : ∀ {cs : List Configuration} {base : Configuration}, base.Sectioned →
    (∀ c ∈ cs, Sectioned c ∧ Entries.Keyed c) → (cs.foldl merge base).Sectioned
  | [], _, hbase, _ => hbase
  | c :: cs, base, hbase, h => by
    obtain ⟨hsectioned, hkeyed⟩ := h c List.mem_cons_self
    rw [List.foldl_cons]
    exact sectioned_foldl (hbase.merge hsectioned hkeyed)
      fun c' hc' => h c' (List.mem_cons_of_mem _ hc')

theorem field?_foldl : ∀ {cs : List Configuration} (base : Configuration),
    (∀ c ∈ cs, Sectioned c ∧ Entries.Keyed c) → ∀ name, (cs.foldl merge base).field? name
      = (cs.reverse.findSome? fun c => c.field? name).or (base.field? name)
  | [], _, _, _ => rfl
  | c :: cs, base, h, name => by
    obtain ⟨hsectioned, hkeyed⟩ := h c List.mem_cons_self
    rw [List.foldl_cons, field?_foldl _ fun c' hc' => h c' (List.mem_cons_of_mem _ hc'),
      field?_merge base hsectioned hkeyed,
      List.reverse_cons, List.findSome?_append, List.findSome?_singleton, Option.or_assoc]

/-- **Of a field** the merge of all says what the last configuration says that says anything. -/
theorem field?_mergeAll {cs : List Configuration} (h : ∀ c ∈ cs, Sectioned c ∧ Entries.Keyed c)
    (name : Text) : (mergeAll cs).field? name = cs.reverse.findSome? fun c => c.field? name := by
  have hfold := field?_foldl [] h name
  have hnil : field? [] name = none := rfl
  rw [hnil, Option.or_none] at hfold
  exact hfold

/-- **The modifier of a merge** has each field from the last configuration that says anything of it,
    and it is valid, since the fuzziness is that of one of them. -/
theorem modifier_mergeAll {cs : List Configuration} (hdescribes : ∀ c ∈ cs, c.Describes)
    (hkeyed : ∀ c ∈ cs, (Document.mapping c).Keyed) :
    ∃ m, (mergeAll cs).modifier = .ok m ∧ m.Valid ∧
      ModifierSection.Sets (fun name => cs.reverse.findSome? fun c => c.field? name) {} m := by
  have hsectioned : ∀ c ∈ cs, Sectioned c ∧ Entries.Keyed c := fun c hc =>
    ⟨(hdescribes c hc).sectioned (hkeyed c hc), (hkeyed c hc).1⟩
  have hall : (mergeAll cs).Sectioned := sectioned_foldl sectioned_nil hsectioned
  obtain ⟨m, hm, hsets⟩ := hall.sets
  have hvalid : m.Valid := by
    intro f hf
    have htakes := hsets.fuzziness
    rw [field?_mergeAll hsectioned] at htakes
    cases hsaid : cs.reverse.findSome? fun c => c.field? "fuzziness" with
    | none =>
      rw [hsaid] at htakes
      have hnone : m.fuzziness = none := htakes
      rw [hf] at hnone
      cases hnone
    | some d =>
      rw [hsaid] at htakes
      obtain ⟨c, hc, hd⟩ := List.exists_of_findSome?_eq_some hsaid
      have hmem : c ∈ cs := List.mem_reverse.mp hc
      obtain ⟨m', hm', hvalid⟩ := (hdescribes c hmem).exists_read
      have htakes' := (ModifierSection.sets_foldlM (hsectioned c hmem).1.keyed hm').fuzziness
      have hsaid' : Entries.get? (.text "fuzziness") c.modifierEntries = some d := hd
      rw [hsaid'] at htakes'
      have hsame : m'.fuzziness = m.fuzziness := Except.ok.inj (htakes'.symm.trans htakes)
      exact hvalid f (hsame.trans hf)
  refine ⟨m, ?_, hvalid, ?_⟩
  · rw [modifier_eq_read hall.mapping, ModifierSection.read_eq_ok.mpr ⟨hm, hvalid⟩]
    rfl
  · have hfield : (mergeAll cs).field? = fun name => cs.reverse.findSome? fun c => c.field? name :=
      funext fun name => field?_mergeAll hsectioned name
    rw [← hfield]
    exact hsets

end Configuration

/-! ## The files -/

namespace Configuration

/-- What the file at one of the usual places says; there need not be a file. -/
inductive Found (files : Files) (p : FilePath) : Option Configuration → Prop
  | missing (hthere : files.exist p = .ok false) : Found files p none
  | read {c : Configuration} (hthere : files.exist p = .ok true) (hread : ofFile files p = .ok c) :
    Found files p (some c)

/-- What the file says that is asked for; none need be asked for. -/
inductive Answered (files : Files) : Option FilePath → Option Configuration → Prop
  | nothing : Answered files none none
  | read {p : FilePath} {c : Configuration} (hread : ofFile files p = .ok c) :
    Answered files (some p) (some c)

/-- The directory for configuration files: the one that is named for it, or else a usual one in the
    home directory. -/
def directory (env : Environment) (home : FilePath) : FilePath :=
  match env.get? "XDG_CONFIG_HOME" with
  | some t => .ofText t
  | none => home.join (.ofText ".config")

/-- The files that configuration is read from, by what they say: one in the directory for such
    files, a hidden one and a plain one in the working directory, and one that is asked for. -/
structure Layers where
  shared : Option Configuration
  hidden : Option Configuration
  plain : Option Configuration
  asked : Option Configuration

namespace Layers

/-- Each of the layers says what is found at its place. -/
structure Read (l : Layers) (env : Environment) (files : Files) (asked : Option FilePath) : Prop where
  shared : ∃ home, FilePath.home env = .ok home ∧
    Found files ((directory env home).join (.ofText "lucenequery/config.yaml")) l.shared
  hidden : Found files (.ofText ".lucenequery.yaml") l.hidden
  plain : Found files (.ofText "lucenequery.yaml") l.plain
  asked : Answered files asked l.asked

/-- What the layers say, each overridden by those behind it. -/
def all (l : Layers) : List Configuration :=
  l.shared.toList ++ l.hidden.toList ++ l.plain.toList ++ l.asked.toList

/-- What the layers say of a field: the file that is asked for comes before the plain one, that
    before the hidden one, and the one in the directory for such files comes last. -/
def field? (l : Layers) (name : Text) : Option Document :=
  let saidBy (c : Option Configuration) : Option Document := c.bind (Configuration.field? · name)
  (saidBy l.asked).or ((saidBy l.plain).or ((saidBy l.hidden).or (saidBy l.shared)))

/-- The last of all that says anything of a field is the layer that decides it. -/
theorem findSome?_all (l : Layers) (name : Text) :
    l.all.reverse.findSome? (Configuration.field? · name) = l.field? name := by
  have hlayer (c : Option Configuration) :
      c.toList.reverse.findSome? (Configuration.field? · name)
        = c.bind (Configuration.field? · name) := by
    cases c <;> simp
  simp only [all, List.reverse_append, List.findSome?_append, hlayer, field?]

end Layers

theorem Found.existing_cons {files : Files} {p : FilePath} {said : Option Configuration}
    (h : Found files p said) {ps : List FilePath} {cs : List Configuration}
    (hps : existing files ps = .ok cs) : existing files (p :: ps) = .ok (said.toList ++ cs) := by
  rw [existing]
  cases h with
  | missing hthere =>
    rw [hthere]
    exact hps
  | read hthere hread =>
    rw [hthere]
    simp only [hread, hps, bind, Except.bind, if_true]
    rfl

theorem Answered.mapM_eq {files : Files} {asked : Option FilePath} {said : Option Configuration}
    (h : Answered files asked said) : asked.toList.mapM (ofFile files) = .ok said.toList := by
  cases h with
  | nothing => rfl
  | read hread =>
    rw [Option.toList_some, List.mapM_cons, hread]
    rfl

/-- **The files come in the order of the layers.** -/
theorem Layers.Read.fileSources_eq {l : Layers} {env : Environment} {files : Files}
    {asked : Option FilePath} (h : l.Read env files asked) :
    fileSources env files asked = .ok l.all := by
  obtain ⟨home, hhome, hshared⟩ := h.shared
  have hplaces : FilePath.candidates env
      = .ok [(directory env home).join (.ofText "lucenequery/config.yaml"),
        .ofText ".lucenequery.yaml", .ofText "lucenequery.yaml"] := by
    unfold FilePath.candidates FilePath.configHome directory
    rw [hhome]
    cases env.get? "XDG_CONFIG_HOME" <;> rfl
  have hnone : existing files [] = .ok [] := rfl
  have hexisting := hshared.existing_cons (h.hidden.existing_cons (h.plain.existing_cons hnone))
  rw [fileSources, hplaces]
  show (existing files _ >>= fun fromPlaces => _) = _
  rw [hexisting, h.asked.mapM_eq]
  simp [all, bind, Except.bind, pure, Except.pure]

end Configuration

/-! ## The command -/

/-- A field takes the value that an option gives it, or else the one that is read from what is said of
    it, or else the standard one. -/
def Decided {ε α : Type} (read : Document → Except ε α) (option : Option α)
    (said : Option Document) (standard value : α) : Prop :=
  match option with
  | some a => value = a
  | none => Takes read said standard value

theorem Takes.decided {ε α : Type} {read : Document → Except ε α} {said : Option Document}
    {standard value : α} (h : Takes read said standard value) (option : Option α) :
    Decided read option said standard (option.getD value) := by
  cases option with
  | none => exact h
  | some a => exact rfl

/-- Without an option a field takes the value that can be read from what is said of it. -/
theorem Decided.eq_of_read {ε α : Type} {read : Document → Except ε α} {said : Option Document}
    {standard value a : α} (h : Decided read none said standard value)
    (hread : (said.bind fun d => (read d).toOption) = some a) : value = a := by
  cases said with
  | none => cases hread
  | some d =>
    have hvalue : read d = .ok value := h
    rw [Option.bind_some, hvalue] at hread
    exact Option.some.inj hread

namespace CommandLine

namespace BuildOptions

/-- Each field of a modifier is decided by the option for it and by what is said of it. -/
structure Decides (o : BuildOptions) (said : Text → Option Document) (m : Modifier) : Prop where
  occurrence : Decided (ModifierSection.occurrence "term_modifier") o.occurrence
    (said "term_modifier") .plain m.occurrence
  split : Decided (ModifierSection.flag "split") o.split (said "split") false m.split
  disjunct : Decided (ModifierSection.flag "disjunct") o.disjunct (said "disjunct") false m.disjunct
  wildcarded : Decided (ModifierSection.flag "wildcarded") o.wildcarded (said "wildcarded") false
    m.wildcarded
  fuzziness : Decided (ModifierSection.fuzziness "fuzziness")
    (o.fuzziness.map fun f => some (Number.double f)) (said "fuzziness") none m.fuzziness

/-- The options without those for the modifier. -/
def bare (o : BuildOptions) : BuildOptions :=
  { o with occurrence := none, wildcarded := none, split := none, disjunct := none,
           fuzziness := none }

/-- The options override the fields of a modifier one by one. -/
theorem modifier_eq {o : BuildOptions}
    (hfuzzy : ∀ f, o.fuzziness = some f → Modifier.isFuzziness (.double f) = true) (m : Modifier) :
    o.modifier m = .ok
      { occurrence := o.occurrence.getD m.occurrence
        split := o.split.getD m.split
        disjunct := o.disjunct.getD m.disjunct
        wildcarded := o.wildcarded.getD m.wildcarded
        fuzziness := (o.fuzziness.map fun f => some (Number.double f)).getD m.fuzziness } := by
  rw [modifier]
  cases hf : o.fuzziness with
  | none => rfl
  | some f =>
    have hchecked : Modifier.checkFuzziness (some (.double f)) = .ok () := by
      rw [Modifier.checkFuzziness, if_pos (hfuzzy f hf)]
    exact Modifier.withFuzziness_eq hchecked

end BuildOptions

/-- A query is built with the options put into the modifier, and with nothing else of the two. -/
theorem build_eq_bare {m m' : Modifier} {o : BuildOptions} (h : o.modifier m = .ok m') :
    build m o = build m' o.bare := by
  have hquery : Building.query m o = Building.query m' o.bare := by
    have hbare : o.bare.modifier m' = .ok m' := rfl
    rw [Building.query, Building.query, h, hbare]
    rfl
  rw [build, build, hquery]

/-- So does the command. -/
theorem runBuild_eq_bare {g : GlobalOptions} {m m' : Modifier} {o : BuildOptions}
    {rest rest' : List Text} (hrest : BuildOptions.read rest = .ok o)
    (hrest' : BuildOptions.read rest' = .ok o.bare) (h : o.modifier m = .ok m') :
    runBuild g m rest = runBuild g m' rest' := by
  simp only [runBuild, hrest, hrest', build_eq_bare h]
  rfl

/-- **Precedence, field by field.**  Let all files be read, and the environment, and let each of them
    describe a modifier, in a mapping if it says anything about it.  Then loading is one merge of all of
    them: the file in the directory for configuration files, the hidden and the plain one of the working
    directory, the one that is asked for, and the environment.  The command builds under a modifier of
    which each field is decided by the option for it, or else by the variable for it, or else by the
    last of the files that says anything of it, or else is standard. -/
theorem precedence {env : Environment} {files : Files} {g : GlobalOptions} {o : BuildOptions}
    {l : Configuration.Layers} {e : Configuration}
    (hfiles : l.Read env files (g.config.map FilePath.ofText)) (henv : env.overrides = .ok e)
    (hdescribes : ∀ c ∈ l.all ++ [e], c.Describes)
    (hfuzzy : ∀ f, o.fuzziness = some f → Modifier.isFuzziness (.double f) = true) :
    Configuration.load env files (g.config.map FilePath.ofText)
        = .ok (Configuration.mergeAll (l.shared.toList ++ l.hidden.toList ++ l.plain.toList
          ++ l.asked.toList ++ [e])) ∧
      ∃ m m', configured env files g = .ok m ∧ o.modifier m = .ok m' ∧
        o.Decides (fun name => (env.said name).or (l.field? name)) m' ∧
        build m o = build m' o.bare ∧
        ∀ args rest, globalOptions files args = .ok (g, "build".toList :: rest) →
          BuildOptions.read rest = .ok o →
          run env files args
              = (runBuild g m rest).after (tell g ("Default modifier: ".toList ++ m.description)) ∧
            ∀ rest', BuildOptions.read rest' = .ok o.bare →
              runBuild g m rest = runBuild g m' rest' := by
  have hsources := hfiles.fileSources_eq
  have hload : Configuration.load env files (g.config.map FilePath.ofText)
      = .ok (Configuration.mergeAll (l.all ++ [e])) := by
    rw [Configuration.load_eq_mergeAll, Configuration.sources, hsources, henv]
    rfl
  have hkeyed : ∀ c ∈ l.all ++ [e], (Document.mapping c).Keyed := by
    intro c hc
    rcases List.mem_append.mp hc with hc | hc
    · exact Configuration.keyed_fileSources hsources hc
    · obtain rfl := List.mem_singleton.mp hc
      exact Environment.keyed_overrides henv
  obtain ⟨m, hm, -, hsets⟩ := Configuration.modifier_mergeAll hdescribes hkeyed
  have hsaid : (fun name => (l.all ++ [e]).reverse.findSome? fun c => c.field? name)
      = fun name => (env.said name).or (l.field? name) := by
    funext name
    rw [List.reverse_append, List.findSome?_append, ← Environment.field?_overrides henv name,
      l.findSome?_all]
    exact congrArg (Option.or · _) List.findSome?_singleton
  rw [hsaid] at hsets
  have hconfigured : configured env files g = .ok m := by
    rw [configured, hload]
    exact hm
  have hoptions := BuildOptions.modifier_eq hfuzzy m
  refine ⟨hload, m, _, hconfigured, hoptions,
    ⟨hsets.occurrence.decided _, hsets.split.decided _, hsets.disjunct.decided _,
      hsets.wildcarded.decided _, hsets.fuzziness.decided _⟩,
    build_eq_bare hoptions, ?_⟩
  intro args rest hargs hrest
  have hcommand : Command.ofName? "build".toList = some .build := by decide
  refine ⟨?_, fun rest' hrest' => runBuild_eq_bare hrest hrest' hoptions⟩
  rw [run_eq hargs hcommand, hconfigured]
  rfl

/-- Each field is decided by another source, against the one that comes next: the beginnings by an
    option against a variable, the split by a variable against the file that is asked for, any or all
    members by that file against the plain one, the occurrence by the plain one against the hidden one,
    which an empty variable does not hide, and the fuzziness by the hidden one against the shared one. -/
theorem precedence_of_each :
    let env : Environment := [("HOME".toList, "h".toList), ("XDG_CONFIG_HOME".toList, "x".toList),
      ("LUCENEQUERY_SPLIT".toList, "Yes ".toList), ("LUCENEQUERY_WILDCARDED".toList, "no".toList),
      ("LUCENEQUERY_TERM_MODIFIER".toList, [])]
    let files := Files.ofList
      [("x/lucenequery/config.yaml".toList, "modifier: \x7bfuzziness: 0.5\x7d".toList),
        (".lucenequery.yaml".toList,
          "modifier: \x7bfuzziness: 0.25, term_modifier: prohibited\x7d".toList),
        ("lucenequery.yaml".toList, "modifier: \x7bterm_modifier: required, disjunct: no\x7d".toList),
        ("c.yaml".toList, "modifier: \x7bdisjunct: yes, split: no\x7d".toList)]
    let g : GlobalOptions := { config := some "c.yaml".toList }
    let o : BuildOptions := { terms := ["a b".toList], wildcarded := some true }
    let e : Configuration := [(.text "modifier".toList,
      .mapping [(.text "split".toList, .flag true), (.text "wildcarded".toList, .flag false)])]
    ∃ l, Configuration.Layers.Read l env files (g.config.map FilePath.ofText) ∧
      env.overrides = .ok e ∧ (∀ c ∈ l.all ++ [e], c.Describes) ∧
      Configuration.load env files (g.config.map FilePath.ofText)
        = .ok (Configuration.mergeAll (l.shared.toList ++ l.hidden.toList ++ l.plain.toList
          ++ l.asked.toList ++ [e])) ∧
      ∃ m, m = ⟨.required, true, true, true, some (.double (.ofRatio false 1 4))⟩ ∧
        o.Decides (fun name => (env.said name).or (l.field? name)) m ∧
        (build m o.bare).1.toOption
          = some "+(\"a b\"^2 a\\ b* a\\ b~0.25 ((\"a\"^2 a* a~0.25) (\"b\"^2 b* b~0.25) )^0.5)".toList := by
  intro env files g o e
  let said (l : Configuration.Layers) (name : Text) : Option Document :=
    (env.said name).or (l.field? name)
  -- The documents are compared by what is read from them, field by field; merging them takes longer.
  have hread : (match Configuration.ofFile files (.ofText "x/lucenequery/config.yaml"),
      Configuration.ofFile files (.ofText ".lucenequery.yaml"),
      Configuration.ofFile files (.ofText "lucenequery.yaml"),
      Configuration.ofFile files (.ofText "c.yaml") with
    | .ok shared, .ok hidden, .ok plain, .ok asked =>
      let l : Configuration.Layers := ⟨some shared, some hidden, some plain, some asked⟩
      decide ((∀ c ∈ l.all ++ [e], c.Describes) ∧
        ((said l "term_modifier").bind fun d =>
          (ModifierSection.occurrence "term_modifier" d).toOption) = some .required ∧
        ((said l "split").bind fun d => (ModifierSection.flag "split" d).toOption) = some true ∧
        ((said l "disjunct").bind fun d => (ModifierSection.flag "disjunct" d).toOption) = some true ∧
        ((said l "fuzziness").bind fun d => (ModifierSection.fuzziness "fuzziness" d).toOption)
          = some (some (.double (.ofRatio false 1 4))))
    | _, _, _, _ => false) = true := by decide +kernel
  split at hread
  · rename_i shared hidden plain asked hshared hhidden hplain hasked
    obtain ⟨hdescribes, hterm, hsplit, hdisjunct, hfuzziness⟩ := of_decide_eq_true hread
    have hplace : (Configuration.directory env (.ofText "h".toList)).join
        (.ofText "lucenequery/config.yaml") = .ofText "x/lucenequery/config.yaml" := by decide
    have hfiles : Configuration.Layers.Read ⟨some shared, some hidden, some plain, some asked⟩ env
        files (g.config.map FilePath.ofText) :=
      ⟨⟨.ofText "h".toList, rfl, by rw [hplace]; exact .read rfl hshared⟩, .read rfl hhidden,
        .read rfl hplain, .read hasked⟩
    have henv : env.overrides = .ok e := rfl
    have hfuzzy : ∀ f, o.fuzziness = some f → Modifier.isFuzziness (.double f) = true :=
      fun f hf => nomatch hf
    obtain ⟨hload, m, m', -, hm', hdecides, -, -⟩ :=
      precedence (o := o) hfiles henv hdescribes hfuzzy
    have hm : m' = ⟨.required, true, true, true, some (.double (.ofRatio false 1 4))⟩ := by
      have ho : m'.occurrence = .required := Decided.eq_of_read hdecides.occurrence hterm
      have hs : m'.split = true := Decided.eq_of_read hdecides.split hsplit
      have hd : m'.disjunct = true := Decided.eq_of_read hdecides.disjunct hdisjunct
      have hw : m'.wildcarded = true := hdecides.wildcarded
      have hf : m'.fuzziness = some (.double (.ofRatio false 1 4)) :=
        Decided.eq_of_read hdecides.fuzziness hfuzziness
      cases m'
      cases ho
      cases hs
      cases hd
      cases hw
      cases hf
      rfl
    exact ⟨_, hfiles, henv, hdescribes, hload, m', hm, hdecides, by rw [hm]; decide +kernel⟩
  · cases hread

end CommandLine

end SearchQuery
