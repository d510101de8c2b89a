/-
  Faults of the configuration, and what becomes of them.

  1. **Files (`ofFile_eq_breakdown_iff`)** — a file is no fault of a value where reading its text breaks
     down, and where it holds something that is no mapping.
  2. **Loading (`load_eq_breakdown_iff`)** — the sources are looked at in order, so loading breaks down
     exactly where the first of them does that is not read; by induction on the places.
  3. **The section (`modifier_valid_or_fault`)** — from there on only values can be at fault.
  4. **The program (`CommandLine.told_unless_breaksDown`)** — a fault of a value is told; a breakdown is
     handed on, and nothing else is.
-/
import SearchQuery.CommandLine.Run
import SearchQuery.Proofs.Config.Sources

namespace SearchQuery

theorem ConfigError.isValueFault_eq_false_iff {e : ConfigError} :
    e.isValueFault = false ↔ ∃ b, e = .breakdown b := by
  cases e <;> simp [isValueFault]

/-! ## Files -/

namespace Configuration

/-- The file at a path breaks down: its text does when it is read, or it holds something that is
    neither a mapping nor nothing. -/
def FileBreaks (files : Files) (p : FilePath) (b : Breakdown) : Prop :=
  ∃ t, files.read p = .ok t ∧
    (Yaml.read p.text t = .error (.breakdown b) ∨
      ∃ d, Yaml.read p.text t = .ok d ∧ d.truthy = true ∧ d.isMapping = false ∧
        b = .notMapping d.kind)

theorem isValueFault_read {files : Files} {p : FilePath} {e : ConfigError}
    (h : files.read p = .error e) : e.isValueFault = true := by
  unfold Files.read at h
  split at h
  · cases h
    rfl
  · split at h <;> cases h
    rfl

/-- A document in place of a configuration is no fault of a value where it is no mapping. -/
theorem entries_eq_error_iff {d : Document} {e : ConfigError} :
    d.entries = .error e ↔
      d.truthy = true ∧ d.isMapping = false ∧ e = .breakdown (.notMapping d.kind) := by
  unfold Document.entries
  cases htruthy : d.truthy with
  | false => simp
  | true =>
    cases d with
    | mapping es => simp [Document.isMapping]
    | _ => simp [Document.isMapping, eq_comm]

theorem ofFile_eq_breakdown_iff {files : Files} {p : FilePath} {b : Breakdown} :
    ofFile files p = .error (.breakdown b) ↔ FileBreaks files p b := by
  have hread : files.read p ≠ .error (.breakdown b) := fun h =>
    absurd (isValueFault_read h) Bool.noConfusion
  have hparse (t : Text) : (Yaml.read p.text t >>= Document.entries) = .error (.breakdown b) ↔
      Yaml.read p.text t = .error (.breakdown b) ∨ ∃ d, Yaml.read p.text t = .ok d ∧
        d.truthy = true ∧ d.isMapping = false ∧ b = .notMapping d.kind := by
    simp only [bind_eq_error_iff, entries_eq_error_iff, ConfigError.breakdown.injEq]
  simp only [ofFile, FileBreaks, bind_eq_error_iff (x := files.read p), hread, false_or, hparse]

/-! ## Loading -/

/-- A place is passed: there is no file, or what the file there says is merged. -/
def Passed (files : Files) (p : FilePath) : Prop :=
  files.exist p = .ok false ∨ files.exist p = .ok true ∧ ∃ c, ofFile files p = .ok c

/-- A place breaks down: it cannot be said what is there, or the file there breaks down. -/
def PlaceBreaks (files : Files) (p : FilePath) (b : Breakdown) : Prop :=
  files.exist p = .error (.breakdown b) ∨ files.exist p = .ok true ∧ FileBreaks files p b

/-- How loading breaks down: the home directory is unknown, or one of the usual places breaks down and
    those before it are passed, or all of them are passed and the file that is asked for breaks down. -/
inductive BreaksDown (env : Environment) (files : Files) (asked : Option FilePath) :
    Breakdown → Prop
  | home {b} (h : FilePath.home env = .error (.breakdown b)) : BreaksDown env files asked b
  | place {b before p after} (hplaces : FilePath.candidates env = .ok (before ++ p :: after))
      (hbefore : ∀ q ∈ before, Passed files q) (h : PlaceBreaks files p b) :
      BreaksDown env files asked b
  | asked {b places p} (hplaces : FilePath.candidates env = .ok places)
      (hpassed : ∀ q ∈ places, Passed files q) (hasked : asked = some p)
      (h : FileBreaks files p b) : BreaksDown env files asked b

/-- The first of some things with a property, if those before it have another one. -/
theorem exists_first_cons {α : Type} {P Q : α → Prop} {x : α} {xs : List α} :
    (∃ before y after, x :: xs = before ++ y :: after ∧ (∀ z ∈ before, P z) ∧ Q y) ↔
      Q x ∨ P x ∧ ∃ before y after, xs = before ++ y :: after ∧ (∀ z ∈ before, P z) ∧ Q y := by
  constructor
  · rintro ⟨before, y, after, hsplit, hbefore, hy⟩
    cases before with
    | nil =>
      obtain ⟨rfl, -⟩ := List.cons.inj hsplit
      exact Or.inl hy
    | cons z before =>
      obtain ⟨rfl, hrest⟩ := List.cons.inj hsplit
      exact Or.inr ⟨hbefore _ List.mem_cons_self, before, y, after, hrest,
        fun z hz => hbefore z (List.mem_cons_of_mem _ hz), hy⟩
  · rintro (hx | ⟨hx, before, y, after, rfl, hbefore, hy⟩)
    · exact ⟨[], x, xs, rfl, fun z hz => (nomatch hz), hx⟩
    · exact ⟨x :: before, y, after, rfl, List.forall_mem_cons.mpr ⟨hx, hbefore⟩, hy⟩

/-- All places are read if each of them is passed. -/
theorem exists_existing_iff {files : Files} : ∀ {ps : List FilePath},
    (∃ cs, existing files ps = .ok cs) ↔ ∀ q ∈ ps, Passed files q
  | [] => by simp [existing, pure, Except.pure]
  | p :: ps => by
    have ih : (∃ cs, existing files ps = .ok cs) ↔ ∀ q ∈ ps, Passed files q := exists_existing_iff
    rw [List.forall_mem_cons, ← ih, existing, Passed]
    cases files.exist p with
    | error e => simp [bind, Except.bind]
    | ok there =>
      cases there with
      | false => simp [bind, Except.bind]
      | true =>
        cases ofFile files p with
        | error e => simp [bind, Except.bind]
        | ok c => cases existing files ps <;> simp [bind, Except.bind, pure, Except.pure]

theorem existing_eq_breakdown_iff {files : Files} {b : Breakdown} : ∀ {ps : List FilePath},
    existing files ps = .error (.breakdown b) ↔
      ∃ before p after, ps = before ++ p :: after ∧ (∀ q ∈ before, Passed files q) ∧
        PlaceBreaks files p b
  | [] => by simp [existing, pure, Except.pure]
  | p :: ps => by
    have ih : existing files ps = .error (.breakdown b) ↔ ∃ before p after, ps = before ++ p :: after ∧
        (∀ q ∈ before, Passed files q) ∧ PlaceBreaks files p b := existing_eq_breakdown_iff
    rw [exists_first_cons, ← ih, existing, PlaceBreaks, Passed, ← ofFile_eq_breakdown_iff]
    cases files.exist p with
    | error e => simp [bind, Except.bind]
    | ok there =>
      cases there with
      | false => simp [bind, Except.bind]
      | true =>
        cases ofFile files p with
        | error e => simp [bind, Except.bind]
        | ok c => cases existing files ps <;> simp [bind, Except.bind, pure, Except.pure]

/-- What the environment says is at fault for a value only. -/
theorem isValueFault_overrides {env : Environment} {e : ConfigError}
    (h : env.overrides = .error e) : e.isValueFault = true := by
  rcases bind_eq_error_iff.mp h with h | ⟨flags, -, h⟩
  · obtain ⟨⟨field, name⟩, -, h⟩ := exists_of_mapM_error h
    replace h : Environment.flagField env field name = .error e := h
    unfold Environment.flagField at h
    split at h
    · cases h
    · split at h <;> cases h
      rfl
  rcases bind_eq_error_iff.mp h with h | ⟨fuzziness, -, h⟩
  · unfold Environment.fuzzinessField at h
    split at h
    · cases h
    · split at h <;> cases h
      rfl
  · split at h <;> cases h

/-- The places are unknown where the home directory is. -/
theorem candidates_eq_error_iff {env : Environment} {e : ConfigError} :
    FilePath.candidates env = .error e ↔ FilePath.home env = .error e := by
  unfold FilePath.candidates FilePath.configHome
  cases FilePath.home env with
  | error e' => simp [bind, Except.bind]
  | ok h => cases env.get? "XDG_CONFIG_HOME" <;> simp [bind, Except.bind, pure, Except.pure]

theorem fileSources_eq_breakdown_iff {env : Environment} {files : Files}
    {asked : Option FilePath} {b : Breakdown} :
    fileSources env files asked = .error (.breakdown b) ↔ BreaksDown env files asked b := by
  constructor
  · intro h
    rcases bind_eq_error_iff.mp h with h | ⟨ps, hps, h⟩
    · exact .home (candidates_eq_error_iff.mp h)
    rcases bind_eq_error_iff.mp h with h | ⟨cs, hcs, h⟩
    · obtain ⟨before, p, after, rfl, hbefore, hp⟩ := existing_eq_breakdown_iff.mp h
      exact .place hps hbefore hp
    rcases bind_eq_error_iff.mp h with h | ⟨ds, -, h⟩
    · obtain ⟨p, hp, h⟩ := exists_of_mapM_error h
      exact .asked hps (exists_existing_iff.mp ⟨cs, hcs⟩) (Option.mem_toList.mp hp)
        (ofFile_eq_breakdown_iff.mp h)
    · cases h
  · intro h
    refine bind_eq_error_iff.mpr ?_
    cases h with
    | home h => exact Or.inl (candidates_eq_error_iff.mpr h)
    | place hplaces hbefore h =>
      refine Or.inr ⟨_, hplaces, bind_eq_error_iff.mpr (Or.inl ?_)⟩
      exact existing_eq_breakdown_iff.mpr ⟨_, _, _, rfl, hbefore, h⟩
    | asked hplaces hpassed hasked h =>
      obtain ⟨cs, hcs⟩ := exists_existing_iff.mpr hpassed
      refine Or.inr ⟨_, hplaces, bind_eq_error_iff.mpr (Or.inr ⟨cs, hcs, ?_⟩)⟩
      refine bind_eq_error_iff.mpr (Or.inl ?_)
      rw [hasked, Option.toList_some, List.mapM_cons]
      exact bind_eq_error_iff.mpr (Or.inl (ofFile_eq_breakdown_iff.mpr h))

/-- **Loading breaks down** in the described ways and in no other. -/
theorem load_eq_breakdown_iff {env : Environment} {files : Files} {asked : Option FilePath}
    {b : Breakdown} :
    load env files asked = .error (.breakdown b) ↔ BreaksDown env files asked b := by
  have hmerge : load env files asked = .error (.breakdown b)
      ↔ sources env files asked = .error (.breakdown b) := by
    rw [load_eq_mergeAll]
    cases sources env files asked <;> simp [Except.map]
  rw [hmerge, ← fileSources_eq_breakdown_iff]
  constructor
  · intro h
    rcases bind_eq_error_iff.mp h with h | ⟨fs, -, h⟩
    · exact h
    rcases bind_eq_error_iff.mp h with h | ⟨e, -, h⟩
    · exact absurd (isValueFault_overrides h) Bool.noConfusion
    · cases h
  · exact fun h => bind_eq_error_iff.mpr (Or.inl h)

/-! ## The section -/

end Configuration

namespace ModifierSection

/-- A section is read as its entries say, if the modifier that they describe is valid. -/
theorem read_eq_ok {es : Configuration} {m : Modifier} :
    read es = .ok m ↔ es.foldlM setField {} = .ok m ∧ m.Valid := by
  rw [read]
  cases hm : es.foldlM setField {} with
  | error f => exact ⟨fun h => (nomatch h), fun h => (nomatch h.1)⟩
  | ok m' =>
    simp only [bind, Except.bind, Except.ok.injEq]
    cases hchecked : m'.checked with
    | error e =>
      refine ⟨fun h => (nomatch h), ?_⟩
      rintro ⟨rfl, hvalid⟩
      rw [Modifier.checked_eq_ok_iff.mpr ⟨hvalid, rfl⟩] at hchecked
      cases hchecked
    | ok m'' =>
      obtain ⟨hvalid, rfl⟩ := Modifier.checked_eq_ok_iff.mp hchecked
      constructor
      · intro h
        obtain rfl := Except.ok.inj h
        exact ⟨rfl, hvalid⟩
      · rintro ⟨rfl, -⟩
        rfl

end ModifierSection

/-- **The section** is read as a valid modifier, or a value in it is at fault. -/
theorem Configuration.modifier_valid_or_fault (c : Configuration) :
    (∃ m, c.modifier = .ok m ∧ m.Valid) ∨ ∃ e, c.modifier = .error e ∧ e.isValueFault = true := by
  unfold Configuration.modifier
  cases c.modifierSection? with
  | none => exact Or.inl ⟨{}, rfl, fun f hf => nomatch hf⟩
  | some d =>
    cases d with
    | mapping es =>
      cases hread : ModifierSection.read es with
      | error f =>
        exact Or.inr
          ⟨.modifierSection f, congrArg (Except.mapError ConfigError.modifierSection) hread, rfl⟩
      | ok m =>
        exact Or.inl ⟨m, congrArg (Except.mapError ConfigError.modifierSection) hread,
          (ModifierSection.read_eq_ok.mp hread).2⟩
    | _ => exact Or.inr ⟨.sectionNotMapping, rfl, rfl⟩

/-! ## The program -/

namespace CommandLine

open SearchQuery.Configuration (BreaksDown)

variable {env : Environment} {files : Files} {g : GlobalOptions} {args rest : List Text}
  {name : Text} {command : Command}

/-- How a run goes on once its arguments lead to a command. -/
theorem run_eq (hargs : globalOptions files args = .ok (g, name :: rest))
    (hcommand : Command.ofName? name = some command) :
    run env files args = match configured env files g with
      | .error e => refused g e
      | .ok m => (runCommand g m rest command).after
          (tell g ("Default modifier: ".toList ++ m.description)) := by
  cases args with
  | nil => cases hargs
  | cons arg args =>
    simp only [run, hargs, hcommand]
    rfl

/-- A command hands nothing on, unless it is debugged. -/
theorem escaped_runCommand (hdebug : g.debug = false) (m : Modifier) :
    (runCommand g m rest command).escaped = none := by
  cases command with
  | build =>
    rw [runCommand, runBuild]
    split
    · rfl
    · split
      · rfl
      · rename_i o _ _
        rcases build m o with ⟨e | t, notes⟩
        · cases e with
          | usage f => rfl
          | query e => simp [Outcome.after, hdebug]
        · rfl
  | escape =>
    rw [runCommand, runEscape]
    split
    · rfl
    · split
      · rfl
      · split <;> rfl

/-- **What becomes of a fault.**  Let the arguments lead to a command, without debugging.  Loading
    breaks down in the described ways only; of what is loaded, the section is read as a valid modifier
    or has a value that is at fault; such a fault ends the run with a message and the code 1.  So what
    is handed on is a breakdown of the sources, and nothing else. -/
theorem told_unless_breaksDown (hargs : globalOptions files args = .ok (g, name :: rest))
    (hcommand : Command.ofName? name = some command) (hdebug : g.debug = false) :
    let asked := g.config.map FilePath.ofText
    (∀ b, Configuration.load env files asked = .error (.breakdown b)
      ↔ BreaksDown env files asked b) ∧
    (∀ c, Configuration.load env files asked = .ok c →
      (∃ m, c.modifier = .ok m ∧ m.Valid) ∨
        ∃ e, c.modifier = .error e ∧ e.isValueFault = true) ∧
    (∀ e, configured env files g = .error e → e.isValueFault = true →
      run env files args = { code := 1, told :=
        [withoutSequences ("Error loading configuration: ".toList ++ e.message)] }) ∧
    ∀ x, (run env files args).escaped = some x
      ↔ ∃ b, x = .config (.breakdown b) ∧ BreaksDown env files asked b := by
  intro asked
  have hrun : run env files args = match configured env files g with
      | .error e => refused g e
      | .ok m => (runCommand g m rest command).after
          (tell g ("Default modifier: ".toList ++ m.description)) := run_eq hargs hcommand
  refine ⟨fun b => Configuration.load_eq_breakdown_iff, fun c _ => c.modifier_valid_or_fault,
    fun e he hfault => ?_, fun x => ?_⟩
  · rw [hrun, he]
    simp [refused, hdebug, hfault]
  · have hconfigured (b : Breakdown) :
        configured env files g = .error (.breakdown b) ↔ BreaksDown env files asked b := by
      rw [← Configuration.load_eq_breakdown_iff, configured, bind_eq_error_iff]
      refine ⟨fun h => ?_, Or.inl⟩
      rcases h with h | ⟨c, -, h⟩
      · exact h
      · -- A section that is refused is so for a value.
        rcases c.modifier_valid_or_fault with ⟨m, hm, -⟩ | ⟨e, he, hfault⟩
        · rw [hm] at h
          cases h
        · rw [he] at h
          obtain rfl := Except.error.inj h
          cases hfault
    simp only [← hconfigured]
    rw [hrun]
    cases hc : configured env files g with
    | ok m =>
      have hnone : (runCommand g m rest command).escaped = none := escaped_runCommand hdebug m
      simp [Outcome.after, hnone]
    | error e =>
      cases hfault : e.isValueFault with
      | true =>
        have hother : ∀ b, e ≠ .breakdown b := by
          rintro b rfl
          cases hfault
        simp [refused, hdebug, hfault, hother]
      | false =>
        obtain ⟨b, rfl⟩ := ConfigError.isValueFault_eq_false_iff.mp hfault
        simp [refused, hfault, Outcome.escape, eq_comm]

/-- A file that holds a sequence breaks down, and one whose section is a text is told of. -/
theorem told_unless_breaksDown_sequence :
    let env : Environment := [("HOME".toList, "h".toList)]
    let files (t : Text) := Files.ofList [("lucenequery.yaml".toList, t)]
    let args := ["build".toList, "x".toList]
    (∀ t, globalOptions (files t) args = .ok ({}, args)) ∧
      BreaksDown env (files "- a") none (.notMapping "list") ∧
      run env (files "modifier: a") args = { code := 1, told :=
        ["Error loading configuration: The 'modifier' section must be a mapping".toList] } := by
  intro env files args
  have hread : GlobalOptions.read args = .ok ({}, args) := by
    rw [GlobalOptions.read, scan, if_neg (by decide), if_neg (by decide)]
    rfl
  have hargs : ∀ t, globalOptions (files t) args = .ok ({}, args) := by
    intro t
    rw [globalOptions, hread]
    rfl
  have hcommand : Command.ofName? "build".toList = some .build := by decide
  refine ⟨hargs, ?_, ?_⟩
  · obtain ⟨-, -, -, hescaped⟩ :=
      @told_unless_breaksDown env (files "- a") {} args _ _ _ (hargs "- a") hcommand rfl
    have hsequence : (run env (files "- a") args).escaped
        = some (.config (.breakdown (.notMapping "list"))) := by decide +kernel
    obtain ⟨b, hb, hbreaks⟩ := (hescaped _).mp hsequence
    obtain rfl := ConfigError.breakdown.inj (Escaped.config.inj hb)
    exact hbreaks
  · obtain ⟨-, -, htold, -⟩ :=
      @told_unless_breaksDown env (files "modifier: a") {} args _ _ _ (hargs "modifier: a") hcommand rfl
    have hsection : (match configured env (files "modifier: a") {} with
        | .error e => decide (e = .sectionNotMapping)
        | .ok _ => false) = true := by decide +kernel
    cases hconfigured : configured env (files "modifier: a") {} with
    | ok m =>
      rw [hconfigured] at hsection
      cases hsection
    | error e =>
      rw [hconfigured] at hsection
      obtain rfl := of_decide_eq_true hsection
      rw [htold _ hconfigured rfl]
      decide +kernel

/-- **Files that are no mappings.**  A sequence or a text in place of a mapping ends the run with a
    fault that is handed on, and nothing is told of it; one level below, in place of the section, the
    text is a fault of a value. -/
theorem file_without_mapping_handed_on :
    let env : Environment := [("HOME".toList, "h".toList)]
    let after (t : Text) :=
      run env (Files.ofList [("lucenequery.yaml".toList, t)]) ["build".toList, "x".toList]
    let told : Outcome := { code := 1, told :=
      ["Error loading configuration: The 'modifier' section must be a mapping".toList] }
    after "- a" = .escape (.config (.breakdown (.notMapping "list"))) ∧
      after "a" = .escape (.config (.breakdown (.notMapping "str"))) ∧
      after "modifier: a" = told := by
  decide +kernel

end CommandLine
end SearchQuery
