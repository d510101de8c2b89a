/-
  Merging configurations one by one, and all at once.

  1. **Merging (`get?_merge`)** — what a merge holds under a key is what the later configuration makes
     of what the earlier one holds there.  Merged into nothing, a configuration stays as it is.
  2. **Loading (`load_eq_mergeAll`)** — the configuration is made file by file, and each step merges
     the outcome of the steps before anew; the sources merged at once give the same, and the first
     fault is the same.
-/
import SearchQuery.Config.Load
import SearchQuery.Proofs.Config.Keys

namespace SearchQuery

/-! ## Merging -/

/-- The entries of a mapping; there are none if there is no mapping. -/
def Document.entriesOf : Option Document → Configuration
  | some (.mapping es) => es
  | _ => []

namespace Configuration

open Document (override mergeEntries)

theorem keyed_merge : ∀ (later : List (Scalar × Document)) {base : Configuration},
    Entries.Keyed base → Entries.Keyed (mergeEntries base later)
  | [], base, h => by rw [mergeEntries]; exact h
  | (k, v) :: rest, base, h => by
    rw [mergeEntries]
    exact keyed_merge rest (Entries.keyed_insert k _ h)

theorem keyed_mergeAll (cs : List Configuration) : Entries.Keyed (mergeAll cs) := by
  have hfold : ∀ (cs : List Configuration) (base : Configuration), Entries.Keyed base →
      Entries.Keyed (cs.foldl merge base) := by
    intro cs
    induction cs with
    | nil => exact fun base h => h
    | cons c cs ih => exact fun base h => ih _ (keyed_merge c h)
  exact hfold cs [] List.Pairwise.nil

/-- What is put in place of nothing is put in as it is. -/
@[simp] theorem override_none (d : Document) : override none d = d := by cases d <;> rfl

/-- What is no mapping is put in as it is. -/
theorem override_of_not_isMapping (old : Option Document) {d : Document}
    (h : d.isMapping = false) : override old d = d := by
  cases d with
  | mapping es => cases h
  | _ => rfl

/-- Entries with new keys come behind those that are there. -/
theorem mergeEntries_eq_append : ∀ (later : List (Scalar × Document)) (base : Configuration),
    Entries.Keyed (base ++ later) → mergeEntries base later = base ++ later
  | [], base, _ => by rw [mergeEntries, List.append_nil]
  | (k, v) :: rest, base, h => by
    have hnew : ∀ e ∈ base, e.1.sameKey k = false := fun e he =>
      (List.pairwise_append.mp h).2.2 e he (k, v) List.mem_cons_self
    have hassoc : base ++ (k, v) :: rest = (base ++ [(k, v)]) ++ rest := by simp
    rw [mergeEntries, Entries.get?_eq_none hnew, override_none, Entries.insert_eq_append v hnew,
      mergeEntries_eq_append rest _ (hassoc ▸ h), hassoc]

/-- **Merged into nothing** a configuration stays as it is. -/
theorem merge_nil {c : Configuration} (h : Entries.Keyed c) : merge [] c = c :=
  mergeEntries_eq_append c [] h

/-- A mapping is merged into the one that was there; anything else it replaces. -/
theorem override_mapping (old : Option Document) {es : Configuration} (h : Entries.Keyed es) :
    override old (.mapping es) = .mapping (merge (Document.entriesOf old) es) := by
  have hreplaced : Document.mapping es = .mapping (merge [] es) := by rw [merge_nil h]
  cases old with
  | none => exact hreplaced
  | some d =>
    cases d with
    | mapping base => rfl
    | _ => exact hreplaced

/-- **Merging in two steps** is merging at once. -/
theorem mergeAll_mergeAll (cs ds : List Configuration) :
    mergeAll (mergeAll cs :: ds) = mergeAll (cs ++ ds) := by
  calc mergeAll (mergeAll cs :: ds) = ds.foldl merge (merge [] (mergeAll cs)) := rfl
    _ = ds.foldl merge (mergeAll cs) := by rw [merge_nil (keyed_mergeAll cs)]
    _ = mergeAll (cs ++ ds) := by rw [mergeAll, mergeAll, List.foldl_append]

/-- **What a merge holds** under a key: what the later configuration makes of what was there. -/
theorem get?_merge (key : Scalar) : ∀ (later : List (Scalar × Document)) (base : Configuration),
    Entries.Keyed later →
    Entries.get? key (mergeEntries base later) = match Entries.get? key later with
      | none => Entries.get? key base
      | some d => some (override (Entries.get? key base) d)
  | [], base, _ => by rw [mergeEntries]; rfl
  | (k, v) :: rest, base, h => by
    obtain ⟨hfirst, hrest⟩ := List.pairwise_cons.mp h
    rw [mergeEntries, get?_merge key rest _ hrest, Entries.get?_insert, Entries.get?]
    by_cases hk : k.sameKey key = true
    · have hnone : Entries.get? key rest = none :=
        Entries.get?_eq_none fun e he => by
          rw [← Scalar.sameKey_congr hk, Scalar.sameKey_comm]
          exact hfirst e he
      rw [hnone, if_pos hk, if_pos hk, Entries.get?_congr hk]
    · rw [if_neg hk, if_neg hk]

/-! ## Loading -/

/-- What the files at some places say, as far as they exist. -/
def existing (files : Files) : List FilePath → Except ConfigError (List Configuration)
  | [] => return []
  | p :: ps => do
    if ← files.exist p then return (← ofFile files p) :: (← existing files ps)
    else existing files ps

/-- What the files say, in the order in which they override each other: those at the usual places
    that exist, then the one that is asked for. -/
def fileSources (env : Environment) (files : Files) (asked : Option FilePath) :
    Except ConfigError (List Configuration) := do
  let fromPlaces ← existing files (← FilePath.candidates env)
  return fromPlaces ++ (← asked.toList.mapM (ofFile files))

/-- What all sources say: the files, and then the environment. -/
def sources (env : Environment) (files : Files) (asked : Option FilePath) :
    Except ConfigError (List Configuration) := do
  return (← fileSources env files asked) ++ [← env.overrides]

variable (files : Files)

/-- Files that are merged as far as they exist, one after the other. -/
theorem foldlM_withCandidate : ∀ (ps : List FilePath) (cs : List Configuration),
    ps.foldlM (withCandidate files) (mergeAll cs)
      = (existing files ps).map fun ds => mergeAll (cs ++ ds)
  | [], cs => by simp [existing, Except.map, pure, Except.pure]
  | p :: ps, cs => by
    rw [List.foldlM_cons, withCandidate, existing]
    cases files.exist p with
    | error e => rfl
    | ok there =>
      cases there with
      | false => exact foldlM_withCandidate ps cs
      | true =>
        cases hc : ofFile files p with
        | error e => simp [withFile, hc, bind, Except.bind, Except.map]
        | ok c =>
          have ih := foldlM_withCandidate ps (cs ++ [c])
          rw [← mergeAll_mergeAll] at ih
          simp only [withFile, hc, bind, Except.bind, pure, Except.pure, if_true] at ih ⊢
          rw [ih]
          cases existing files ps with
          | error e => rfl
          | ok ds => simp [Except.map]

/-- Files that are merged one after the other. -/
theorem foldlM_withFile : ∀ (ps : List FilePath) (cs : List Configuration),
    ps.foldlM (withFile files) (mergeAll cs)
      = (ps.mapM (ofFile files)).map fun ds => mergeAll (cs ++ ds)
  | [], cs => by simp [Except.map, pure, Except.pure]
  | p :: ps, cs => by
    rw [List.foldlM_cons, withFile, List.mapM_cons]
    cases hc : ofFile files p with
    | error e => rfl
    | ok c =>
      have ih := foldlM_withFile ps (cs ++ [c])
      rw [← mergeAll_mergeAll] at ih
      simp only [bind, Except.bind, pure, Except.pure] at ih ⊢
      rw [ih]
      cases ps.mapM (ofFile files) with
      | error e => rfl
      | ok ds => simp [Except.map]

/-- **Loading** merges all sources at once, and is refused for the first of them that is. -/
theorem load_eq_mergeAll (env : Environment) (asked : Option FilePath) :
    load env files asked = (sources env files asked).map mergeAll := by
  rw [load, sources, fileSources]
  cases FilePath.candidates env with
  | error e => rfl
  | ok ps =>
    have hplaces : ps.foldlM (withCandidate files) [] = (existing files ps).map mergeAll :=
      foldlM_withCandidate files ps []
    simp only [bind, Except.bind] at hplaces ⊢
    rw [hplaces]
    cases existing files ps with
    | error e => rfl
    | ok cs =>
      have hasked := foldlM_withFile files asked.toList cs
      simp only [Except.map]
      rw [hasked]
      cases asked.toList.mapM (ofFile files) with
      | error e => rfl
      | ok ds =>
        cases env.overrides with
        | error e => rfl
        | ok c => exact congrArg Except.ok (mergeAll_mergeAll (cs ++ ds) [c])

end Configuration
end SearchQuery
