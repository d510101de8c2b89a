/-
  What the sources of a configuration are like.

  1. **Files (`keyed_ofFile`)** — every mapping of a document is made of pairs of which the later ones
     replace the earlier ones, so no key stands in it twice; by induction on the bound of the levels.
  2. **Environment (`field?_overrides`)** — the environment says of each field what its variable says,
     and nothing of fields whose variable says nothing.
-/
import SearchQuery.Proofs.Config.Merging

namespace SearchQuery

section Refusals

variable {ε α β : Type}

/-- What steps in sequence give was given by each of them. -/
theorem bind_eq_ok {x : Except ε α} {f : α → Except ε β} {b : β}
    (h : x >>= f = .ok b) : ∃ a, x = .ok a ∧ f a = .ok b := by
  cases x with
  | error e => cases h
  | ok a => exact ⟨a, rfl, h⟩

/-- Steps in sequence are refused by the first one that is. -/
theorem bind_eq_error_iff {x : Except ε α} {f : α → Except ε β} {e : ε} :
    x >>= f = .error e ↔ x = .error e ∨ ∃ a, x = .ok a ∧ f a = .error e := by
  cases x with
  | error e' => simp [bind, Except.bind]
  | ok a => simp [bind, Except.bind]

theorem exists_of_mem_mapM {f : α → Except ε β} {y : β} : ∀ {xs : List α} {ys : List β},
    xs.mapM f = .ok ys → y ∈ ys → ∃ x ∈ xs, f x = .ok y
  | [], ys, h, hy => by
    rw [List.mapM_nil] at h
    cases h
    cases hy
  | x :: xs, ys, h, hy => by
    rw [List.mapM_cons] at h
    obtain ⟨y', hx, h⟩ := bind_eq_ok h
    obtain ⟨ys', hxs, h⟩ := bind_eq_ok h
    cases h
    rcases List.mem_cons.mp hy with rfl | hy
    · exact ⟨x, List.mem_cons_self, hx⟩
    · obtain ⟨x', hmem, hx'⟩ := exists_of_mem_mapM hxs hy
      exact ⟨x', List.mem_cons_of_mem _ hmem, hx'⟩

/-- What is refused in a list is refused for one of its members. -/
theorem exists_of_mapM_error {f : α → Except ε β} {e : ε} : ∀ {xs : List α},
    xs.mapM f = .error e → ∃ x ∈ xs, f x = .error e
  | [], h => by
    rw [List.mapM_nil] at h
    cases h
  | x :: xs, h => by
    rw [List.mapM_cons] at h
    rcases bind_eq_error_iff.mp h with hx | ⟨y, -, h⟩
    · exact ⟨x, List.mem_cons_self, hx⟩
    rcases bind_eq_error_iff.mp h with hxs | ⟨ys, -, h⟩
    · obtain ⟨x', hmem, hx'⟩ := exists_of_mapM_error hxs
      exact ⟨x', List.mem_cons_of_mem _ hmem, hx'⟩
    · cases h

end Refusals

/-! ## Files -/

namespace Document

mutual

/-- Whether no key stands twice in a mapping, nor in the mappings below it. -/
def Keyed : Document → Prop
  | .mapping entries => Entries.Keyed entries ∧ AllKeyed entries
  | .scalar _ | .sequence _ | .set _ => True

/-- The same of the values of entries. -/
def AllKeyed : List (Scalar × Document) → Prop
  | [] => True
  | (_, d) :: rest => d.Keyed ∧ AllKeyed rest

end

theorem keyed_of_not_isMapping {d : Document} (h : d.isMapping = false) : d.Keyed := by
  cases d with
  | mapping es => cases h
  | _ => trivial

theorem allKeyed_iff : ∀ {entries : List (Scalar × Document)},
    AllKeyed entries ↔ ∀ e ∈ entries, e.2.Keyed
  | [] => by simp [AllKeyed]
  | e :: rest => by
    rw [AllKeyed, allKeyed_iff, List.forall_mem_cons]

end Document

namespace Yaml

/-- **A document** that is read holds no key twice. -/
theorem Node.keyed_documentWithin : ∀ (fuel : Nat) (n : Node) (d : Document),
    n.documentWithin fuel = .ok d → d.Keyed
  | 0, n, d, h => by
    cases h
    trivial
  | fuel + 1, n, d, h => by
    rw [documentWithin] at h
    obtain ⟨s, -, h⟩ := bind_eq_ok h
    cases s with
    | some s =>
      cases h
      trivial
    | none =>
      simp only at h
      split at h
      case h_5 =>
        obtain ⟨es, -, h⟩ := bind_eq_ok h
        obtain ⟨pairs, hpairs, h⟩ := bind_eq_ok h
        cases h
        refine ⟨Entries.keyed_ofPairs pairs, Document.allKeyed_iff.mpr fun e he => ?_⟩
        obtain ⟨k, hk⟩ := Entries.mem_ofPairs he
        obtain ⟨⟨kn, vn⟩, -, hentry⟩ := exists_of_mem_mapM hpairs hk
        obtain ⟨_, -, hentry⟩ := bind_eq_ok hentry
        obtain ⟨v, hv, hentry⟩ := bind_eq_ok hentry
        cases hentry
        exact keyed_documentWithin fuel vn _ hv
      -- What else has parts is no mapping.
      all_goals
        obtain ⟨_, -, h⟩ := bind_eq_ok h
        obtain ⟨_, -, h⟩ := bind_eq_ok h
        cases h
        trivial

theorem keyed_documentOf {t : Text} {d : Document} (h : documentOf t = .ok d) : d.Keyed := by
  obtain ⟨n, -, h⟩ := bind_eq_ok h
  cases n with
  | none =>
    cases h
    trivial
  | some n =>
    obtain ⟨_, -, h⟩ := bind_eq_ok h
    obtain ⟨_, -, h⟩ := bind_eq_ok h
    exact n.keyed_documentWithin _ d h

theorem keyed_read {file t : Text} {d : Document} (h : read file t = .ok d) : d.Keyed := by
  unfold read at h
  simp only at h
  split at h
  · cases hd : documentOf (unixLines t) with
    | error r => rw [hd] at h; cases h
    | ok d' =>
      rw [hd] at h
      cases h
      exact keyed_documentOf hd
  · split at h <;> cases h

end Yaml

namespace Configuration

/-- **What a file says** holds no key twice. -/
theorem keyed_ofFile {files : Files} {p : FilePath} {c : Configuration}
    (h : ofFile files p = .ok c) : (Document.mapping c).Keyed := by
  obtain ⟨t, -, h⟩ := bind_eq_ok h
  obtain ⟨d, hd, h⟩ := bind_eq_ok h
  have hkeyed := Yaml.keyed_read hd
  unfold Document.entries at h
  split at h
  · cases h
    exact ⟨List.Pairwise.nil, trivial⟩
  · cases d with
    | mapping es =>
      cases h
      exact hkeyed
    | _ => cases h

theorem keyed_existing {files : Files} {c : Configuration} : ∀ {ps : List FilePath}
    {cs : List Configuration}, existing files ps = .ok cs → c ∈ cs → (Document.mapping c).Keyed
  | [], cs, h, hc => by
    cases h
    cases hc
  | p :: ps, cs, h, hc => by
    obtain ⟨there, -, h⟩ := bind_eq_ok h
    cases there with
    | false => exact keyed_existing h hc
    | true =>
      obtain ⟨c', hp, h⟩ := bind_eq_ok h
      obtain ⟨cs', hps, h⟩ := bind_eq_ok h
      cases h
      rcases List.mem_cons.mp hc with rfl | hc
      · exact keyed_ofFile hp
      · exact keyed_existing hps hc

theorem keyed_fileSources {env : Environment} {files : Files} {asked : Option FilePath}
    {cs : List Configuration} (h : fileSources env files asked = .ok cs) {c : Configuration}
    (hc : c ∈ cs) : (Document.mapping c).Keyed := by
  obtain ⟨ps, -, h⟩ := bind_eq_ok h
  obtain ⟨ds, hplaces, h⟩ := bind_eq_ok h
  obtain ⟨es, hasked, h⟩ := bind_eq_ok h
  cases h
  rcases List.mem_append.mp hc with hc | hc
  · exact keyed_existing hplaces hc
  · obtain ⟨p, -, hp⟩ := exists_of_mem_mapM hasked hc
    exact keyed_ofFile hp

end Configuration

/-! ## Fields -/

namespace Configuration

/-- The entries that describe the default modifier. -/
def modifierEntries (c : Configuration) : Configuration :=
  Document.entriesOf (Entries.get? (.text "modifier") c)

/-- What a configuration says of a field of the default modifier. -/
def field? (c : Configuration) (name : Text) : Option Document :=
  Entries.get? (.text name) c.modifierEntries

end Configuration

/-! ## Environment -/

namespace Environment

/-- What the environment says of a field of the default modifier, by the variable for it. -/
def said (env : Environment) (name : Text) : Option Document :=
  if name = "term_modifier".toList then
    ((env.get? occurrenceVariable).filter (!·.isEmpty)).map fun raw => .text (word raw)
  else if name = "fuzziness".toList then (env.get? fuzzinessVariable).bind fuzziness?
  else (((flagVariables.lookup name).bind env.get?).bind flag?).map .flag

/-- The entry for a field of which something is said. -/
def entry (name : Text) (d : Option Document) : Configuration :=
  d.toList.map fun d => (.text name, d)

theorem occurrenceField_eq (env : Environment) : occurrenceField env
    = entry "term_modifier" (((env.get? occurrenceVariable).filter (!·.isEmpty)).map
        fun raw => .text (word raw)) := by
  unfold occurrenceField entry
  cases env.get? occurrenceVariable with
  | none => rfl
  | some raw => cases raw <;> rfl

theorem flagField_eq_ok {env : Environment} {field name : Text} {c : Configuration}
    (h : flagField env field name = .ok c) :
    c = entry field (((env.get? name).bind flag?).map .flag) := by
  unfold flagField at h
  cases hraw : env.get? name with
  | none =>
    rw [hraw] at h
    cases h
    rfl
  | some raw =>
    rw [hraw] at h
    cases hflag : flag? raw with
    | none => simp [hflag] at h
    | some b =>
      simp only [hflag, Except.ok.injEq] at h
      rw [← h, Option.bind_some, hflag]
      rfl

theorem fuzzinessField_eq_ok {env : Environment} {c : Configuration}
    (h : fuzzinessField env = .ok c) :
    c = entry "fuzziness" ((env.get? fuzzinessVariable).bind fuzziness?) := by
  unfold fuzzinessField at h
  cases hraw : env.get? fuzzinessVariable with
  | none =>
    rw [hraw] at h
    cases h
    rfl
  | some raw =>
    rw [hraw] at h
    cases hfuzziness : fuzziness? raw with
    | none => simp [hfuzziness] at h
    | some d =>
      simp only [hfuzziness, Except.ok.injEq] at h
      rw [← h, Option.bind_some, hfuzziness]
      rfl

theorem flags_eq_ok {env : Environment} : ∀ {fs : List (Text × Text)} {flags : List Configuration},
    fs.mapM (fun (field, name) => flagField env field name) = .ok flags →
    flags = fs.map fun (field, name) => entry field (((env.get? name).bind flag?).map .flag)
  | [], flags, h => by
    rw [List.mapM_nil] at h
    cases h
    rfl
  | (field, name) :: fs, flags, h => by
    rw [List.mapM_cons] at h
    obtain ⟨c, hc, h⟩ := bind_eq_ok h
    obtain ⟨cs, hcs, h⟩ := bind_eq_ok h
    cases h
    rw [flagField_eq_ok hc, flags_eq_ok hcs, List.map_cons]

/-- The fields of a modifier, in the order in which the environment sets them. -/
def fieldNames : List Text :=
  ["term_modifier".toList, "split".toList, "disjunct".toList, "wildcarded".toList,
    "fuzziness".toList]

/-- The entries for some fields. -/
def entries (env : Environment) (names : List Text) : Configuration :=
  names.flatMap fun name => entry name (env.said name)

theorem mem_entry {name : Text} {d : Option Document} {e : Scalar × Document}
    (h : e ∈ entry name d) : e.1 = .text name ∧ d = some e.2 := by
  cases d with
  | none => cases h
  | some d =>
    obtain rfl := List.mem_singleton.mp h
    exact ⟨rfl, rfl⟩

theorem get?_entries (env : Environment) (field : Text) : ∀ names : List Text,
    Entries.get? (.text field) (env.entries names)
      = if names.contains field then env.said field else none
  | [] => rfl
  | name :: names => by
    have ih := get?_entries env field names
    have hcons : env.entries (name :: names) = entry name (env.said name) ++ env.entries names := rfl
    rw [hcons]
    by_cases hname : name = field
    · subst hname
      cases hsaid : env.said name with
      | none => rw [hsaid] at ih; simp [entry, ih]
      | some d => simp [entry, Entries.get?, Scalar.sameKey_text_right]
    · have hskip : Entries.get? (.text field) (entry name (env.said name) ++ env.entries names)
          = Entries.get? (.text field) (env.entries names) := by
        cases env.said name <;> simp [entry, Entries.get?, Scalar.sameKey_text_right, hname]
      rw [hskip, ih]
      simp [Ne.symm hname]

theorem keyed_entries (env : Environment) : ∀ {names : List Text}, names.Nodup →
    Entries.Keyed (env.entries names)
  | [], _ => List.Pairwise.nil
  | name :: names, h => by
    obtain ⟨hname, hnames⟩ := List.nodup_cons.mp h
    refine List.pairwise_append.mpr ⟨?_, keyed_entries env hnames, fun e he e' he' => ?_⟩
    · show Entries.Keyed (entry name (env.said name))
      cases env.said name with
      | none => exact List.Pairwise.nil
      | some d => exact List.pairwise_singleton _ _
    · obtain ⟨name', hmem, he'⟩ := List.mem_flatMap.mp he'
      rw [(mem_entry he).1, (mem_entry he').1]
      refine Scalar.sameKey_text_eq_false fun heq => hname ?_
      rw [Scalar.text.inj heq]
      exact hmem

/-- The environment says something of the fields of a modifier only. -/
theorem said_eq_none {env : Environment} {name : Text} (h : name ∉ fieldNames) :
    env.said name = none := by
  simp only [fieldNames, List.mem_cons, List.not_mem_nil, or_false, not_or] at h
  obtain ⟨hterm, hsplit, hdisjunct, hwildcarded, hfuzziness⟩ := h
  have hlookup : flagVariables.lookup name = none := by
    rw [flagVariables, List.lookup_cons, List.lookup_cons, List.lookup_cons, beq_false_of_ne hsplit,
      beq_false_of_ne hdisjunct, beq_false_of_ne hwildcarded]
    rfl
  rw [said, if_neg hterm, if_neg hfuzziness, hlookup]
  rfl

/-- The environment describes a fuzziness by a scalar, as it does everything else. -/
theorem not_isMapping_said {env : Environment} {name : Text} {d : Document}
    (h : env.said name = some d) : d.isMapping = false := by
  unfold said at h
  split at h
  · obtain ⟨raw, -, rfl⟩ := Option.map_eq_some_iff.mp h
    rfl
  split at h
  · obtain ⟨raw, -, h⟩ := Option.bind_eq_some_iff.mp h
    unfold fuzziness? at h
    split at h
    · cases h
      rfl
    · obtain ⟨x, -, rfl⟩ := Option.map_eq_some_iff.mp h
      rfl
  · obtain ⟨b, -, rfl⟩ := Option.map_eq_some_iff.mp h
    rfl

theorem overrides_eq_ok {env : Environment} {c : Configuration} (h : env.overrides = .ok c) :
    c = match env.entries fieldNames with
      | [] => []
      | es => [(.text "modifier", .mapping es)] := by
  obtain ⟨flags, hflags, h⟩ := bind_eq_ok h
  obtain ⟨fuzziness, hfuzziness, h⟩ := bind_eq_ok h
  have hentries : occurrenceField env ++ flags.flatten ++ fuzziness = env.entries fieldNames := by
    have happend (f : Text → Configuration) (a b c d e : Text) :
        f a ++ [f b, f c, f d].flatten ++ f e = [a, b, c, d, e].flatMap f := by
      simp [List.append_assoc]
    rw [occurrenceField_eq, flags_eq_ok hflags, fuzzinessField_eq_ok hfuzziness]
    exact happend (fun name => entry name (env.said name)) "term_modifier".toList "split".toList
      "disjunct".toList "wildcarded".toList "fuzziness".toList
  rw [hentries] at h
  cases hes : env.entries fieldNames with
  | nil =>
    rw [hes] at h
    cases h
    rfl
  | cons e es =>
    rw [hes] at h
    cases h
    rfl

/-- **What the environment says** is what the variables say, field by field. -/
theorem field?_overrides {env : Environment} {c : Configuration} (h : env.overrides = .ok c)
    (name : Text) : c.field? name = env.said name := by
  have hsaid : Entries.get? (.text name) (env.entries fieldNames) = env.said name := by
    rw [get?_entries]
    split
    · rfl
    · rename_i hmem
      exact (said_eq_none (by simpa using hmem)).symm
  have hentries : c.modifierEntries = env.entries fieldNames := by
    rw [overrides_eq_ok h]
    cases env.entries fieldNames <;> rfl
  rw [Configuration.field?, hentries, hsaid]

theorem keyed_overrides {env : Environment} {c : Configuration} (h : env.overrides = .ok c) :
    (Document.mapping c).Keyed := by
  have hkeyed : (Document.mapping (env.entries fieldNames)).Keyed := by
    refine ⟨keyed_entries env (by decide), Document.allKeyed_iff.mpr fun e he => ?_⟩
    obtain ⟨name, -, he⟩ := List.mem_flatMap.mp he
    exact Document.keyed_of_not_isMapping (not_isMapping_said (mem_entry he).2)
  rw [overrides_eq_ok h]
  cases hes : env.entries fieldNames with
  | nil => exact ⟨List.Pairwise.nil, trivial⟩
  | cons e es =>
    rw [hes] at hkeyed
    exact ⟨List.pairwise_singleton _ _, hkeyed, trivial⟩

end Environment
end SearchQuery
