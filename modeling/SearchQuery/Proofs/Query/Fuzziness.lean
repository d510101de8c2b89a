/-
  Fuzzy suffixes: what stands behind the tilde of a fuzzy word.

  A fuzziness is a number from zero up to one, and is written as that number is written everywhere.

  1. **Texts (`Number.plainNumber_text_iff`)** — which fuzzinesses are written as plain numbers, and
     which are written without special characters.
  2. **Doors** — a modifier is made of its fields, changed as a draft or read from a configuration.  Only
     the first keeps the fuzziness in the form in which it is given; the others keep it in double
     precision.
  3. **Clauses (`Query.fuzzy_suffixes`)** — whatever is behind the tildes of a clause, when it is read
     back, is the text of the fuzziness, for the literal and for its tokens.
-/
import SearchQuery.Proofs.Double.Plain
import SearchQuery.Proofs.Config.Section
import SearchQuery.Proofs.Query.Tokens

namespace SearchQuery

/-! ## Texts -/

namespace Number

/-- 10^-4, in double precision. -/
def tenThousandth : Number := .double (.ofRatio false 1 10000)

/-- The fuzzinesses that are written as plain numbers: zero as an integer or without a sign in double
    precision, and all from 10^-4 on. -/
def Plainly (f : Number) : Prop :=
  f = .int 0 ∨ f = .double (.finite false 0) ∨ tenThousandth.le f = true

instance (f : Number) : Decidable f.Plainly := inferInstanceAs (Decidable (_ ∨ _ ∨ _))

theorem not_plainNumber_of_mem {t : Text} {c : Char} (hc : c ∈ t) (hd : c ∉ Text.digits)
    (hp : c ≠ '.') : ¬t.PlainNumber := by
  intro h
  rcases h.forall_mem c hc with h | h
  · exact hd h
  · exact hp h

/-- **The text of a fuzziness**: a plain number, or `False`, or something with a minus sign. -/
theorem text_of_isFuzziness {f : Number} (hf : Modifier.isFuzziness f = true)
    (hr : ∀ x, f = .double x → x.Representable) :
    (f.Plainly → f.text.PlainNumber) ∧
      (¬f.Plainly → f = .flag false ∨ '-' ∈ f.text) := by
  rcases cases_of_isFuzziness hf with rfl | rfl | ⟨s, u, rfl⟩
  · exact ⟨fun h => absurd h (by decide +kernel), fun _ => .inl rfl⟩
  · exact ⟨fun _ => ⟨['0'], [], by simp, by simp [Text.digits], by simp, .inl rfl⟩,
      fun h => absurd (.inl rfl) h⟩
  · rcases Nat.eq_zero_or_pos u with rfl | hu
    · cases s with
      | false =>
        exact ⟨fun _ => ⟨['0'], ['0'], by simp, by simp [Text.digits], by simp [Text.digits],
          .inr ⟨by simp, rfl⟩⟩, fun h => absurd (.inr (.inl rfl)) h⟩
      | true =>
        exact ⟨fun h => absurd h (by decide +kernel), fun _ => .inr (by decide)⟩
    · obtain ⟨rfl, hone⟩ := below_one_of_isFuzziness hf hu
      obtain ⟨c, -, hc, -⟩ := Double.exists_tenThousandth
      have hmag : Double.IsMagnitude u := by
        cases hr _ rfl with
        | finite s h => exact h
      obtain ⟨hplain, hminus⟩ := Double.magnitudeText_below_one hc hmag.quantum_dvd_self hu hone
      have hle : tenThousandth.le (.double (.finite false u)) = true ↔ c ≤ u := by
        simp [tenThousandth, hc, le, position?, Double.position?, Double.signedUnits,
          Double.Position.le]
      have htext : (Number.double (.finite false u)).text = Double.magnitudeText u := by
        obtain ⟨k, rfl⟩ : ∃ k, u = k + 1 := ⟨u - 1, by omega⟩
        rfl
      rw [htext]
      constructor
      · rintro (h | h | h)
        · cases h
        · cases h
          omega
        · exact hplain (hle.mp h)
      · intro h
        refine .inr (hminus fun hge => h (.inr (.inr (hle.mpr hge))))

theorem not_special_of_flag : ∀ c ∈ (Number.flag false).text, Text.isSpecial c = false := by
  intro c hc
  have hall : (Number.flag false).text.all (fun c => !Text.isSpecial c) = true := by decide
  simpa using List.all_eq_true.mp hall c hc

/-- Which fuzzinesses are written as plain numbers. -/
theorem plainNumber_text_iff {f : Number} (hf : Modifier.isFuzziness f = true)
    (hr : ∀ x, f = .double x → x.Representable) : f.text.PlainNumber ↔ f.Plainly := by
  obtain ⟨hplain, hother⟩ := text_of_isFuzziness hf hr
  refine ⟨fun h => ?_, hplain⟩
  rcases Decidable.em f.Plainly with hp | hp
  · exact hp
  · rcases hother hp with rfl | hminus
    · exact absurd h (not_plainNumber_of_mem (c := 'F') (by decide) (by decide) (by decide))
    · exact absurd h (not_plainNumber_of_mem hminus (by decide) (by decide))

/-- Which fuzzinesses are written without special characters. -/
theorem not_special_text_iff {f : Number} (hf : Modifier.isFuzziness f = true)
    (hr : ∀ x, f = .double x → x.Representable) :
    (∀ c ∈ f.text, Text.isSpecial c = false) ↔ f = .flag false ∨ f.Plainly := by
  obtain ⟨hplain, hother⟩ := text_of_isFuzziness hf hr
  constructor
  · intro h
    rcases Decidable.em f.Plainly with hp | hp
    · exact .inr hp
    · rcases hother hp with hflag | hminus
      · exact .inl hflag
      · exact absurd (h '-' hminus) (by decide)
  · rintro (rfl | hp)
    · exact not_special_of_flag
    · exact (hplain hp).not_special

end Number

/-! ## Doors -/

/-- A modifier that is made of its fields keeps its fuzziness in its form. -/
theorem Modifier.fuzziness_ofFields? {o : OccurrenceArg} {split disjunct wildcarded : Bool}
    {f : Option Number} {m : Modifier} (h : ofFields? o split disjunct wildcarded f = .ok m) :
    m.fuzziness = f := by
  unfold ofFields? at h
  cases ho : o.get with
  | error e => rw [ho] at h; cases h
  | ok o' =>
    rw [ho] at h
    obtain ⟨-, rfl⟩ := checked_eq_ok_iff.mp h
    rfl

/-- A draft keeps its fuzziness in double precision. -/
theorem Draft.fuzziness_change {d : Draft} {f : Number}
    (h : (d.change (.fuzziness (some f))).1 = .ok ()) :
    (d.change (.fuzziness (some f))).2.fuzziness = some (.double f.toDouble) := by
  unfold change at h ⊢
  dsimp only at h ⊢
  split
  · rfl
  · rename_i e he
    rw [he] at h
    cases h

namespace ModifierSection

/-- Whether a fuzziness, if there is one, is in double precision. -/
def InDouble (m : Modifier) : Prop := ∀ f, m.fuzziness = some f → ∃ x, f = .double x

theorem inDouble_fuzziness {field : Text} {d : Document} {f : Number}
    (h : fuzziness field d = .ok (some f)) : ∃ x, f = .double x := by
  revert h
  fun_cases fuzziness field d with
  | case1 => intro h; cases h
  | case2 => intro h; cases h
  | case3 => intro h; cases h; exact ⟨_, rfl⟩
  | case4 => intro h; cases h; exact ⟨_, rfl⟩
  | case5 => intro h; cases h; exact ⟨_, rfl⟩
  | case6 => intro h; cases h

theorem InDouble.setField {m n : Modifier} (hm : InDouble m) {entry : Scalar × Document}
    (h : setField m entry = .ok n) : InDouble n := by
  obtain ⟨name, -, hsets⟩ := sets_setField h
  have htakes := hsets.fuzziness
  intro f hf
  by_cases hname : name = "fuzziness".toList
  · rw [if_pos hname] at htakes
    have hread : fuzziness "fuzziness" entry.2 = .ok n.fuzziness := htakes
    rw [hf] at hread
    exact inDouble_fuzziness hread
  · rw [if_neg hname] at htakes
    have hkept : n.fuzziness = m.fuzziness := htakes
    exact hm f (hkept ▸ hf)

theorem InDouble.foldlM {m n : Modifier} (hm : InDouble m) {entries : Configuration}
    (h : entries.foldlM ModifierSection.setField m = .ok n) : InDouble n := by
  induction entries generalizing m with
  | nil => cases h; exact hm
  | cons e es ih =>
    rw [List.foldlM_cons] at h
    obtain ⟨m', he, h⟩ := bind_eq_ok h
    exact ih (hm.setField he) h

end ModifierSection

/-- A modifier that is read from a configuration has its fuzziness in double precision. -/
theorem Configuration.inDouble_modifier {c : Configuration} {m : Modifier} (h : c.modifier = .ok m) :
    ∀ f, m.fuzziness = some f → ∃ x, f = .double x := by
  unfold Configuration.modifier at h
  split at h
  · cases h
    intro f hf
    cases hf
  · rename_i entries _
    cases hread : ModifierSection.read entries with
    | error e => rw [hread] at h; cases h
    | ok n =>
      rw [hread] at h
      cases h
      have hstart : ModifierSection.InDouble {} := fun f hf => by cases hf
      exact hstart.foldlM (ModifierSection.read_eq_ok.mp hread).1
  · cases h

/-! ## Clauses -/

/-- What stands behind the tilde of an alternative, if it has one. -/
def Alternative.suffix? : Alternative → Option Text
  | .fuzzy _ f => some f
  | _ => none

/-- What stands behind the tildes of a clause, and of the clauses of its tokens. -/
def LiteralClause.suffixes (c : LiteralClause) : List Text :=
  (c.whole.alternatives ++ (c.tokens.getD []).flatMap (·.alternatives)).filterMap Alternative.suffix?

theorem Modifier.suffixes_readings {m : Modifier} {f : Number} (hf : m.fuzziness = some f) (v : Text) :
    (m.readings v).filterMap Alternative.suffix? = [f.text] := by
  unfold readings
  rw [hf]
  cases m.wildcarded <;> rfl

theorem suffixes_readLiteral {m : Modifier} {f : Number} (hf : m.fuzziness = some f) {v : Text}
    (hv : Text.isBlank v = false) :
    ∃ clause, readLiteral (renderLiteral m v) = some (clause, []) ∧ clause.suffixes ≠ [] ∧
      ∀ s ∈ clause.suffixes, s = f.text := by
  have hread := readLiteral_renderLiteral hv m []
  rw [List.append_nil] at hread
  refine ⟨_, hread, ?_, ?_⟩
  · rw [LiteralClause.suffixes, List.filterMap_append, Modifier.suffixes_readings hf v]
    simp
  · intro s hs
    rw [LiteralClause.suffixes, List.filterMap_append, Modifier.suffixes_readings hf v] at hs
    rcases List.mem_append.mp hs with hs | hs
    · exact List.mem_singleton.mp hs
    · obtain ⟨a, ha, hsuffix⟩ := List.mem_filterMap.mp hs
      obtain ⟨clause, hclause, ha⟩ := List.mem_flatMap.mp ha
      -- only a literal that is split has clauses of tokens, with the same fuzziness
      cases hsplits : m.splits v with
      | false => rw [hsplits] at hclause; cases hclause
      | true =>
        rw [hsplits] at hclause
        obtain ⟨t, -, rfl⟩ := List.mem_map.mp hclause
        have hmem : s ∈ (m.readings t).filterMap Alternative.suffix? :=
          List.mem_filterMap.mpr ⟨a, ha, hsuffix⟩
        rw [Modifier.suffixes_readings hf t] at hmem
        exact List.mem_singleton.mp hmem

namespace Query

/-- **Fuzzy suffixes.**  A literal is written as a clause in which the text of the fuzziness stands behind
    each tilde.  That is a plain number exactly for a zero in a suitable form and from 10^-4 on, and has
    no special character in it exactly then, or for the truth value false.  A modifier that is made of
    its fields keeps the form of its fuzziness; a draft and a configuration keep it in double
    precision. -/
theorem fuzzy_suffixes {q : Query} (hq : q.buffer.Sound) {m : Modifier} (hm : m.Valid) {f : Number}
    (hf : m.fuzziness = some f) (hr : ∀ x, f = .double x → x.Representable) {v : Text}
    (hv : Text.isBlank v = false) :
    (∃ t clause, (q.writeLiteral v m).text = q.text ++ t ∧ readLiteral t = some (clause, []) ∧
      clause.suffixes ≠ [] ∧ ∀ s ∈ clause.suffixes, s = f.text) ∧
    (f.text.PlainNumber ↔ f.Plainly) ∧
    ((∀ c ∈ f.text, Text.isSpecial c = false) ↔ f = .flag false ∨ f.Plainly) ∧
    (∀ o split disjunct wildcarded g n,
      Modifier.ofFields? o split disjunct wildcarded g = .ok n → n.fuzziness = g) ∧
    (∀ (d : Draft) g, (d.change (.fuzziness (some g))).1 = .ok () →
      (d.change (.fuzziness (some g))).2.fuzziness = some (.double g.toDouble)) ∧
    ∀ (c : Configuration) n g, c.modifier = .ok n → n.fuzziness = some g → ∃ x, g = .double x := by
  refine ⟨?_, Number.plainNumber_text_iff (hm f hf) hr, Number.not_special_text_iff (hm f hf) hr,
    ?_, ?_, ?_⟩
  · obtain ⟨clause, hread, hne, hall⟩ := suffixes_readLiteral hf hv
    exact ⟨_, clause, (wrote_writeLiteral hq v m).text, hread, hne, hall⟩
  · intro o split disjunct wildcarded g n h
    exact Modifier.fuzziness_ofFields? h
  · intro d g h
    exact Draft.fuzziness_change h
  · intro c n g h hg
    exact Configuration.inDouble_modifier h g hg

/-- A literal that is split, with a fuzziness of one half. -/
theorem fuzzy_suffixes_split :
    let m : Modifier := { split := true, fuzziness := some (.double (.ofRatio false 1 2)) }
    (({} : Query).writeLiteral "a b".toList m).text =
        "(a\\ b~0.5 (+(a~0.5) +(b~0.5) )^0.5) ".toList ∧
      (Number.double (.ofRatio false 1 2)).text.PlainNumber := by
  intro m
  have hr : ∀ x, Number.double (.ofRatio false 1 2) = .double x → x.Representable := by
    intro x hx
    rw [← Number.double.inj hx]
    exact Double.representable_ofQuotient false (by decide)
  obtain ⟨-, hplain, -⟩ := fuzzy_suffixes (q := {}) (Buffer.sound_ofText []) (m := m)
    (by decide +kernel) rfl hr (v := "a b".toList) (by decide)
  exact ⟨by decide +kernel, hplain.mpr (by decide +kernel)⟩

/-- Three fuzzinesses that are accepted and are not written as plain numbers. -/
theorem fuzzy_suffix_not_plain :
    let small : Number := .double (.ofRatio false 1 100000)
    let minus : Number := .double (.finite true 0)
    (Modifier.isFuzziness small = true ∧ Modifier.isFuzziness minus = true ∧
        Modifier.isFuzziness (.flag false) = true) ∧
      (({} : Query).writeLiteral ['x'] { fuzziness := some small }).text = "(x~1e-05) ".toList ∧
      (({} : Query).writeLiteral ['x'] { fuzziness := some minus }).text = "(x~-0.0) ".toList ∧
      (({} : Query).writeLiteral ['x'] { fuzziness := some (.flag false) }).text =
        "(x~False) ".toList ∧
      ¬small.text.PlainNumber ∧ ¬minus.text.PlainNumber ∧ ¬(Number.flag false).text.PlainNumber := by
  intro small minus
  refine ⟨by decide +kernel, by decide +kernel, by decide +kernel, by decide +kernel, ?_, ?_, ?_⟩
  · exact Number.not_plainNumber_of_mem (c := 'e') (by decide +kernel) (by decide) (by decide)
  · exact Number.not_plainNumber_of_mem (c := '-') (by decide +kernel) (by decide) (by decide)
  · exact Number.not_plainNumber_of_mem (c := 'F') (by decide) (by decide) (by decide)

end Query
end SearchQuery
