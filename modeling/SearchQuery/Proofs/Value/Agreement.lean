/-
  What a value does not refer to does not show.

  A call may find the queries around it in two states that differ in some of them.  A value that
  refers to none of those, itself or through the streams that it is read from, is looked at in the
  same way in both, becomes the same term, and leaves the same streams behind.

  1. **Reference (`Value.Refers`)** — a query stands in a value, in one of its groups, or in one of
     its streams.  Reading takes members away, so nothing refers to more than it did before.
  2. **Agreement (`AgreeBut`)** — two states of the queries that agree but for some of them, among
     which the receivers are.
  3. **Texts, looks and terms (`written_congr`, `isBlank_congr`, `term_congr`)** — one statement for
     each reader of values, by mutual induction on values and lists of members.
-/
import SearchQuery.Proofs.Value.Embedded
import SearchQuery.Value.Bound

namespace SearchQuery

/-! ## Reference -/

/-- A query of a certain kind stands in a value, in its groups or in the streams on the shelf. -/
inductive Value.Refers (p : Handle → Bool) (s : Shelf) : Value → Prop
  | own {v : Value} (hv : v.mentions p = true) : Refers p s v
  | member {shape : Shape} {members : List Value} {v : Value} (hmem : v ∈ members)
      (hv : Refers p s v) : Refers p s (.group shape members)
  | streamed {place : Nat} {v : Value} (hmem : v ∈ s.rest place) (hv : Refers p s v) :
      Refers p s (.stream place)

namespace Value

variable {p : Handle → Bool} {s : Shelf} {v : Value}

theorem anyMentions_eq (p : Handle → Bool) (vs : List Value) :
    anyMentions p vs = vs.any (mentions p) := by
  induction vs with
  | nil => rfl
  | cons v vs ih => rw [anyMentions, ih, List.any_cons]

mutual

/-- A value that holds a query of a certain kind holds one of any wider kind. -/
theorem mentions_mono {p p' : Handle → Bool} (hp : ∀ h, p h = true → p' h = true) :
    ∀ v : Value, v.mentions p = true → v.mentions p' = true
  | .query h, hv => by simp only [mentions] at hv ⊢; exact hp h hv
  | .group shape members, hv => by
    simp only [mentions] at hv ⊢; exact anyMentions_mono hp members hv
  | .mapping entries, hv => by
    simp only [mentions] at hv ⊢
    have hp' : ∀ h, (p h && h.isQuery) = true → (p' h && h.isQuery) = true := by
      intro h hh
      simp only [Bool.and_eq_true] at hh ⊢
      exact ⟨hp h hh.1, hh.2⟩
    exact anyEntryMentions_mono hp' entries hv
  | .scalar c, hv => by simp [mentions] at hv
  | .byteArray bytes, hv => by simp [mentions] at hv
  | .stream place, hv => by simp [mentions] at hv

theorem anyMentions_mono {p p' : Handle → Bool} (hp : ∀ h, p h = true → p' h = true) :
    ∀ vs : List Value, anyMentions p vs = true → anyMentions p' vs = true
  | [], hvs => by simp [anyMentions] at hvs
  | v :: vs, hvs => by
    simp only [anyMentions, Bool.or_eq_true] at hvs ⊢
    exact hvs.imp (mentions_mono hp v) (anyMentions_mono hp vs)

theorem anyEntryMentions_mono {p p' : Handle → Bool} (hp : ∀ h, p h = true → p' h = true) :
    ∀ es : List (Scalar × Value), anyEntryMentions p es = true → anyEntryMentions p' es = true
  | [], hes => by simp [anyEntryMentions] at hes
  | (k, v) :: es, hes => by
    simp only [anyEntryMentions, Bool.or_eq_true] at hes ⊢
    exact hes.imp (mentions_mono hp v) (anyEntryMentions_mono hp es)

end

/-- What is not found of a wider kind is not found of a narrower one. -/
theorem mentions_eq_false_of_wider {p p' : Handle → Bool} (hp : ∀ h, p h = true → p' h = true)
    {v : Value} (hv : v.mentions p' = false) : v.mentions p = false := by
  cases h : v.mentions p with
  | false => rfl
  | true => rw [mentions_mono hp v h] at hv; cases hv

theorem mentions_of_not_refers (hv : ¬ v.Refers p s) : v.mentions p = false := by
  cases h : v.mentions p with
  | false => rfl
  | true => exact absurd (.own h) hv

@[simp] theorem not_refers_scalar {c : Scalar} : ¬ (Value.scalar c).Refers p s := by
  intro hv
  cases hv with
  | own hm => cases hm

@[simp] theorem refers_query_iff {h : Handle} : (Value.query h).Refers p s ↔ p h = true := by
  constructor
  · intro hv
    cases hv with
    | own hm => simpa [mentions] using hm
  · exact fun hh => .own (by simpa [mentions] using hh)

theorem not_refers_group {shape : Shape} {members : List Value}
    (hv : ¬ (Value.group shape members).Refers p s) : ∀ u ∈ members, ¬ u.Refers p s :=
  fun _ hmem hu => hv (.member hmem hu)

theorem not_refers_stream {place : Nat} (hv : ¬ (Value.stream place).Refers p s) :
    ∀ u ∈ s.rest place, ¬ u.Refers p s :=
  fun _ hmem hu => hv (.streamed hmem hu)

end Value

/-! ## Agreement -/

/-- Two readings of the queries that agree but for those of a certain kind. -/
structure Queries.AgreeBut (p : Handle → Bool) (qs qs' : Queries) : Prop where
  text : ∀ h, p h = false → qs'.text h = qs.text h
  modifier : ∀ h, p h = false → qs'.modifier h = qs.modifier h

/-- Two readings in which queries themselves are described alike but for those of a certain kind. -/
def Queries.DescribeBut (p : Handle → Bool) (qs qs' : Queries) : Prop :=
  ∀ h, p h = false → h.isQuery = true →
    qs'.text h = qs.text h ∧ qs'.modifier h = qs.modifier h

/-- The queries around two calls agree but for those of a certain kind, to which both receivers
    belong. -/
structure Surroundings.AgreeBut (p : Handle → Bool) (w w' : Surroundings) : Prop where
  queries : w.toQueries.AgreeBut p w'.toQueries
  receiver : ∀ h, w.isReceiver h = true → p h = true
  receiver' : ∀ h, w'.isReceiver h = true → p h = true

variable {p : Handle → Bool} {w w' : Surroundings}

theorem Queries.AgreeBut.describe {qs qs' : Queries} (h : qs.AgreeBut p qs') :
    qs.DescribeBut p qs' :=
  fun g hg _ => ⟨h.text g hg, h.modifier g hg⟩

/-- Nothing but queries themselves has to be left out. -/
theorem Queries.DescribeBut.queries {qs qs' : Queries} (h : qs.DescribeBut p qs') :
    qs.DescribeBut (fun g => p g && g.isQuery) qs' := by
  intro g hg hquery
  refine h g ?_ hquery
  simpa [hquery] using hg

/-- A query of another kind is no receiver. -/
theorem Surroundings.AgreeBut.not_receiver (hw : w.AgreeBut p w') {h : Handle} (hp : p h = false) :
    w.isReceiver h = false ∧ w'.isReceiver h = false := by
  refine ⟨Bool.eq_false_iff.mpr fun hh => ?_, Bool.eq_false_iff.mpr fun hh => ?_⟩
  · rw [hw.receiver h hh] at hp; cases hp
  · rw [hw.receiver' h hh] at hp; cases hp

/-- The agreement holds whatever the texts of the receivers are while the calls go on. -/
theorem Surroundings.AgreeBut.when (hw : w.AgreeBut p w') (own own' : Text) :
    (w.when own).AgreeBut p (w'.when own') := by
  refine ⟨fun h hp => ?_, hw.queries.modifier⟩
  obtain ⟨hr, hr'⟩ := hw.not_receiver hp
  simpa [Surroundings.when, hr, hr'] using hw.queries.text h hp

namespace Value

/-! ## Texts -/

section Texts

variable {qs qs' : Queries}

/-- How a group is shown depends on how its members are. -/
theorem shown_group_congr {members : List Value}
    (h : shownAll qs' members = shownAll qs members) (shape : Shape) :
    shown qs' (.group shape members) = shown qs (.group shape members) := by
  cases shape with
  | list => exact congrArg (fun ts => '[' :: Text.join ", ".toList ts ++ [']']) h
  | tuple =>
    -- A tuple of one member is shown with a comma of its own.
    rcases members with _ | ⟨v, _ | ⟨v', vs⟩⟩
    · rfl
    · have hv : shown qs' v = shown qs v := (List.cons.inj h).1
      exact congrArg (fun t => '(' :: t ++ [',', ')']) hv
    · exact congrArg (fun ts => '(' :: Text.join ", ".toList ts ++ [')']) h
  | set =>
    cases members with
    | nil => rfl
    | cons v vs => exact congrArg (fun ts => '\x7b' :: Text.join ", ".toList ts ++ ['\x7d']) h

mutual

/-- A value that mentions none of the queries in question is shown in one way. -/
theorem shown_congr {p : Handle → Bool} (hagree : qs.DescribeBut p qs') : ∀ v : Value,
    v.mentions p = false → shown qs' v = shown qs v
  | .scalar c, _ => rfl
  | .byteArray bytes, _ => rfl
  | .group shape members, h => shown_group_congr (shownAll_congr hagree members h) shape
  | .stream place, _ => rfl
  | .mapping entries, h =>
    congrArg (fun ts => '\x7b' :: Text.join ", ".toList ts ++ ['\x7d'])
      (shownEntries_congr hagree.queries entries h)
  | .query g, h => by
    simp only [mentions] at h
    show shownHandle qs' g = shownHandle qs g
    unfold shownHandle
    cases hquery : g.isQuery with
    | false => rfl
    | true =>
      obtain ⟨htext, hmodifier⟩ := hagree g h hquery
      rw [htext, hmodifier]

theorem shownAll_congr {p : Handle → Bool} (hagree : qs.DescribeBut p qs') : ∀ vs : List Value,
    anyMentions p vs = false → shownAll qs' vs = shownAll qs vs
  | [], _ => rfl
  | v :: vs, h => by
    simp only [anyMentions, Bool.or_eq_false_iff] at h
    have hfirst := shown_congr hagree v h.1
    have hrest := shownAll_congr hagree vs h.2
    show shown qs' v :: shownAll qs' vs = shown qs v :: shownAll qs vs
    rw [hfirst, hrest]

theorem shownEntries_congr {p : Handle → Bool} (hagree : qs.DescribeBut p qs') :
    ∀ es : List (Scalar × Value), anyEntryMentions p es = false →
      shownEntries qs' es = shownEntries qs es
  | [], _ => rfl
  | (k, v) :: es, h => by
    simp only [anyEntryMentions, Bool.or_eq_false_iff] at h
    have hfirst := shown_congr hagree v h.1
    have hrest := shownEntries_congr hagree es h.2
    show (k.shown ++ ": ".toList ++ shown qs' v) :: shownEntries qs' es
      = (k.shown ++ ": ".toList ++ shown qs v) :: shownEntries qs es
    rw [hfirst, hrest]

end

theorem written_congr (hagree : qs.AgreeBut p qs') {v : Value} (hv : v.mentions p = false) :
    v.written qs' = v.written qs := by
  have hshown := shown_congr hagree.describe v hv
  cases v with
  | scalar c => rfl
  | query h => exact hagree.text h (by simpa [mentions] using hv)
  | byteArray bytes => exact hshown
  | group shape members => exact hshown
  | stream place => exact hshown
  | mapping entries => exact hshown

/-- A bound is the same one, whatever the text of the receiver will be. -/
theorem bound_congr (hw : w.AgreeBut p w') {v : Value} (hv : v.mentions p = false) :
    v.bound w' = v.bound w := by
  have htext : (fun own => v.written (w'.when own)) = fun own => v.written (w.when own) :=
    funext fun own => written_congr (hw.when own own) hv
  simp only [bound, asBound, htext]

end Texts

/-! ## Looks -/

section Looks

variable {qs qs' : Queries} {s₀ : Shelf} {look look' : Nat → Shelf → Bool × Shelf}

mutual

theorem blankWith_congr (hagree : qs.AgreeBut p qs')
    (hkeeps : ∀ place s, s.Within s₀ → (look place s).2.Within s₀)
    (hlook : ∀ place s, s.Within s₀ → ¬ (Value.stream place).Refers p s₀ →
      look' place s = look place s) :
    ∀ (v : Value) (s : Shelf), s.Within s₀ → ¬ v.Refers p s₀ →
      v.blankWith qs' look' s = v.blankWith qs look s
  | .scalar c, s, hs, hv => by
    by_cases hc : c = .null
    · subst hc; simp [blankWith]
    · rw [blankWith_of_isLiteral (isLiteral_scalar hc), blankWith_of_isLiteral (isLiteral_scalar hc)]
      rfl
  | .byteArray bytes, s, hs, hv => by
    rw [blankWith_of_isLiteral rfl, blankWith_of_isLiteral rfl]
    rfl
  | .mapping entries, s, hs, hv => by
    rw [blankWith_of_isLiteral rfl, blankWith_of_isLiteral rfl,
      written_congr hagree (mentions_of_not_refers hv)]
  | .query h, s, hs, hv => by
    have hp : p h = false := by simpa [mentions] using mentions_of_not_refers hv
    simp [blankWith, hagree.text h hp]
  | .stream place, s, hs, hv => by simpa [blankWith] using hlook place s hs hv
  | .group shape members, s, hs, hv => by
    simp [blankWith, allBlankWith_congr hagree hkeeps hlook members s hs (not_refers_group hv)]

theorem allBlankWith_congr (hagree : qs.AgreeBut p qs')
    (hkeeps : ∀ place s, s.Within s₀ → (look place s).2.Within s₀)
    (hlook : ∀ place s, s.Within s₀ → ¬ (Value.stream place).Refers p s₀ →
      look' place s = look place s) :
    ∀ (vs : List Value) (s : Shelf), s.Within s₀ → (∀ v ∈ vs, ¬ v.Refers p s₀) →
      allBlankWith qs' look' vs s = allBlankWith qs look vs s
  | [], s, hs, hvs => rfl
  | v :: vs, s, hs, hvs => by
    have hfirst := blankWith_congr hagree hkeeps hlook v s hs (hvs v List.mem_cons_self)
    have hs' := within_blankWith qs hkeeps v s hs
    have hrest := allBlankWith_congr hagree hkeeps hlook vs (v.blankWith qs look s).2 hs' fun u hu =>
      hvs u (List.mem_cons_of_mem v hu)
    rw [allBlankWith, allBlankWith, hfirst]
    rcases hb : v.blankWith qs look s with ⟨blank, s'⟩
    rw [hb] at hrest
    cases blank with
    | true => exact hrest
    | false => rfl

end

theorem lookInto_congr (hagree : qs.AgreeBut p qs') (depth : Nat) :
    ∀ place s, s.Within s₀ → ¬ (Value.stream place).Refers p s₀ →
      lookInto qs' depth place s = lookInto qs depth place s := by
  induction depth with
  | zero => exact fun _ _ _ _ => rfl
  | succ depth ih =>
    intro place s hs hv
    have hmembers := allBlankWith_congr hagree (within_lookInto qs depth) ih (s.rest place) s hs
      fun u hu => not_refers_stream hv u (hs place u hu)
    simp only [lookInto, hmembers]

/-- **A look** at a value finds the same and takes the same. -/
theorem isBlank_congr (hagree : qs.AgreeBut p qs') {v : Value} {s : Shelf} (hs : s.Within s₀)
    (hv : ¬ v.Refers p s₀) : v.isBlank qs' s = v.isBlank qs s :=
  blankWith_congr hagree (within_lookInto qs s.length) (lookInto_congr hagree s.length) v s hs hv

end Looks

/-! ## Terms -/

section Terms

variable {s₀ : Shelf} {empty empty' : Nat → Shelf → List Term × Shelf}

/-- The term of a literal that does not mention the receiver. -/
theorem termWith_of_not_mentions (w : Surroundings) {v : Value} (hv : v.isLiteral = true)
    (hr : v.mentions w.isReceiver = false) (s : Shelf) :
    v.termWith w empty s = (.literal (v.written w.toQueries), s) := by
  rw [termWith_of_isLiteral hv, hr]
  rfl

theorem termWith_congr_of_isLiteral (empty empty' : Nat → Shelf → List Term × Shelf)
    (hw : w.AgreeBut p w') {v : Value} (hv : v.isLiteral = true) {s : Shelf} (hs : s.Within s₀)
    (hrefers : ¬ v.Refers p s₀) :
    v.termWith w' empty' s = v.termWith w empty s ∧ (v.termWith w empty s).2.Within s₀ := by
  have hp : v.mentions p = false := mentions_of_not_refers hrefers
  have hr : v.mentions w.isReceiver = false := mentions_eq_false_of_wider hw.receiver hp
  have hr' : v.mentions w'.isReceiver = false := mentions_eq_false_of_wider hw.receiver' hp
  rw [termWith_of_not_mentions w hv hr, termWith_of_not_mentions w' hv hr',
    written_congr hw.queries hp]
  exact ⟨rfl, hs⟩

mutual

theorem termWith_congr (hw : w.AgreeBut p w')
    (hempty : ∀ place s, s.Within s₀ → ¬ (Value.stream place).Refers p s₀ →
      empty' place s = empty place s ∧ (empty place s).2.Within s₀) :
    ∀ (v : Value) (s : Shelf), s.Within s₀ → ¬ v.Refers p s₀ →
      v.termWith w' empty' s = v.termWith w empty s ∧ (v.termWith w empty s).2.Within s₀
  | .scalar c, s, hs, hv => by
    by_cases hc : c = .null
    · subst hc; simpa [termWith] using hs
    · exact termWith_congr_of_isLiteral empty empty' hw (isLiteral_scalar hc) hs hv
  | .byteArray bytes, s, hs, hv => termWith_congr_of_isLiteral empty empty' hw rfl hs hv
  | .mapping entries, s, hs, hv => termWith_congr_of_isLiteral empty empty' hw rfl hs hv
  | .query h, s, hs, hv => by
    have hp : p h = false := by simpa [mentions] using mentions_of_not_refers hv
    obtain ⟨hr, hr'⟩ := hw.not_receiver hp
    simpa [termWith, hr, hr', hw.queries.text h hp] using hs
  | .stream place, s, hs, hv => by
    obtain ⟨hsame, hwithin⟩ := hempty place s hs hv
    simpa [termWith, hsame] using hwithin
  | .group shape members, s, hs, hv => by
    obtain ⟨hsame, hwithin⟩ := termsWith_congr hw hempty members s hs (not_refers_group hv)
    simpa [termWith, hsame] using hwithin

theorem termsWith_congr (hw : w.AgreeBut p w')
    (hempty : ∀ place s, s.Within s₀ → ¬ (Value.stream place).Refers p s₀ →
      empty' place s = empty place s ∧ (empty place s).2.Within s₀) :
    ∀ (vs : List Value) (s : Shelf), s.Within s₀ → (∀ v ∈ vs, ¬ v.Refers p s₀) →
      termsWith w' empty' vs s = termsWith w empty vs s ∧ (termsWith w empty vs s).2.Within s₀
  | [], s, hs, hvs => by simpa [termsWith] using hs
  | v :: vs, s, hs, hvs => by
    obtain ⟨hfirst, hs'⟩ := termWith_congr hw hempty v s hs (hvs v List.mem_cons_self)
    obtain ⟨hrest, hs''⟩ := termsWith_congr hw hempty vs _ hs' fun u hu =>
      hvs u (List.mem_cons_of_mem v hu)
    simpa [termsWith, hfirst, hrest] using hs''

end

theorem emptyStream_congr (hw : w.AgreeBut p w') (depth : Nat) :
    ∀ place s, s.Within s₀ → ¬ (Value.stream place).Refers p s₀ →
      emptyStream w' depth place s = emptyStream w depth place s ∧
        (emptyStream w depth place s).2.Within s₀ := by
  induction depth with
  | zero => exact fun _ _ hs _ => ⟨rfl, hs⟩
  | succ depth ih =>
    intro place s hs hv
    exact termsWith_congr hw ih _ _ (hs.put (by simp)) fun u hu =>
      not_refers_stream hv u (hs place u hu)

/-- **The term** of a value is the same one, and what was read for it is, too. -/
theorem term_congr (hw : w.AgreeBut p w') {v : Value} {s : Shelf} (hs : s.Within s₀)
    (hv : ¬ v.Refers p s₀) : v.term w' s = v.term w s ∧ (v.term w s).2.Within s₀ :=
  termWith_congr hw (emptyStream_congr hw s.length) v s hs hv

/-- Settling a value refers to nothing new. -/
theorem not_refers_settled {v : Value} {s : Shelf} (hs : s.Within s₀) (hv : ¬ v.Refers p s₀) :
    ¬ (v.settled s).1.Refers p s₀ ∧ (v.settled s).2.Within s₀ := by
  unfold settled
  split
  · rename_i members
    refine ⟨fun h => ?_, hs⟩
    cases h with
    | own hm => exact hv (.own (by simpa [mentions] using hm))
    | member hmem hu => exact hv (.member hmem hu)
  · rename_i place
    refine ⟨fun h => ?_, hs.put (by simp)⟩
    cases h with
    | own hm =>
      rw [mentions, anyMentions_eq, List.any_eq_true] at hm
      obtain ⟨u, hu, hm⟩ := hm
      exact hv (.streamed (hs place u hu) (.own hm))
    | member hmem hu => exact hv (.streamed (hs place _ hmem) hu)
  · exact ⟨hv, hs⟩

end Terms
end Value
end SearchQuery
