/-
  Fields that are not opened.

  Whether a value gives nothing is found out twice: before a field is opened for it a look is taken
  at the value, and when it is written each group drops the members that are blank.  The two differ
  on a query whose text is made of blanks: a group drops that query, while the look takes it for
  something to search for.  They also differ on an empty query that stands in a group of a group of
  its own value: the look finds it empty, but it is no longer when it is reached.

  1. **A look and a rendering (`blankWith_iff`)** — a value is blank exactly if it gives nothing and
     hides no such query; by mutual induction on values and lists of members.
  2. **The receiver in its own value (`render_ne_nil_of_receiver`)** — where the receiver has a text
     that is not blank, a value that holds it gives something.  An opened field is such a text, and
     so is an opened group.
  3. **Fields (`Reached.skips_fields`)** — a field whose value would give nothing is not opened,
     unless the value hides a query; then the field is written around an empty phrase.
-/
import SearchQuery.Proofs.Query.Balance
import SearchQuery.Proofs.Query.Rendering
import SearchQuery.Proofs.Value.Agreement

namespace SearchQuery

theorem renderClause_eq_nil_iff {m : Modifier} {t : Text} : renderClause m t = [] ↔ t = [] := by
  cases t <;> simp [renderClause]

theorem length_renderClause (m : Modifier) (c : Char) (t : Text) :
    (renderClause m (c :: t)).length = m.mark.length + t.length + 4 := by
  simp only [renderClause, List.isEmpty_cons, Bool.false_eq_true, if_false, List.length_append,
    List.length_cons, List.length_nil]
  omega

/-- A clause around a longer text is longer. -/
theorem length_renderClause_lt (m : Modifier) {t u : Text} (h : t.length < u.length) :
    (renderClause m t).length < (renderClause m u).length := by
  cases u with
  | nil => exact absurd h (Nat.not_lt_zero _)
  | cons c u =>
    rw [length_renderClause]
    cases t with
    | nil =>
      show 0 < _
      omega
    | cons d t =>
      rw [List.length_cons, List.length_cons] at h
      rw [length_renderClause]
      omega

theorem length_renderClause_le (m : Modifier) {t u : Text} (h : t.length ≤ u.length) :
    (renderClause m t).length ≤ (renderClause m u).length := by
  rcases Nat.lt_or_eq_of_le h with hlt | heq
  · exact Nat.le_of_lt (length_renderClause_lt m hlt)
  · cases t with
    | nil => exact Nat.zero_le _
    | cons c t =>
      cases u with
      | nil => cases heq
      | cons d u =>
        rw [List.length_cons, List.length_cons] at heq
        rw [length_renderClause, length_renderClause]
        omega

/-- A clause is not shorter than an empty phrase. -/
theorem three_le_length_renderClause {m : Modifier} {t : Text} (h : renderClause m t ≠ []) :
    3 ≤ (renderClause m t).length := by
  cases t with
  | nil => exact absurd rfl h
  | cons c t =>
    rw [length_renderClause]
    omega

theorem renderLiteral_eq_nil_iff {m : Modifier} {t : Text} :
    renderLiteral m t = [] ↔ Text.isBlank t = true := by
  cases h : Text.isBlank t <;> simp [renderLiteral, h]

theorem Text.isBlank_append (t u : Text) :
    Text.isBlank (t ++ u) = (Text.isBlank t && Text.isBlank u) :=
  List.all_append

/-! ## A look and a rendering -/

/-- The text of a query is made of blanks, and there are some. -/
def Queries.hidden (qs : Queries) (h : Handle) : Bool :=
  !(qs.text h).isEmpty && Text.isBlank (qs.text h)

namespace Value

/-- Whether a query whose text is made of blanks stands in a value. -/
def hides (qs : Queries) (v : Value) : Bool := v.mentions qs.hidden

/-- A mapping is never blank: it begins with a brace. -/
theorem isBlank_written_mapping (qs : Queries) (entries : List (Scalar × Value)) :
    Text.isBlank ((Value.mapping entries).written qs) = false := by
  have hbrace : Text.isBlankChar '\x7b' = false := by decide +kernel
  show ('\x7b' :: (Text.join ", " (shownEntries qs entries) ++ ['\x7d'])).all Text.isBlankChar
    = false
  rw [List.all_cons, hbrace, Bool.false_and]

/-- No query stands in a literal that is blank. -/
theorem mentions_of_isBlank_written {v : Value} (hv : v.isLiteral = true) {qs : Queries}
    (hblank : Text.isBlank (v.written qs) = true) (p : Handle → Bool) : v.mentions p = false := by
  cases v with
  | scalar c => simp [mentions]
  | byteArray bytes => simp [mentions]
  | mapping entries => rw [isBlank_written_mapping] at hblank; cases hblank
  | group shape members => cases hv
  | stream place => cases hv
  | query h => cases hv

/-- Whether a literal is blank does not hang on the queries around it. -/
theorem isBlank_written_congr {v : Value} (hv : v.isLiteral = true) (qs qs' : Queries) :
    Text.isBlank (v.written qs) = Text.isBlank (v.written qs') := by
  cases v with
  | scalar c => rfl
  | byteArray bytes => rfl
  | mapping entries => rw [isBlank_written_mapping, isBlank_written_mapping]
  | group shape members => cases hv
  | stream place => cases hv
  | query h => cases hv

/-- A look at members goes on as long as they are blank. -/
theorem allBlankWith_cons_iff (qs : Queries) (look : Nat → Shelf → Bool × Shelf) (v : Value)
    (vs : List Value) (s : Shelf) :
    (allBlankWith qs look (v :: vs) s).1 = true ↔
      (v.blankWith qs look s).1 = true ∧
        (allBlankWith qs look vs (v.blankWith qs look s).2).1 = true := by
  rw [allBlankWith]
  rcases v.blankWith qs look s with ⟨blank, s'⟩
  cases blank <;> simp

/-! A look may find other texts than the rendering, but only for queries that the value does not
    hold: `qs` is what the look finds, `qs'` what is rendered, and they agree outside of `p`. -/

section Look

variable {qs qs' : Queries} {p : Handle → Bool} (hagree : ∀ h, p h = false → qs'.text h = qs.text h)
  (look : Nat → Shelf → Bool × Shelf)

theorem blankWith_iff_of_isLiteral {v : Value} (hv : v.isLiteral = true) (s : Shelf)
    (m : Modifier) :
    (v.blankWith qs look s).1 = true ↔ v.render qs' m = [] ∧ v.hides qs = false := by
  rw [blankWith_of_isLiteral hv, render_of_isLiteral hv, renderLiteral_eq_nil_iff,
    isBlank_written_congr hv qs' qs]
  constructor
  · intro h
    exact ⟨h, mentions_of_isBlank_written hv h _⟩
  · exact fun h => h.1

include hagree in
theorem blankWith_query_iff {h : Handle} (hp : p h = false) (s : Shelf) (m : Modifier) :
    ((Value.query h).blankWith qs look s).1 = true
      ↔ (Value.query h).render qs' m = [] ∧ (Value.query h).hides qs = false := by
  simp only [blankWith, render, renderClause_eq_nil_iff, hides, mentions, Queries.hidden,
    List.isEmpty_iff, hagree h hp]
  constructor
  · intro hempty
    simp [hempty]
  · exact fun hboth => hboth.1

include hagree in
/-- A member that is dropped is blank, unless it is a query with blanks for a text. -/
theorem blankWith_iff_of_dropped {v : Value} (hp : v.mentions p = false)
    (hkept : v.kept qs' = false) (s : Shelf) :
    (v.blankWith qs look s).1 = true ↔ v.hides qs = false := by
  simp only [kept, Bool.or_eq_false_iff, Bool.and_eq_false_iff, Bool.not_eq_false'] at hkept
  obtain ⟨hgroup, hdropped⟩ := hkept
  cases v with
  | query h =>
    have htext : Text.isBlank (qs.text h) = true := by
      rw [← hagree h (by simpa [mentions] using hp)]
      simpa [isAbsent, written] using hdropped
    simp [blankWith, hides, mentions, Queries.hidden, htext]
  | scalar c =>
    by_cases hc : c = .null
    · subst hc; simp [blankWith, hides, mentions]
    · have hliteral := isLiteral_scalar hc
      rw [blankWith_of_isLiteral hliteral, isBlank_written_congr hliteral qs qs']
      exact iff_of_true (by simpa [isAbsent_of_isLiteral hliteral] using hdropped)
        (by simp [hides, mentions])
  | byteArray bytes =>
    rw [blankWith_of_isLiteral rfl, isBlank_written_congr rfl qs qs']
    exact iff_of_true (by simpa [isAbsent] using hdropped) (by simp [hides, mentions])
  | mapping entries => simp [isAbsent, isBlank_written_mapping] at hdropped
  | group shape members => cases hgroup
  | stream place => cases hgroup

include hagree in
/-- What is said of a value by itself, said of it as a member. -/
theorem blankWith_iff_clause {v : Value} (hp : v.mentions p = false) {s : Shelf} {m : Modifier}
    (hv : (v.blankWith qs look s).1 = true ↔ v.render qs' m = [] ∧ v.hides qs = false) :
    (v.blankWith qs look s).1 = true ↔
      (if v.kept qs' then v.render qs' m else []) = [] ∧ v.hides qs = false := by
  cases hkept : v.kept qs' with
  | true => rw [if_pos rfl]; exact hv
  | false => simpa using blankWith_iff_of_dropped hagree look hp hkept s

include hagree in
mutual

/-- **A value is blank** exactly if it gives nothing and hides no query; no stream is touched. -/
theorem blankWith_iff : ∀ (v : Value) (s : Shelf) (m : Modifier), v.streamless = true →
    v.mentions p = false →
    ((v.blankWith qs look s).1 = true ↔ v.render qs' m = [] ∧ v.hides qs = false) ∧
      (v.blankWith qs look s).2 = s
  | .group shape members, s, m, hv, hp => by
    simp only [streamless] at hv
    simp only [mentions] at hp
    obtain ⟨hiff, hshelf⟩ := allBlankWith_iff members s m.element hv hp
    simp only [blankWith, render, renderClause_eq_nil_iff, hides, mentions]
    exact ⟨hiff, hshelf⟩
  | .stream place, s, m, hv, hp => by simp [streamless] at hv
  | .query h, s, m, hv, hp =>
    ⟨blankWith_query_iff hagree look (by simpa [mentions] using hp) s m, by simp [blankWith]⟩
  | .scalar c, s, m, hv, hp => by
    by_cases hc : c = .null
    · subst hc
      simp [blankWith, render, isAbsent, hides, mentions]
    · have hliteral := isLiteral_scalar hc
      exact ⟨blankWith_iff_of_isLiteral look hliteral s m, by rw [blankWith_of_isLiteral hliteral]⟩
  | .byteArray bytes, s, m, hv, hp =>
    ⟨blankWith_iff_of_isLiteral look rfl s m, by rw [blankWith_of_isLiteral rfl]⟩
  | .mapping entries, s, m, hv, hp =>
    ⟨blankWith_iff_of_isLiteral look rfl s m, by rw [blankWith_of_isLiteral rfl]⟩

/-- Members are all blank exactly if they give nothing and hide no query. -/
theorem allBlankWith_iff : ∀ (vs : List Value) (s : Shelf) (m : Modifier),
    allStreamless vs = true → anyMentions p vs = false →
    ((allBlankWith qs look vs s).1 = true ↔
        renderAll qs' m vs = [] ∧ anyMentions qs.hidden vs = false) ∧
      (allBlankWith qs look vs s).2.2 = s
  | [], s, m, hv, hp => by simp [allBlankWith, renderAll, anyMentions]
  | v :: vs, s, m, hv, hp => by
    simp only [allStreamless, Bool.and_eq_true] at hv
    simp only [anyMentions, Bool.or_eq_false_iff] at hp
    obtain ⟨hfirst, hshelf⟩ := blankWith_iff v s m hv.1 hp.1
    obtain ⟨hrest, hshelf'⟩ := allBlankWith_iff vs s m hv.2 hp.2
    have hmember := blankWith_iff_clause hagree look hp.1 hfirst
    refine ⟨?_, ?_⟩
    · rw [allBlankWith_cons_iff, hshelf, hmember, hrest, renderAll, anyMentions,
        List.append_eq_nil_iff, Bool.or_eq_false_iff]
      exact and_and_and_comm
    · rw [allBlankWith]
      rcases hb : v.blankWith qs look s with ⟨blank, s'⟩
      obtain rfl : s' = s := by rw [← hshelf, hb]
      cases blank with
      | true => exact hshelf'
      | false => rfl

end

end Look

theorem text_when_receiver (w : Surroundings) (own : Text) {h : Handle}
    (hh : w.isReceiver h = true) : (w.when own).text h = own := by
  simp [Surroundings.when, hh]

theorem text_when_other (w : Surroundings) (own : Text) (h : Handle)
    (hh : w.isReceiver h = false) : w.toQueries.text h = (w.when own).text h := by
  simp [Surroundings.when, hh]

/-- The look that is taken while the receiver holds the text `own`, at a value without it. -/
theorem isBlank_iff (w : Surroundings) (own : Text) {v : Value} (hv : v.streamless = true)
    (hr : v.mentions w.isReceiver = false) (s : Shelf) (m : Modifier) :
    (v.isBlank (w.when own) s).1 = true ↔
      v.render w.toQueries m = [] ∧ v.hides (w.when own) = false :=
  (blankWith_iff (text_when_other w own) _ v s m hv hr).1

/-! ## The receiver in its own value -/

/-- Whether a query of a certain kind stands in a group that is a member of the value. -/
def nests (p : Handle → Bool) : Value → Bool
  | .group _ members => members.any fun v => v.isGroup && v.mentions p
  | _ => false

section Holding

variable {qs : Queries} {p : Handle → Bool} (look : Nat → Shelf → Bool × Shelf)

mutual

/-- A value that holds a query with a text is not blank. -/
theorem blankWith_of_mentions (hp : ∀ h, p h = true → qs.text h ≠ []) :
    ∀ (v : Value) (s : Shelf), v.mentions p = true → (v.blankWith qs look s).1 = false
  | .query h, s, hv => by
    simp only [mentions] at hv
    simpa [blankWith] using hp h hv
  | .group shape members, s, hv => by
    simp only [mentions] at hv
    simp only [blankWith]
    exact allBlankWith_of_mentions hp members s hv
  | .mapping entries, s, hv => by
    rw [blankWith_of_isLiteral rfl]
    exact isBlank_written_mapping qs entries
  | .scalar c, s, hv => by simp [mentions] at hv
  | .byteArray bytes, s, hv => by simp [mentions] at hv
  | .stream place, s, hv => by simp [mentions] at hv

theorem allBlankWith_of_mentions (hp : ∀ h, p h = true → qs.text h ≠ []) :
    ∀ (vs : List Value) (s : Shelf), anyMentions p vs = true → (allBlankWith qs look vs s).1 = false
  | [], s, hvs => by simp [anyMentions] at hvs
  | v :: vs, s, hvs => by
    simp only [anyMentions, Bool.or_eq_true] at hvs
    rw [allBlankWith]
    rcases hb : v.blankWith qs look s with ⟨blank, s'⟩
    cases blank with
    | false => rfl
    | true =>
      rcases hvs with hv | hvs
      · have hfirst := blankWith_of_mentions hp v s hv
        rw [hb] at hfirst
        cases hfirst
      · exact allBlankWith_of_mentions hp vs s' hvs

end

end Holding

section Receiver

variable (w : Surroundings) (empty : Nat → Shelf → List Term × Shelf)

mutual

/-- **A value that holds the receiver** gives something behind a text that is not blank, and is kept
    where it is a member. -/
theorem render_ne_nil_of_receiver : ∀ (v : Value) (s : Shelf) (own : Text) (m : Modifier),
    v.mentions w.isReceiver = true → Text.isBlank own = false →
    (v.termWith w empty s).1.render own m ≠ [] ∧
      ∀ held, Text.isBlank held = false → (v.termWith w empty s).1.survives held = true
  | .query h, s, own, m, hv, hown => by
    simp only [mentions] at hv
    have hne : own ≠ [] := by rintro rfl; cases hown
    simp only [termWith, hv, if_true, Term.render, Term.survives, ne_eq, renderClause_eq_nil_iff]
    exact ⟨hne, fun held hheld => by simp [hheld]⟩
  | .group shape members, s, own, m, hv, hown => by
    simp only [mentions] at hv
    have hopened : Text.isBlank (own ++ m.mark ++ ['(']) = false := by
      simp [Text.isBlank_append, hown]
    simp only [termWith, Term.render, Term.survives, ne_eq, renderClause_eq_nil_iff]
    exact ⟨renderMembers_ne_nil_of_receiver members s own _ m.element hv hown hopened,
      fun held hheld => trivial⟩
  | .mapping entries, s, own, m, hv, hown => by
    rw [termWith_of_isLiteral rfl, if_pos hv]
    simp only [Term.render, Term.survives, ne_eq, renderLiteral_eq_nil_iff, isBlank_written_mapping]
    exact ⟨Bool.false_ne_true, fun held hheld => rfl⟩
  | .scalar c, s, own, m, hv, hown => by simp [mentions] at hv
  | .byteArray bytes, s, own, m, hv, hown => by simp [mentions] at hv
  | .stream place, s, own, m, hv, hown => by simp [mentions] at hv

/-- Members of which one holds the receiver give something. -/
theorem renderMembers_ne_nil_of_receiver : ∀ (vs : List Value) (s : Shelf) (held own : Text)
    (m : Modifier), anyMentions w.isReceiver vs = true → Text.isBlank held = false →
    Text.isBlank own = false → Term.renderMembers held own m (termsWith w empty vs s).1 ≠ []
  | [], s, held, own, m, hvs, hheld, hown => by simp [anyMentions] at hvs
  | v :: vs, s, held, own, m, hvs, hheld, hown => by
    simp only [anyMentions, Bool.or_eq_true] at hvs
    simp only [termsWith, Term.renderMembers, ne_eq, List.append_eq_nil_iff]
    rintro ⟨hfirst, hrest⟩
    rcases hvs with hv | hvs
    · obtain ⟨hgives, hsurvives⟩ := render_ne_nil_of_receiver v s own m hv hown
      rw [if_pos (hsurvives held hheld)] at hfirst
      exact hgives hfirst
    · refine renderMembers_ne_nil_of_receiver vs _ held _ m hvs hheld ?_ hrest
      simp [Text.isBlank_append, hown]

end

theorem survives_of_isGroup {v : Value} (hv : v.isGroup = true) (s : Shelf) (held : Text) :
    (v.termWith w empty s).1.survives held = true := by
  cases v with
  | group shape members => simp [termWith, Term.survives]
  | stream place => simp [termWith, Term.survives]
  | _ => cases hv

/-- When a group is reached that is a member, the receiver has a text, whatever it had before. -/
theorem renderMembers_ne_nil_of_nests : ∀ (vs : List Value) (s : Shelf) (held own : Text)
    (m : Modifier), (vs.any fun v => v.isGroup && v.mentions w.isReceiver) = true →
    Text.isBlank own = false → Term.renderMembers held own m (termsWith w empty vs s).1 ≠ []
  | [], s, held, own, m, hvs, hown => by cases hvs
  | v :: vs, s, held, own, m, hvs, hown => by
    rw [List.any_cons, Bool.or_eq_true, Bool.and_eq_true] at hvs
    simp only [termsWith, Term.renderMembers, ne_eq, List.append_eq_nil_iff]
    rintro ⟨hfirst, hrest⟩
    rcases hvs with ⟨hgroup, hv⟩ | hvs
    · rw [if_pos (survives_of_isGroup w empty hgroup s held)] at hfirst
      exact (render_ne_nil_of_receiver w empty v s own m hv hown).1 hfirst
    · refine renderMembers_ne_nil_of_nests vs _ held _ m hvs ?_ hrest
      simp [Text.isBlank_append, hown]

/-- A member of a group, while the receiver is empty: the receiver itself is dropped, as it is
    blank. -/
theorem blankWith_iff_of_shallow (look : Nat → Shelf → Bool × Shelf) {v : Value}
    (hv : v.streamless = true) (hn : (v.isGroup && v.mentions w.isReceiver) = false)
    (s s' : Shelf) (own : Text) (m : Modifier) :
    (v.blankWith (w.when []) look s).1 = true ↔
      (if (v.termWith w empty s').1.survives [] then (v.termWith w empty s').1.render own m
        else []) = [] ∧ v.hides (w.when []) = false := by
  have hagree := text_when_other w []
  cases hr : v.mentions w.isReceiver with
  | false =>
    have hmeans := (means_termWith w empty v s' hv hr).1
    rw [hmeans.survives, hmeans.render]
    exact blankWith_iff_clause hagree look hr (blankWith_iff hagree look v s m hv hr).1
  | true =>
    cases v with
    | query h =>
      have hh : w.isReceiver h = true := by simpa [mentions] using hr
      have htext := text_when_receiver w [] hh
      simp [blankWith, termWith, hh, htext, Term.survives, Text.isBlank, hides, mentions,
        Queries.hidden]
    | mapping entries =>
      rw [blankWith_of_isLiteral rfl, termWith_of_isLiteral rfl, if_pos hr]
      simp [Term.survives, Term.render, renderLiteral_eq_nil_iff, isBlank_written_mapping]
    | group shape members => rw [hr] at hn; cases hn
    | scalar c => simp [mentions] at hr
    | byteArray bytes => simp [mentions] at hr
    | stream place => simp [mentions] at hr

theorem allBlankWith_iff_of_shallow (look : Nat → Shelf → Bool × Shelf) :
    ∀ (vs : List Value) (s s' : Shelf) (own : Text) (m : Modifier), allStreamless vs = true →
    (vs.any fun v => v.isGroup && v.mentions w.isReceiver) = false →
    ((allBlankWith (w.when []) look vs s).1 = true ↔
      Term.renderMembers [] own m (termsWith w empty vs s').1 = [] ∧
        anyMentions (w.when []).hidden vs = false)
  | [], s, s', own, m, hv, hn => by
    simp [allBlankWith, termsWith, Term.renderMembers, anyMentions]
  | v :: vs, s, s', own, m, hv, hn => by
    simp only [allStreamless, Bool.and_eq_true] at hv
    rw [List.any_cons, Bool.or_eq_false_iff] at hn
    have hmember := blankWith_iff_of_shallow w empty look hv.1 hn.1 s s' own m
    rw [allBlankWith_cons_iff, hmember,
      allBlankWith_iff_of_shallow look vs _ (v.termWith w empty s').2 _ m hv.2 hn.2]
    simp only [termsWith, Term.renderMembers, anyMentions, List.append_eq_nil_iff,
      Bool.or_eq_false_iff]
    exact and_and_and_comm

theorem render_ne_nil_of_nests {v : Value} (hn : v.nests w.isReceiver = true) (s : Shelf)
    (own : Text) (m : Modifier) : (v.term w s).1.render own m ≠ [] := by
  cases v with
  | group shape members =>
    have hopened : Text.isBlank (own ++ m.mark ++ ['(']) = false := by
      have hparenthesis : Text.isBlank ['('] = false := by decide +kernel
      simp [Text.isBlank_append, hparenthesis]
    have hmembers := renderMembers_ne_nil_of_nests w (emptyStream w s.length) members s own _
      m.element hn hopened
    simpa [term, termWith, Term.render, renderClause_eq_nil_iff] using hmembers
  | _ => cases hn

/-- A look at a value while the receiver is empty. -/
theorem isBlank_iff_of_shallow {v : Value} (hv : v.streamless = true)
    (hn : v.nests w.isReceiver = false) (s : Shelf) (m : Modifier) :
    (v.isBlank (w.when []) s).1 = true ↔
      (v.term w s).1.render [] m = [] ∧ v.hides (w.when []) = false := by
  cases v with
  | group shape members =>
    have hmembers := allBlankWith_iff_of_shallow w (emptyStream w s.length)
      (lookInto (w.when []) s.length) members s s ([] ++ m.mark ++ ['(']) m.element
      (by simpa [streamless] using hv) hn
    simpa [isBlank, blankWith, term, termWith, Term.render, renderClause_eq_nil_iff, hides,
      mentions] using hmembers
  | query h =>
    cases hh : w.isReceiver h with
    | false =>
      have hr : (Value.query h).mentions w.isReceiver = false := by simpa [mentions] using hh
      rw [isBlank_iff w [] hv hr s m, (means_term w hv hr s).render]
    | true =>
      have htext := text_when_receiver w [] hh
      simp [isBlank, blankWith, term, termWith, hh, htext, Term.render, renderClause, hides,
        mentions, Queries.hidden]
  | mapping entries =>
    have hmapping := isBlank_written_mapping
    rw [isBlank, blankWith_of_isLiteral rfl, term, termWith_of_isLiteral rfl]
    cases hr : (Value.mapping entries).mentions w.isReceiver <;>
      simp [Term.render, renderLiteral_eq_nil_iff, hmapping]
  | scalar c =>
    have hr : (Value.scalar c).mentions w.isReceiver = false := by simp [mentions]
    rw [isBlank_iff w [] hv hr s m, (means_term w hv hr s).render]
  | byteArray bytes =>
    have hr : (Value.byteArray bytes).mentions w.isReceiver = false := by simp [mentions]
    rw [isBlank_iff w [] hv hr s m, (means_term w hv hr s).render]
  | stream place => simp [streamless] at hv

/-- A look at a value while the receiver has a text: the look finds that text, and a group drops the
    receiver only if the text is made of blanks. -/
theorem isBlank_iff_of_text {v : Value} (hv : v.streamless = true) {own : Text} (hown : own ≠ [])
    (s : Shelf) (m : Modifier) :
    (v.isBlank (w.when own) s).1 = true ↔
      (v.term w s).1.render own m = [] ∧ v.hides (w.when own) = false := by
  cases hr : v.mentions w.isReceiver with
  | false => rw [isBlank_iff w own hv hr s m, (means_term w hv hr s).render]
  | true =>
    -- Neither side holds: the value is not blank, and it gives something or hides the receiver.
    have htext : ∀ h, w.isReceiver h = true → (w.when own).text h ≠ [] := by
      intro h hh
      rw [text_when_receiver w own hh]
      exact hown
    have hlook : (v.isBlank (w.when own) s).1 = false := blankWith_of_mentions _ htext v s hr
    rw [hlook]
    constructor
    · exact fun h => absurd h Bool.false_ne_true
    · rintro ⟨hrender, hhides⟩
      cases hblank : Text.isBlank own with
      | false => exact absurd hrender (render_ne_nil_of_receiver w _ v s own m hr hblank).1
      | true =>
        have hhidden : v.hides (w.when own) = true := by
          refine mentions_mono (fun h hh => ?_) v hr
          simp [Queries.hidden, text_when_receiver w own hh, hown, hblank]
        rw [hhidden] at hhides
        cases hhides

end Receiver

end Value

/-! ## Fields -/

namespace Query

variable {q : Query}

/-- Writing leaves the text as it is exactly if the term gives nothing behind it. -/
theorem text_write_eq_iff (hq : q.buffer.Sound) (m : Modifier) (t : Term) :
    (q.write m t).text = q.text ↔ t.render q.text m = [] := by
  rw [(wrote_write t q m hq).text, List.append_right_eq_self]

/-- An opened field is a text that is not blank. -/
theorem isBlank_text_openField (hq : q.buffer.Sound) (name : Text) (m : Modifier) :
    Text.isBlank (q.openField name m).text = false := by
  have hopening : Text.isBlank [':', '('] = false := by decide +kernel
  rw [(wrote_openField hq name m).text, renderOpening]
  simp [Text.isBlank_append, hopening]

end Query

namespace Scene

variable {w : Surroundings} {s : Scene}

theorem query_putField_of_missing {name : Option Text} (hname : Text.isMissing name = true)
    (v : Value) (m : Modifier) (factor : Option Number) :
    (s.putField w name v m factor).query = s.query.skipped := by
  cases name with
  | none => rfl
  | some name =>
    have hblank : Text.isBlank name = true := hname
    simp [putField, hblank, Scene.change]

theorem query_putField_of_blank {v : Value}
    (hblank : (v.isBlank (w.when s.query.text) s.shelf).1 = true) (name : Option Text)
    (m : Modifier) (factor : Option Number) :
    (s.putField w name v m factor).query = s.query.skipped := by
  by_cases hname : Text.isMissing name = true
  · exact query_putField_of_missing hname v m factor
  · cases name with
    | none => rfl
    | some name =>
      have hnamed : Text.isBlank name = false := by simpa [Text.isMissing] using hname
      simp [putField, hnamed, hblank]

end Scene

/-- A value that gives nothing in a field that was opened for it does not hold the receiver, and
    gives nothing anywhere. -/
theorem Value.render_of_opened {q : Query} (hq : q.buffer.Sound) (w : Surroundings) {v : Value}
    (hv : v.streamless = true) (name : Text) (m m' : Modifier) (s : Shelf)
    (hnothing : ((q.openField name m).write m' (v.term w s).1).text = (q.openField name m).text) :
    v.mentions w.isReceiver = false ∧ v.render w.toQueries m' = [] := by
  have hopened := Query.wrote_openField hq name m
  have hrender := (Query.text_write_eq_iff hopened.sound m' _).mp hnothing
  have hr : v.mentions w.isReceiver = false := by
    cases hmentions : v.mentions w.isReceiver with
    | false => rfl
    | true =>
      have hown := Query.isBlank_text_openField hq name m
      exact absurd hrender (render_ne_nil_of_receiver w _ v s _ m' hmentions hown).1
  rw [(means_term w hv hr s).render] at hrender
  exact ⟨hr, hrender⟩

/-- **A look and a dispatch** find the same: a dispatch adds nothing, and the value hides no query,
    exactly if the value is blank and is not one that nests the receiver while that is empty. -/
theorem Value.text_write_eq_iff_isBlank {q : Query} (hq : q.buffer.Sound) (w : Surroundings)
    {v : Value} (hv : v.streamless = true) (s : Shelf) (m : Modifier) :
    (q.write m (v.term w s).1).text = q.text ∧ v.hides (w.when q.text) = false ↔
      (v.isBlank (w.when q.text) s).1 = true ∧ (q.text = [] → v.nests w.isReceiver = false) := by
  rw [Query.text_write_eq_iff hq]
  by_cases hempty : q.text = []
  · rw [hempty]
    cases hn : v.nests w.isReceiver with
    | false =>
      have hlook := isBlank_iff_of_shallow w hv hn s m
      rw [hlook]
      exact (and_iff_left fun _ => rfl).symm
    | true =>
      constructor
      · rintro ⟨hrender, -⟩
        exact absurd hrender (render_ne_nil_of_nests w hn s [] m)
      · rintro ⟨-, hshallow⟩
        cases hshallow rfl
  · have hlook := isBlank_iff_of_text w hv hempty s m
    rw [hlook]
    exact (and_iff_left fun h => absurd h hempty).symm

/-- **A field with a name**, and a value that would give nothing in it: the look decides whether it
    is opened. -/
theorem Scene.putField_of_opened {q : Query} (hq : q.buffer.Sound) (w : Surroundings) {v : Value}
    (hv : v.streamless = true) {name : Text} (hname : Text.isBlank name = false) (m : Modifier)
    (factor : Option Number) (shelf : Shelf)
    (hnothing : ((q.openField name m).write m.nested (v.term w shelf).1).text
      = (q.openField name m).text) :
    let s : Scene := ⟨q, (v.settled shelf).2⟩
    let q' := (s.putField w (some name) (v.settled shelf).1 m factor).query
    (v.hides (w.when q.text) = false → q' = q.skipped) ∧
      (v.hides (w.when q.text) = true →
        q'.text = q.text ++ renderField m name [] factor ∧ q'.openFields = q.openFields ∧
          q'.succeeded = true) := by
  intro s q'
  obtain ⟨hr, hrender⟩ := Value.render_of_opened hq w hv name m m.nested shelf hnothing
  have hlook := Value.isBlank_iff w q.text hv hr shelf m.nested
  have hsettled := Value.isBlank_settled hv (w.when q.text) shelf
  refine ⟨fun hhides => ?_, fun hhides => ?_⟩
  · refine query_putField_of_blank ?_ (some name) m factor
    show ((v.settled shelf).1.isBlank (w.when q.text) (v.settled shelf).2).1 = true
    rw [hsettled]
    exact hlook.mpr ⟨hrender, hhides⟩
  · -- The look finds the hidden query, so the field is opened, and nothing is written into it.
    have hblank : (v.isBlank (w.when q.text) shelf).1 = false := by
      cases hb : (v.isBlank (w.when q.text) shelf).1 with
      | false => rfl
      | true => rw [(hlook.mp hb).2] at hhides; cases hhides
    have htext : q'.text = q.text ++ renderField m name [] factor := by
      rw [← hrender]
      exact Call.text_putField (w := w) (s := ⟨q, shelf⟩) hq hv hr hname hblank m factor
    obtain ⟨t, ht⟩ := Call.wrote_putField (s := s) hq w (some name) (v.settled shelf).1 m factor
    have hadded : t = renderField m name [] factor :=
      List.append_cancel_left (ht.text.symm.trans htext)
    refine ⟨htext, s.openFields_putField w (some name) _ m factor, ?_⟩
    rw [ht.succeeded, hadded]
    simpa using Query.renderField_ne_nil m name [] factor

/-- **A field is not opened for nothing.**  In every state, for a value without streams: if the
    value gives nothing in the field that would be opened for it, the call returns; the field is
    skipped, unless a query whose text is made of blanks stands in the value, for which it is written
    around an empty phrase.  And a dispatch of a value without such a query adds nothing exactly if
    the value is blank; only the receiver itself, while it is empty, must not stand in a group of a
    group. -/
theorem Query.Reached.skips_fields {q : Query} (hq : q.Reached) (w : Surroundings) (shelf : Shelf)
    {v : Value} (hv : v.streamless = true) :
    (∀ name M factor allMembers m, Boost.checkGiven factor = .ok () →
      ModifierArg.resolveField q.modifier v.isGroup allMembers M = .ok m →
      let opened := q.startField name m
      (opened.write m.nested (v.term w shelf).1).text = opened.text →
      let r := (Call.field name v M factor allMembers).run w ⟨q, shelf⟩
      r.1 = .ok () ∧
        (Text.isMissing name = true ∨ v.hides (w.when q.text) = false → r.2.query = q.skipped) ∧
        (Text.isMissing name = false → v.hides (w.when q.text) = true →
          r.2.query.text = q.text ++ renderField m (name.getD []) [] factor ∧
            r.2.query.openFields = q.openFields ∧ r.2.query.succeeded = true)) ∧
    ∀ m, ((q.write m (v.term w shelf).1).text = q.text ∧ v.hides (w.when q.text) = false ↔
      (v.isBlank (w.when q.text) shelf).1 = true ∧
        (q.text = [] → v.nests w.isReceiver = false)) := by
  refine ⟨?_, fun m => Value.text_write_eq_iff_isBlank hq.sound w hv shelf m⟩
  intro name M factor allMembers m hfactor hm opened hnothing r
  let settled : Scene := ⟨q, (v.settled shelf).2⟩
  have hrun : r = (.ok (), settled.putField w name (v.settled shelf).1 m factor) := by
    show (Call.field name v M factor allMembers).run w ⟨q, shelf⟩ = _
    rw [run_field, hfactor, hm]
    rfl
  rw [hrun]
  cases hname : Text.isMissing name with
  | true =>
    have hskipped := Scene.query_putField_of_missing (w := w) (s := settled) hname
      (v.settled shelf).1 m factor
    exact ⟨rfl, fun _ => hskipped, fun h => absurd h Bool.noConfusion⟩
  | false =>
    obtain ⟨name, rfl⟩ : ∃ t, name = some t := by
      cases name with
      | none => cases hname
      | some t => exact ⟨t, rfl⟩
    have hnamed : Text.isBlank name = false := hname
    have hopen : opened = q.openField name m := by
      simp [opened, Query.startField, hnamed]
    rw [hopen] at hnothing
    obtain ⟨hskipped, hwritten⟩ :=
      Scene.putField_of_opened hq.sound w hv hnamed m factor shelf hnothing
    refine ⟨rfl, ?_, fun _ hhides => hwritten hhides⟩
    rintro (hmissing | hhides)
    · cases hmissing
    · exact hskipped hhides

/-- A group of nothing but a blank text, an empty group and an empty query, and a group that holds a
    query with a blank for a text. -/
theorem Query.Reached.skips_fields_groups :
    let w : Surroundings :=
      ⟨⟨fun h => if h = .query 1 then [' '] else [], fun _ => {}⟩, (· == .query 0)⟩
    let q := Query.new none ['a', ' ']
    let nothing := Value.group .list [.text [' '], .group .tuple [], .query (.query 2)]
    let veiled := Value.group .list [.query (.query 1)]
    ((Call.field (some ['f']) nothing .absent none none).run w ⟨q, []⟩).2.query = q.skipped ∧
      ((Call.field (some ['f']) veiled .absent none none).run w ⟨q, []⟩).2.query.text
        = "a f:(\"\") ".toList ∧
      (nothing.isBlank (w.when q.text) []).1 = true := by
  intro w q nothing veiled
  have hq : q.Reached := ⟨none, ['a', ' '], [], rfl⟩
  have hskipped := hq.skips_fields w [] (v := nothing) (by decide +kernel)
  have hwritten := hq.skips_fields w [] (v := veiled) (by decide +kernel)
  refine ⟨?_, ?_, ?_⟩
  · exact (hskipped.1 (some ['f']) .absent none none {} rfl rfl (by decide +kernel)).2.1
      (.inr (by decide +kernel))
  · exact ((hwritten.1 (some ['f']) .absent none none {} rfl rfl (by decide +kernel)).2.2
      (by decide +kernel) (by decide +kernel)).1
  · exact ((hskipped.2 {}).mp ⟨by decide +kernel, by decide +kernel⟩).1

/-- A group of one query whose text is a blank: it gives nothing, and the field is opened all the
    same.  And an empty query that stands two groups deep in its own value: the value is blank, and
    is written all the same. -/
theorem Query.field_around_blank_query :
    let w : Surroundings :=
      ⟨⟨fun h => if h = .query 1 then [' '] else [], fun _ => {}⟩, (· == .query 0)⟩
    let q := Query.new none []
    let v := Value.group .list [.query (.query 1)]
    let r := (Call.field (some ['f']) v .absent none none).run w ⟨q, []⟩
    let opened := q.startField (some ['f']) {}
    let own := Value.group .list [.group .list [.query (.query 0)]]
    (opened.write (Modifier.nested {}) (v.term w []).1).text = opened.text ∧
      (q.write {} (v.term w []).1).text = [] ∧ (v.isBlank (w.when q.text) []).1 = false ∧
      r.2.query.text = "f:(\"\") ".toList ∧ r.2.query.succeeded = true ∧
      (own.isBlank (w.when q.text) []).1 = true ∧
      (q.write {} (own.term w []).1).text = "(+(+((+() ) ) ".toList := by
  decide +kernel

end SearchQuery
