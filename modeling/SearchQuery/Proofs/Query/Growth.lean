/-
  What a writer adds to a query.

  The writers work on a buffer and take back what turns out to be too much.  Seen from outside each
  of them only adds a text behind the old one, and that text can be said without a buffer:

  1. **Growth** — `q.Grew t q'`: the text of `q'` is that of `q` with `t` behind it.  `q.Wrote t q'`
     says moreover that `q'` reports a success exactly when `t` is not empty.
  2. **Literals and embedded texts** — one statement for each writer, beside its rendering.
  3. **Groups (`wrote_write`)** — the opening of a group is written before its members are, and
     taken back when the buffer has not grown since.  As growth is the rendering of the members, the
     comparison of the two lengths asks whether that rendering is empty.
  4. **Frame (`sameFrame_write`)** — no writer touches the default modifier or the open fields; what
     a field opens it closes (`sameFrame_writeField`).
  5. **Fields, ranges, boosts and raw texts** — the other ways of adding something.  A field that is
     written in one go (`wrote_writeField`) shows an empty phrase exactly when its value gives
     nothing: whatever a term gives ends in a blank, so only the opening can end in a parenthesis.
-/
import SearchQuery.Proofs.Query.Buffer
import SearchQuery.Query.Boost
import SearchQuery.Query.Range
import SearchQuery.Query.Render
import SearchQuery.Query.Scope
import SearchQuery.Query.Unescaped
import SearchQuery.Query.Write

namespace SearchQuery

/-! ## Growth -/

/-- `q'` is `q` with `t` behind its text. -/
structure Query.Grew (q : Query) (t : Text) (q' : Query) : Prop where
  text : q'.text = q.text ++ t
  sound : q'.buffer.Sound

/-- `q'` is `q` with `t` behind its text, and reports whether there was anything to add. -/
structure Query.Wrote (q : Query) (t : Text) (q' : Query) : Prop extends Query.Grew q t q' where
  succeeded : q'.succeeded = !t.isEmpty

namespace Query

variable {q q' q'' : Query} {t u : Text}

theorem Grew.refl (hq : q.buffer.Sound) : q.Grew [] q := ⟨(List.append_nil _).symm, hq⟩

theorem Grew.trans (h : q.Grew t q') (h' : q'.Grew u q'') : q.Grew (t ++ u) q'' :=
  ⟨by rw [h'.text, h.text, List.append_assoc], h'.sound⟩

theorem grew_append (hq : q.buffer.Sound) (ts : List Text) : q.Grew ts.flatten (q.append ts) :=
  ⟨text_append q ts, hq.append ts⟩

theorem wrote_skipped (hq : q.buffer.Sound) : q.Wrote [] q.skipped :=
  ⟨⟨(List.append_nil _).symm, hq⟩, rfl⟩

theorem Grew.wrote (h : q.Grew t q') (ht : t ≠ []) (hs : q'.succeeded = true) : q.Wrote t q' :=
  ⟨h, by simp [hs, ht]⟩

theorem Grew.done (h : q.Grew t q') (ht : t ≠ []) : q.Wrote t q'.done :=
  Grew.wrote ⟨h.text, h.sound⟩ ht rfl

/-! ## Literals and embedded texts -/

theorem wrote_writeWhole (hq : q.buffer.Sound) (v : Text) (m : Modifier) :
    q.Wrote (renderWhole m v) (q.writeWhole v m) := by
  unfold writeWhole renderWhole
  by_cases hv : Text.isBlank v = true
  · rw [if_pos hv, if_pos hv]; exact wrote_skipped hq
  · rw [if_neg hv, if_neg hv]
    have h := grew_append hq [m.mark, ['('], m.body v, [')', ' ']]
    simpa using h.done (by simp)

/-- Literals written one after the other. -/
theorem grew_foldl_writeWhole (m : Modifier) (vs : List Text) (hq : q.buffer.Sound) :
    q.Grew (vs.flatMap (renderWhole m)) (vs.foldl (fun q v => q.writeWhole v m) q) := by
  induction vs generalizing q with
  | nil => exact Grew.refl hq
  | cons v vs ih =>
    have h := (wrote_writeWhole hq v m).toGrew
    exact h.trans (ih h.sound)

theorem grew_writeTokens (hq : q.buffer.Sound) (v : Text) (m : Modifier) :
    q.Grew (renderTokens m v) (q.writeTokens v m) := by
  have hopened := grew_append hq [[' ', '(']]
  have hwritten := hopened.trans
    (grew_foldl_writeWhole m.token (Text.pieces ' ' v) hopened.sound)
  have hclosed := hwritten.trans (grew_append hwritten.sound [[')', '^', '0', '.', '5']])
  simpa [renderTokens, writeTokens] using hclosed

theorem wrote_writeLiteral (hq : q.buffer.Sound) (v : Text) (m : Modifier) :
    q.Wrote (renderLiteral m v) (q.writeLiteral v m) := by
  unfold writeLiteral renderLiteral
  by_cases hv : Text.isBlank v = true
  · rw [if_pos hv, if_pos hv]; exact wrote_skipped hq
  · rw [if_neg hv, if_neg hv]
    have hlead := grew_append hq [m.mark, ['('], m.body v]
    by_cases hs : m.splits v = true
    · have htokens := hlead.trans (grew_writeTokens hlead.sound v m)
      have h := htokens.trans (grew_append htokens.sound [[')', ' ']])
      simpa [hs] using h.done (by simp)
    · have h := hlead.trans (grew_append hlead.sound [[')', ' ']])
      simpa [hs] using h.done (by simp)

theorem wrote_writeEmbedded (hq : q.buffer.Sound) (t : Text) (m : Modifier) :
    q.Wrote (renderClause m t) (q.writeEmbedded t m) := by
  unfold writeEmbedded renderClause
  by_cases ht : t.isEmpty = true
  · rw [if_pos ht, if_pos ht]; exact wrote_skipped hq
  · rw [if_neg ht, if_neg ht]
    have h := grew_append hq [m.mark, ['('], t, [')', ' ']]
    simpa using h.done (by simp)

/-! ## Groups -/

/-- **Closing a group.**  When the members have added `inner` behind the opening, closing leaves the
    clause around `inner`, or takes the opening back when `inner` is empty. -/
theorem wrote_closeGroup (hq : q.buffer.Sound) (m : Modifier) {inner : Text} {written : Query}
    (h : (q.append [m.mark, ['(']]).Grew inner written) :
    q.Wrote (renderClause m inner)
      (written.closeGroup q.buffer.length (q.append [m.mark, ['(']]).buffer.length) := by
  have hopened := grew_append hq [m.mark, ['(']]
  have hall := hopened.trans h
  have hgrown : written.buffer.length
      = (q.append [m.mark, ['(']]).buffer.length + inner.length := by
    rw [h.sound.length_eq, hopened.sound.length_eq, ← List.length_append]
    exact congrArg List.length h.text
  unfold closeGroup renderClause
  cases inner with
  | nil =>
    -- Nothing was added since the opening, so the buffer is cut where it began.
    have hsame : written.buffer.length = (q.append [m.mark, ['(']]).buffer.length := hgrown
    rw [if_pos hsame, if_pos (show ([] : Text).isEmpty = true from rfl)]
    have htext : written.buffer.text = q.buffer.text ++ [m.mark, ['(']].flatten := by
      have := hall.text
      rwa [List.append_nil] at this
    have hcut : (written.buffer.keep q.buffer.length).text = q.buffer.text := by
      rw [Buffer.text_keep h.sound, htext, hq.length_eq, List.take_left]
    have hle : q.buffer.length ≤ written.buffer.length := by
      rw [h.sound.length_eq, htext, hq.length_eq, List.length_append]; omega
    exact ⟨⟨by rw [List.append_nil]; exact hcut, h.sound.keep hle⟩, rfl⟩
  | cons c inner =>
    have hmore : written.buffer.length ≠ (q.append [m.mark, ['(']]).buffer.length := by
      rw [hgrown, List.length_cons]; omega
    rw [if_neg hmore, if_neg (show ¬ (c :: inner).isEmpty = true from Bool.false_ne_true)]
    have hclosed := hall.trans (grew_append hall.sound [[')', ' ']])
    simpa using hclosed.done (by simp)

/-- Members of which none is kept give nothing. -/
theorem renderMembers_eq_nil {kept : Text} {ts : List Term}
    (h : ts.any (Term.survives kept) = false) (own : Text) (m : Modifier) :
    Term.renderMembers kept own m ts = [] := by
  induction ts generalizing own with
  | nil => rfl
  | cons t ts ih =>
    rw [List.any_cons, Bool.or_eq_false_iff] at h
    simp [Term.renderMembers, h.1, ih h.2]

mutual

/-- **Writing is rendering.**  Whatever is written, and also if it shows the receiver itself, the
    query grows by the rendering of the term. -/
theorem wrote_write : ∀ (t : Term) (q : Query) (m : Modifier), q.buffer.Sound →
    q.Wrote (t.render q.text m) (q.write m t)
  | .absent, q, m, hq => wrote_skipped hq
  | .literal v, q, m, hq => by
    simp only [write, Term.render]
    exact wrote_writeLiteral hq v m
  | .depiction shows, q, m, hq => by
    simp only [write, Term.render]
    exact wrote_writeLiteral hq (shows q.text) m
  | .embedded t, q, m, hq => by
    simp only [write, Term.render]
    exact wrote_writeEmbedded hq t m
  | .receiver, q, m, hq => by
    simp only [write, Term.render]
    exact wrote_writeEmbedded hq q.text m
  | .group members, q, m, hq => by
    simp only [write, Term.render]
    by_cases hkept : members.any (Term.survives q.text) = true
    · rw [if_pos hkept]
      have hopened := grew_append hq [m.mark, ['(']]
      have hmembers := grew_writeMembers members _ q.text m.element hopened.sound
      have htext : (q.append [m.mark, ['(']]).text = q.text ++ m.mark ++ ['('] := by simp
      rw [htext] at hmembers
      exact wrote_closeGroup hq m hmembers
    · rw [if_neg hkept, renderMembers_eq_nil (by simpa using hkept)]
      exact wrote_skipped hq

/-- The members of a group add their renderings one after the other. -/
theorem grew_writeMembers : ∀ (ts : List Term) (q : Query) (kept : Text) (m : Modifier),
    q.buffer.Sound → q.Grew (Term.renderMembers kept q.text m ts) (q.writeMembers kept m ts)
  | [], q, kept, m, hq => Grew.refl hq
  | t :: ts, q, kept, m, hq => by
    simp only [writeMembers, Term.renderMembers]
    by_cases hkept : t.survives kept = true
    · rw [if_pos hkept, if_pos hkept]
      have hfirst := (wrote_write t q m hq).toGrew
      have hrest := grew_writeMembers ts (q.write m t) kept m hfirst.sound
      rw [hfirst.text] at hrest
      exact hfirst.trans hrest
    · rw [if_neg hkept, if_neg hkept]
      simpa using grew_writeMembers ts q kept m hq

end

/-! ## Frame -/

/-- Two queries with the same default modifier and the same open fields. -/
structure SameFrame (q q' : Query) : Prop where
  modifier : q'.modifier = q.modifier
  openFields : q'.openFields = q.openFields

theorem SameFrame.refl (q : Query) : q.SameFrame q := ⟨rfl, rfl⟩

theorem SameFrame.trans (h : q.SameFrame q') (h' : q'.SameFrame q'') : q.SameFrame q'' :=
  ⟨h'.modifier.trans h.modifier, h'.openFields.trans h.openFields⟩

theorem sameFrame_writeWhole (q : Query) (v : Text) (m : Modifier) :
    q.SameFrame (q.writeWhole v m) := by
  unfold writeWhole
  split <;> exact ⟨rfl, rfl⟩

theorem sameFrame_foldl_writeWhole (m : Modifier) (vs : List Text) (q : Query) :
    q.SameFrame (vs.foldl (fun q v => q.writeWhole v m) q) := by
  induction vs generalizing q with
  | nil => exact .refl q
  | cons v vs ih => exact (sameFrame_writeWhole q v m).trans (ih _)

theorem sameFrame_writeLiteral (q : Query) (v : Text) (m : Modifier) :
    q.SameFrame (q.writeLiteral v m) := by
  unfold writeLiteral
  by_cases hv : Text.isBlank v = true
  · rw [if_pos hv]; exact ⟨rfl, rfl⟩
  · rw [if_neg hv]
    by_cases hs : m.splits v = true
    · have h := sameFrame_foldl_writeWhole m.token (Text.pieces ' ' v)
        ((q.append [m.mark, ['('], m.body v]).append [[' ', '(']])
      simp only [hs, if_true]
      exact ⟨h.modifier, h.openFields⟩
    · simp only [hs]
      exact ⟨rfl, rfl⟩

theorem sameFrame_writeEmbedded (q : Query) (t : Text) (m : Modifier) :
    q.SameFrame (q.writeEmbedded t m) := by
  unfold writeEmbedded
  split <;> exact ⟨rfl, rfl⟩

theorem sameFrame_closeGroup (q : Query) (start opened : Nat) :
    q.SameFrame (q.closeGroup start opened) := by
  unfold closeGroup
  split <;> exact ⟨rfl, rfl⟩

mutual

/-- **Writing keeps the frame.** -/
theorem sameFrame_write : ∀ (t : Term) (q : Query) (m : Modifier), q.SameFrame (q.write m t)
  | .absent, q, m => ⟨rfl, rfl⟩
  | .literal v, q, m => by rw [write]; exact sameFrame_writeLiteral q v m
  | .depiction shows, q, m => by rw [write]; exact sameFrame_writeLiteral q _ m
  | .embedded t, q, m => by rw [write]; exact sameFrame_writeEmbedded q t m
  | .receiver, q, m => by rw [write]; exact sameFrame_writeEmbedded q _ m
  | .group members, q, m => by
    rw [write]
    split
    · have hmembers := sameFrame_writeMembers members (q.append [m.mark, ['(']]) q.text m.element
      have hopened : q.SameFrame (q.append [m.mark, ['(']]) := ⟨rfl, rfl⟩
      exact (hopened.trans hmembers).trans (sameFrame_closeGroup _ _ _)
    · exact ⟨rfl, rfl⟩

theorem sameFrame_writeMembers : ∀ (ts : List Term) (q : Query) (kept : Text) (m : Modifier),
    q.SameFrame (q.writeMembers kept m ts)
  | [], q, kept, m => by rw [writeMembers]; exact .refl q
  | t :: ts, q, kept, m => by
    rw [writeMembers]
    split
    · exact (sameFrame_write t q m).trans (sameFrame_writeMembers ts _ kept m)
    · exact sameFrame_writeMembers ts q kept m

end

end Query

/-! ## Fields, ranges, boosts and raw texts -/

/-- What opens a field. -/
def renderOpening (m : Modifier) (name : Text) : Text := m.mark ++ name ++ [':', '(']

/-- What closes a field behind the text `own`. -/
def renderClosing (own : Text) : Text :=
  (if own.getLast? = some '(' then ['"', '"'] else []) ++ [')', ' ']

/-- The weight of a clause; a factor of one is not said. -/
def renderBoost (f : Number) : Text :=
  if f.equal (.int 1) then [] else '^' :: (Boost.cut f).text ++ [' ']

/-- A field around a text; an empty phrase stands for a missing one. -/
def renderField (m : Modifier) (name inner : Text) (factor : Option Number) : Text :=
  renderOpening m name ++ (if inner.isEmpty then ['"', '"'] else inner) ++ [')', ' ']
    ++ (factor.map renderBoost).getD []

/-- A range behind the text `own`. -/
def renderRange (own : Text) (field : Option Text) (start stop : Bound) (m : Modifier) : Text :=
  let lead := (Query.rangeLead field m).flatten
  let star : Text := if m.wildcarded then ['*'] else []
  lead ++ ['['] ++ Text.escapeAll (start.textIn (own ++ lead)) ++ star ++ [' ', 'T', 'O', ' ']
    ++ Text.escapeAll (stop.textIn (own ++ lead)) ++ star ++ [']', ' ']

/-- Text as it is, in a field if a name is given. -/
def renderUnescaped (field text : Option Text) (mandatory : Bool) : Text :=
  match text with
  | none | some [] => []
  | some t =>
    let mark : Text := if mandatory then ['+'] else []
    match field with
    | none => mark ++ t ++ [' ']
    | some name => mark ++ name ++ [':', '('] ++ t ++ [')', ' ']

/-- Writes a term as a field of its own, with a boost if one is given. -/
def Query.writeField (q : Query) (name : Text) (m : Modifier) (t : Term)
    (factor : Option Number) : Query :=
  let written := ((q.openField name m).write m.nested t).closeField q.openFields
  match factor with
  | none => written
  | some f => written.writeBoost f

namespace Query

variable {q : Query}

theorem wrote_openField (hq : q.buffer.Sound) (name : Text) (m : Modifier) :
    q.Wrote (renderOpening m name) (q.openField name m) := by
  have h := grew_append hq [m.mark, name, [':', '(']]
  have hne : [m.mark, name, [':', '(']].flatten ≠ [] := by simp
  have hw := h.done hne
  have ht : [m.mark, name, [':', '(']].flatten = renderOpening m name := by simp [renderOpening]
  rw [ht] at hw
  exact ⟨⟨hw.text, hw.sound⟩, hw.succeeded⟩

theorem wrote_closeField (hq : q.buffer.Sound) (fields : List Text) :
    q.Wrote (renderClosing q.text) (q.closeField fields) := by
  unfold closeField renderClosing
  have hlast : q.buffer.lastChar? = q.text.getLast? := Buffer.lastChar?_eq q.buffer
  have hpopped : Grew q [] { q with openFields := fields } := ⟨(List.append_nil _).symm, hq⟩
  by_cases hopen : q.text.getLast? = some '('
  · have h := hpopped.trans (grew_append hpopped.sound [['"', '"']])
    have hclosed := h.trans (grew_append h.sound [[')', ' ']])
    simpa [hlast, hopen] using hclosed.done (by simp)
  · have h := hpopped.trans (grew_append hpopped.sound [[')', ' ']])
    simpa [hlast, hopen] using h.done (by simp)

theorem wrote_startField (hq : q.buffer.Sound) (name : Option Text) (m : Modifier) :
    q.Wrote (if Text.isMissing name then [] else renderOpening m (name.getD []))
      (q.startField name m) := by
  cases name with
  | none => exact wrote_skipped hq
  | some name =>
    by_cases hname : Text.isBlank name = true
    · simpa [startField, Text.isMissing, hname] using wrote_skipped hq
    · simpa [startField, Text.isMissing, hname] using wrote_openField hq name m

theorem wrote_writeRange (hq : q.buffer.Sound) (field : Option Text) (start stop : Bound)
    (m : Modifier) :
    q.Wrote (renderRange q.text field start stop m) (q.writeRange field start stop m) := by
  have hlead := grew_append hq (rangeLead field m)
  have hclause := hlead.trans (grew_append hlead.sound
    [['['], Text.escapeAll (start.textIn (q.append (rangeLead field m)).text),
      if m.wildcarded then ['*'] else [], [' ', 'T', 'O', ' '],
      Text.escapeAll (stop.textIn (q.append (rangeLead field m)).text),
      if m.wildcarded then ['*'] else [], [']', ' ']])
  simpa [renderRange, writeRange] using hclause.done (by simp)

theorem grew_writeBoost (hq : q.buffer.Sound) (f : Number) :
    q.Grew (if q.succeeded then renderBoost f else []) (q.writeBoost f) := by
  unfold writeBoost renderBoost
  by_cases hone : f.equal (.int 1) = true
  · simpa [hone] using Grew.refl hq
  · cases hs : q.succeeded with
    | false => simpa using Grew.refl hq
    | true => simpa [hone] using grew_append hq [['^'], (Boost.cut f).text, [' ']]

@[simp] theorem succeeded_writeBoost (q : Query) (f : Number) :
    (q.writeBoost f).succeeded = q.succeeded := by
  unfold writeBoost
  split <;> rfl

theorem wrote_writeUnescaped (hq : q.buffer.Sound) (field text : Option Text) (mandatory : Bool) :
    q.Wrote (renderUnescaped field text mandatory) (q.writeUnescaped field text mandatory) := by
  rcases text with _ | _ | ⟨c, t⟩
  · exact wrote_skipped hq
  · exact wrote_skipped hq
  · cases field with
    | none =>
      have h := grew_append hq [if mandatory then ['+'] else [], c :: t, [' ']]
      simpa [renderUnescaped, writeUnescaped] using h.done (by simp)
    | some name =>
      have h := grew_append hq
        [if mandatory then ['+'] else [], name, [':', '('], c :: t, [')', ' ']]
      simpa [renderUnescaped, writeUnescaped] using h.done (by simp)

theorem getLast?_closed (t : Text) : (t ++ [')', ' ']).getLast? = some ' ' := by
  rw [List.getLast?_append]; rfl

theorem getLast?_renderLiteral {m : Modifier} {v : Text} (h : renderLiteral m v ≠ []) :
    (renderLiteral m v).getLast? = some ' ' := by
  unfold renderLiteral at h ⊢
  by_cases hv : Text.isBlank v = true
  · rw [if_pos hv] at h; exact absurd rfl h
  · rw [if_neg hv]; exact getLast?_closed _

theorem getLast?_renderClause {m : Modifier} {t : Text} (h : renderClause m t ≠ []) :
    (renderClause m t).getLast? = some ' ' := by
  unfold renderClause at h ⊢
  by_cases ht : t.isEmpty = true
  · rw [if_pos ht] at h; exact absurd rfl h
  · rw [if_neg ht]; exact getLast?_closed _

/-- Whatever a term gives, if it gives anything, ends in a blank. -/
theorem getLast?_render {own : Text} {m : Modifier} {t : Term} (h : t.render own m ≠ []) :
    (t.render own m).getLast? = some ' ' := by
  cases t with
  | absent => exact absurd (by simp [Term.render]) h
  | literal v => simp only [Term.render] at h ⊢; exact getLast?_renderLiteral h
  | depiction shows => simp only [Term.render] at h ⊢; exact getLast?_renderLiteral h
  | embedded t => simp only [Term.render] at h ⊢; exact getLast?_renderClause h
  | receiver => simp only [Term.render] at h ⊢; exact getLast?_renderClause h
  | group members => simp only [Term.render] at h ⊢; exact getLast?_renderClause h

/-- Closing a field behind its value: only a value that gave nothing leaves the opening bare. -/
theorem renderClosing_of_opened {own inner : Text} (m : Modifier) (name : Text)
    (hinner : inner ≠ [] → inner.getLast? = some ' ') :
    inner ++ renderClosing (own ++ renderOpening m name ++ inner)
      = (if inner.isEmpty then ['"', '"'] else inner) ++ [')', ' '] := by
  unfold renderClosing
  cases inner with
  | nil => simp [renderOpening, List.getLast?_append]
  | cons c inner =>
    have hlast : (own ++ renderOpening m name ++ c :: inner).getLast? = some ' ' := by
      rw [List.getLast?_append, hinner (List.cons_ne_nil c inner)]; rfl
    rw [hlast, if_neg (by decide), if_neg (by simp), List.nil_append]

theorem renderField_ne_nil (m : Modifier) (name inner : Text) (factor : Option Number) :
    renderField m name inner factor ≠ [] := by
  simp [renderField, renderOpening]

/-- **A field written in one go** is the field around the rendering of its value. -/
theorem wrote_writeField (hq : q.buffer.Sound) (name : Text) (m : Modifier) (t : Term)
    (factor : Option Number) :
    q.Wrote (renderField m name (t.render (q.text ++ renderOpening m name) m.nested) factor)
      (q.writeField name m t factor) := by
  have hopened := wrote_openField hq name m
  have hinner := wrote_write t (q.openField name m) m.nested hopened.sound
  rw [hopened.text] at hinner
  have hall := hopened.toGrew.trans hinner.toGrew
  have hclosed := wrote_closeField hall.sound q.openFields
  have hfield := hall.trans hclosed.toGrew
  have hdone := hclosed.succeeded
  rw [hall.text, ← List.append_assoc] at hfield hdone
  rw [List.append_assoc, renderClosing_of_opened m name (fun h => getLast?_render h)] at hfield
  have hsucceeded : (((q.openField name m).write m.nested t).closeField q.openFields).succeeded
      = true := by
    rw [hdone]; simp [renderClosing]
  refine Grew.wrote ?_ (renderField_ne_nil m name _ factor) ?_
  · cases factor with
    | none => simpa [renderField, writeField] using hfield
    | some f =>
      have hboost := hfield.trans (grew_writeBoost hfield.sound f)
      rw [hsucceeded, if_pos rfl] at hboost
      simpa [renderField, writeField] using hboost
  · cases factor with
    | none => exact hsucceeded
    | some f => rw [writeField, succeeded_writeBoost]; exact hsucceeded

/-! ## Frame of the others -/

@[simp] theorem openFields_closeField (q : Query) (fields : List Text) :
    (q.closeField fields).openFields = fields := by
  unfold closeField
  dsimp only
  split <;> rfl

@[simp] theorem modifier_closeField (q : Query) (fields : List Text) :
    (q.closeField fields).modifier = q.modifier := by
  unfold closeField
  dsimp only
  split <;> rfl

theorem sameFrame_writeBoost (q : Query) (f : Number) : q.SameFrame (q.writeBoost f) := by
  unfold writeBoost
  split <;> exact ⟨rfl, rfl⟩

/-- What is opened for a field is closed again behind its value. -/
theorem sameFrame_writeField (q : Query) (name : Text) (m : Modifier) (t : Term)
    (factor : Option Number) : q.SameFrame (q.writeField name m t factor) := by
  have hwritten := sameFrame_write t (q.openField name m) m.nested
  have hclosed : q.SameFrame
      (((q.openField name m).write m.nested t).closeField q.openFields) := by
    refine ⟨?_, openFields_closeField _ _⟩
    rw [modifier_closeField]
    exact hwritten.modifier
  cases factor with
  | none => exact hclosed
  | some f => exact hclosed.trans (sameFrame_writeBoost _ f)

theorem sameFrame_writeUnescaped (q : Query) (field text : Option Text) (mandatory : Bool) :
    q.SameFrame (q.writeUnescaped field text mandatory) := by
  unfold writeUnescaped
  split
  · exact ⟨rfl, rfl⟩
  · exact ⟨rfl, rfl⟩
  · cases field <;> exact ⟨rfl, rfl⟩

end Query
end SearchQuery
