/-
  The parentheses of a query match.

  A caller may put quotes, backslashes and parentheses into every value.  Still the text of a query
  is in order after each attempt at a call: a scan of it never falls below depth zero and ends outside
  of phrases, at the depth that the open fields make and the groups that calls broke off in
  (`Query.InOrder`).

  1. **Clauses** — whatever the values are, a clause is balanced: marks, names and numbers hold
     nothing that the scan would stop at, literals are escaped, and the rest stands in parentheses.
  2. **Fields** — opening a field by hand takes the scan one deeper, closing it takes it back.
  3. **One call (`InOrder.run`, `InOrder.break`)** — a call adds a balanced text, an opening or a
     closing, as long as what it passes on unescaped is in order itself (`Call.Tame`).  If it breaks
     off, the groups that it opened stay open, and so does its field.
  4. **Runs (`run_matched`)** — by induction on the run, from the single attempt.
-/
import SearchQuery.Proofs.Number.Alphabet
import SearchQuery.Proofs.Query.Attempt
import SearchQuery.Proofs.Text.Balance

namespace SearchQuery

open Text (Balanced Bland)

/-! ## Marks, names and numbers -/

/-- A name in which no character is special and none is a double quote. -/
def Text.Unmarked (name : Text) : Prop := ∀ c ∈ name, isSpecial c = false ∧ isQuote c = false

namespace Text

theorem Bland.append {t u : Text} (ht : t.Bland) (hu : u.Bland) : Bland (t ++ u) := by
  intro c hc
  rcases List.mem_append.mp hc with hc | hc
  · exact ht c hc
  · exact hu c hc

theorem Unmarked.bland {name : Text} (h : name.Unmarked) : name.Bland := by
  intro c hc hmark
  have hall : List.all ['\\', '"', '(', ')'] (fun d => isSpecial d || isQuote d) = true := by decide
  have hnone := List.all_eq_true.mp hall c hmark
  rw [(h c hc).1, (h c hc).2] at hnone
  exact Bool.noConfusion hnone

/-- What stands in front of a field. -/
theorem bland_lead {lead name : Text} (hlead : lead.Bland) (hname : name.Unmarked) :
    Bland (lead ++ name ++ [':']) := by
  have hcolon : Bland [':'] := by decide
  exact (hlead.append hname.bland).append hcolon

/-- Nothing in the text of a number is read as a mark. -/
theorem bland_of_alphabet {t : Text} (h : ∀ c ∈ t, c ∈ Number.alphabet) : t.Bland := by
  have hall : Number.alphabet.Bland := by decide
  intro c hc
  exact hall c (h c hc)

end Text

theorem Modifier.bland_mark (m : Modifier) : m.mark.Bland := by
  obtain ⟨occurrence, _, _, _, _⟩ := m
  show occurrence.mark.Bland
  cases occurrence <;> decide

theorem Modifier.balanced_mark (m : Modifier) : m.mark.Balanced :=
  Text.balanced_of_bland m.bland_mark

/-! ## Clauses -/

theorem Modifier.balanced_alternative (m : Modifier) (v : Text) :
    ∀ a ∈ m.alternatives v, a.Balanced := by
  have hword := Text.balanced_escapeAll v
  have hphrase : (phrase v ++ ['^', '2']).Balanced :=
    (Text.balanced_phrase v).append (Text.balanced_of_bland (by decide))
  have hstart : (Text.escapeAll v ++ ['*']).Balanced :=
    hword.append (Text.balanced_of_bland (by decide))
  have hfuzzy : ∀ f : Number, (Text.escapeAll v ++ '~' :: f.text).Balanced := by
    intro f
    have htilde : Bland ['~'] := by decide
    exact hword.append
      (Text.balanced_of_bland (htilde.append (Text.bland_of_alphabet f.forall_mem_text)))
  intro a ha
  rw [alternatives_eq] at ha
  split at ha <;> simp only [List.mem_cons, List.not_mem_nil, or_false] at ha
  · rw [ha]; exact hword
  · rw [ha]; exact hfuzzy _
  · rcases ha with rfl | rfl
    · exact hphrase
    · exact hstart
  · rcases ha with rfl | rfl | rfl
    · exact hphrase
    · exact hstart
    · exact hfuzzy _

theorem Modifier.balanced_body (m : Modifier) (v : Text) : (m.body v).Balanced :=
  Text.balanced_join (Text.balanced_of_bland (by decide))
    (m.balanced_alternative v)

/-- A clause around a balanced text is balanced. -/
theorem balanced_clause (m : Modifier) {t : Text} (ht : t.Balanced) :
    Balanced (m.mark ++ ['('] ++ t ++ [')', ' ']) := by
  have h := (m.balanced_mark.append ht.enclose).append Text.balanced_blank
  simpa using h

theorem balanced_renderWhole (m : Modifier) (v : Text) : (renderWhole m v).Balanced :=
  Text.balanced_ite Text.balanced_nil (balanced_clause m (m.balanced_body v))

theorem balanced_renderTokens (m : Modifier) (v : Text) : (renderTokens m v).Balanced := by
  have hinner : Balanced ((Text.pieces ' ' v).flatMap (renderWhole m.token)) :=
    Text.balanced_flatMap fun t _ => balanced_renderWhole m.token t
  have hweight : Balanced ['^', '0', '.', '5'] :=
    Text.balanced_of_bland (by decide)
  have h := (Text.balanced_blank.append hinner.enclose).append hweight
  simpa [renderTokens] using h

/-- **A literal** is balanced, whatever characters are in it. -/
theorem balanced_renderLiteral (m : Modifier) (v : Text) : (renderLiteral m v).Balanced := by
  have htokens : Balanced (if m.splits v then renderTokens m v else []) :=
    Text.balanced_ite (balanced_renderTokens m v) Text.balanced_nil
  have hclause := balanced_clause m ((m.balanced_body v).append htokens)
  refine Text.balanced_ite Text.balanced_nil ?_
  simpa using hclause

theorem balanced_renderClause (m : Modifier) {t : Text} (ht : t.Balanced) :
    (renderClause m t).Balanced :=
  Text.balanced_ite Text.balanced_nil (balanced_clause m ht)

namespace Term

mutual

/-- **A term** is balanced, if the texts embedded in it are and it embeds no unfinished one. -/
theorem balanced_render : ∀ (t : Term) (own : Text) (m : Modifier), t.Apart Balanced →
    (t.render own m).Balanced
  | .absent, own, m, _ => by rw [render]; exact Text.balanced_nil
  | .literal v, own, m, _ => by rw [render]; exact balanced_renderLiteral m v
  | .depiction shows, own, m, _ => by rw [render]; exact balanced_renderLiteral m (shows own)
  | .embedded t, own, m, ht => by rw [render]; exact balanced_renderClause m ht
  | .receiver, own, m, ht => ht.elim
  | .group members, own, m, ht => by
    rw [render]
    exact balanced_renderClause m (balanced_renderMembers members own _ m.element ht)

theorem balanced_renderMembers : ∀ (ts : List Term) (kept own : Text) (m : Modifier),
    AllApart Balanced ts → (renderMembers kept own m ts).Balanced
  | [], kept, own, m, _ => by rw [renderMembers]; exact Text.balanced_nil
  | t :: ts, kept, own, m, ⟨ht, hts⟩ => by
    have hclause : Balanced (if t.survives kept then t.render own m else []) :=
      Text.balanced_ite (balanced_render t own m ht) Text.balanced_nil
    rw [renderMembers]
    exact hclause.append (balanced_renderMembers ts kept _ m hts)

end

end Term

/-- The lead of a range: a mark and a name. -/
theorem balanced_rangeLead (m : Modifier) {field : Option Text}
    (hname : ∀ name, field = some name → name.Unmarked) :
    Balanced (Query.rangeLead field m).flatten := by
  cases field with
  | none => simpa [Query.rangeLead] using m.balanced_mark
  | some name =>
    by_cases hempty : name.isEmpty = true
    · simpa [Query.rangeLead, hempty] using m.balanced_mark
    · have h := Text.balanced_of_bland (Text.bland_lead m.bland_mark (hname name rfl))
      simpa [Query.rangeLead, hempty] using h

/-- **A range** is balanced, whatever its bounds are. -/
theorem balanced_renderRange (own : Text) {field : Option Text} (start stop : Bound) (m : Modifier)
    (hname : ∀ name, field = some name → name.Unmarked) :
    (renderRange own field start stop m).Balanced := by
  have hstar : Balanced (if m.wildcarded then ['*'] else []) :=
    Text.balanced_ite (Text.balanced_of_bland (by decide)) Text.balanced_nil
  have hopen : Balanced ['['] := Text.balanced_of_bland (by decide)
  have hto : Balanced [' ', 'T', 'O', ' '] :=
    Text.balanced_of_bland (by decide)
  have hclose : Balanced [']', ' '] := Text.balanced_of_bland (by decide)
  have hlead := (balanced_rangeLead m hname).append hopen
  have hbound : ∀ v, Balanced (Text.escapeAll v ++ if m.wildcarded then ['*'] else []) :=
    fun v => (Text.balanced_escapeAll v).append hstar
  have hboth := ((hbound (start.textIn (own ++ (Query.rangeLead field m).flatten))).append
    hto).append (hbound (stop.textIn (own ++ (Query.rangeLead field m).flatten)))
  simpa [renderRange] using (hlead.append hboth).append hclose

theorem balanced_renderBoost (f : Number) : (renderBoost f).Balanced := by
  have hhat : Bland ['^'] := by decide
  have hblank : Bland [' '] := by decide
  have hcut := Text.bland_of_alphabet (Boost.cut f).forall_mem_text
  exact Text.balanced_ite Text.balanced_nil
    (Text.balanced_of_bland ((hhat.append hcut).append hblank))

/-- A name with a balanced text in parentheses behind it. -/
theorem balanced_named {lead name t : Text} (hlead : lead.Bland) (hname : name.Unmarked)
    (ht : t.Balanced) : (lead ++ name ++ [':', '('] ++ t ++ [')', ' ']).Balanced := by
  have hfront := Text.balanced_of_bland (Text.bland_lead hlead hname)
  have h := (hfront.append ht.enclose).append Text.balanced_blank
  simpa using h

theorem balanced_emptyPhrase : Balanced ['"', '"'] := Text.balanced_phrase []

/-- **A field** is balanced when its value is. -/
theorem balanced_renderField (m : Modifier) {name inner : Text} (factor : Option Number)
    (hname : name.Unmarked) (hinner : inner.Balanced) :
    (renderField m name inner factor).Balanced := by
  have hvalue : Balanced (if inner.isEmpty then ['"', '"'] else inner) :=
    Text.balanced_ite balanced_emptyPhrase hinner
  have hboost : ((factor.map renderBoost).getD []).Balanced := by
    cases factor with
    | none => exact Text.balanced_nil
    | some f => exact balanced_renderBoost f
  have h := (balanced_named m.bland_mark hname hvalue).append hboost
  simpa [renderField, renderOpening] using h

/-- **A text that is written as it is** is balanced when it comes so. -/
theorem balanced_renderUnescaped {field text : Option Text} (mandatory : Bool)
    (hname : ∀ name, field = some name → name.Unmarked) (htext : ∀ t, text = some t → t.Balanced) :
    (renderUnescaped field text mandatory).Balanced := by
  have hmark : (if mandatory then ['+'] else [] : Text).Bland := by
    split <;> decide
  rcases text with _ | _ | ⟨c, t⟩
  · exact Text.balanced_nil
  · exact Text.balanced_nil
  · have ht := htext _ rfl
    cases field with
    | none => exact ((Text.balanced_of_bland hmark).append ht).append Text.balanced_blank
    | some name => exact balanced_named hmark (hname name rfl) ht

/-! ## Fields that are opened and closed by hand -/

/-- Behind an opening the scan is one deeper. -/
theorem passes_renderOpening (m : Modifier) {name : Text} (hname : name.Unmarked) (d : Int) :
    (Scan.outside d).Passes (renderOpening m name) (Scan.outside (d + 1)) d := by
  have hfront := Text.balanced_of_bland (Text.bland_lead m.bland_mark hname)
  have hopen : (Scan.outside d).Passes ['('] (Scan.outside (d + 1)) d :=
    .cons (Int.le_refl d) (Scan.passes_nil (show d ≤ d + 1 by omega))
  simpa [renderOpening] using (hfront.passes d).append hopen

/-- Behind a closing the scan is back. -/
theorem passes_renderClosing (own : Text) (d : Int) :
    (Scan.outside (d + 1)).Passes (renderClosing own) (Scan.outside d) d := by
  have hphrase : Balanced (if own.getLast? = some '(' then ['"', '"'] else []) :=
    Text.balanced_ite balanced_emptyPhrase Text.balanced_nil
  have hstep : (Scan.outside (d + 1)).step ')' = Scan.outside d := by
    show Scan.outside (d + 1 - 1) = Scan.outside d
    rw [Int.add_sub_cancel]
  -- The phrase that stands for a missing value is passed inside of the field, at the upper depth.
  have hclose : (Scan.outside (d + 1)).Passes [')', ' '] (Scan.outside d) d := by
    refine .cons (show d ≤ d + 1 by omega) ?_
    rw [hstep]
    exact .cons (Int.le_refl d) (Scan.passes_nil (Int.le_refl d))
  exact ((hphrase.passes (d + 1)).mono (by omega)).append hclose

/-! ## One call -/

/-- What a call passes on unescaped is in order itself: names of fields hold no marks, texts that
    are written as they are and texts of embedded queries are balanced, and no embedded query is the
    receiver.  Literals may hold anything. -/
def Call.Tame (w : Surroundings) (s : Shelf) : Call → Prop
  | .argument v _ | .fuzzyArgument v _ _ => v.Apart w Balanced s
  | .field name v _ _ _ | .fuzzyField name v _ _ =>
    (∀ n, name = some n → n.Unmarked) ∧ v.Apart w Balanced s
  | .subquery query _ => ∀ h, query = some h → w.isReceiver h = false ∧ (w.text h).Balanced
  | .startField name _ | .rangeField name _ _ _ => ∀ n, name = some n → n.Unmarked
  | .unescaped t _ => ∀ u, t = some u → u.Balanced
  | .unescapedField name t _ =>
    (∀ n, name = some n → n.Unmarked) ∧ ∀ u, t = some u → u.Balanced
  | .range _ _ _ | .endField | .boost _ | .setModifier _ | .setWildcarded _ => True

/-- A query is in order, with some groups left open: a scan of its text never falls below zero, and
    ends outside of phrases at the depth that the open fields and those groups make. -/
structure Query.InOrder (q : Query) (unclosed : Nat) : Prop where
  sound : q.buffer.Sound
  passes : (Scan.outside 0).Passes q.text (Scan.outside (q.openFields.length + unclosed : Nat)) 0

namespace Query

variable {q q' : Query} {n : Nat}

/-- Adding a balanced text keeps a query in order. -/
theorem InOrder.grew (h : q.InOrder n) {t : Text} (hg : q.Grew t q') (ht : t.Balanced)
    (hfields : q'.openFields = q.openFields) : q'.InOrder n := by
  refine ⟨hg.sound, ?_⟩
  rw [hg.text, hfields]
  exact h.passes.append ((ht.passes _).mono (Int.natCast_nonneg _))

theorem InOrder.skipped (h : q.InOrder n) : q.skipped.InOrder n :=
  h.grew (wrote_skipped h.sound).toGrew Text.balanced_nil rfl

theorem InOrder.openField (h : q.InOrder n) {name : Text} (hname : name.Unmarked) (m : Modifier) :
    (q.openField name m).InOrder n := by
  have hg := (wrote_openField h.sound name m).toGrew
  have hdeeper := passes_renderOpening m hname (q.openFields.length + n : Nat)
  have hdepth : ((q.openField name m).openFields.length + n : Nat)
      = (q.openFields.length + n : Nat) + 1 := Nat.succ_add _ n
  refine ⟨hg.sound, ?_⟩
  rw [hg.text, hdepth]
  exact h.passes.append (hdeeper.mono (Int.natCast_nonneg _))

theorem InOrder.closeField (h : q.InOrder n) {field : Text} {fields : List Text}
    (hfields : q.openFields = field :: fields) : (q.closeField fields).InOrder n := by
  have hg := (wrote_closeField h.sound fields).toGrew
  have hback := passes_renderClosing q.text (fields.length + n : Nat)
  have hpasses := h.passes
  -- The scan of the text so far stands one above the fields that are left.
  have hdepth : (q.openFields.length + n : Nat) = (fields.length + n : Nat) + 1 := by
    rw [hfields, List.length_cons]
    exact Nat.succ_add _ n
  rw [hdepth] at hpasses
  refine ⟨hg.sound, ?_⟩
  rw [hg.text, openFields_closeField]
  exact hpasses.append (hback.mono (Int.natCast_nonneg _))

theorem InOrder.writeRange (h : q.InOrder n) {field : Option Text} (start stop : Bound)
    (m : Modifier) (hname : ∀ name, field = some name → name.Unmarked) :
    (q.writeRange field start stop m).InOrder n :=
  h.grew (wrote_writeRange h.sound field start stop m).toGrew
    (balanced_renderRange q.text start stop m hname) rfl

theorem InOrder.writeUnescaped (h : q.InOrder n) {field text : Option Text} (mandatory : Bool)
    (hname : ∀ name, field = some name → name.Unmarked) (htext : ∀ t, text = some t → t.Balanced) :
    (q.writeUnescaped field text mandatory).InOrder n :=
  h.grew (wrote_writeUnescaped h.sound field text mandatory).toGrew
    (balanced_renderUnescaped mandatory hname htext) (sameFrame_writeUnescaped q _ _ _).openFields

end Query

section Scenes

variable {s : Scene} {w : Surroundings} {s₀ : Shelf} {v : Value} {n : Nat}

theorem Scene.inOrder_on (hs : s.query.InOrder n) {r : Except QueryError Modifier}
    {k : Modifier → Scene} (hk : ∀ m, (k m).query.InOrder n) : (s.on r k).2.query.InOrder n := by
  cases r with
  | error e => exact hs
  | ok m => exact hk m

theorem Scene.inOrder_put (hs : s.query.InOrder n) (hwithin : s.shelf.Within s₀)
    (hv : v.Apart w Balanced s₀) (m : Modifier) : (s.put w v m).query.InOrder n := by
  have hterm := Value.apart_term w Balanced hwithin hv
  exact hs.grew (Query.wrote_write _ s.query m hs.sound).toGrew
    (Term.balanced_render _ s.query.text m hterm) (Query.sameFrame_write _ _ _).openFields

/-- A field stays in order although a part of the streams is read before it is opened. -/
theorem Scene.inOrder_putField (hs : s.query.InOrder n) (hwithin : s.shelf.Within s₀)
    (hv : v.Apart w Balanced s₀) {name : Option Text}
    (hname : ∀ n, name = some n → n.Unmarked) (m : Modifier) (factor : Option Number) :
    (s.putField w name v m factor).query.InOrder n := by
  unfold Scene.putField
  cases name with
  | none => exact hs.skipped
  | some name =>
    by_cases hmissing : Text.isBlank name = true
    · simp only [hmissing, if_true]; exact hs.skipped
    · by_cases hblank : (v.isBlank (w.when s.query.text) s.shelf).1 = true
      · simp only [hmissing, hblank, if_true]; exact hs.skipped
      · simp only [hmissing, hblank]
        -- What the look at the value left of the streams still embeds nothing new.
        have hlooked := Value.within_isBlank (w.when s.query.text) v hwithin
        have hterm := Value.apart_term w Balanced hlooked hv
        have hvalue := Term.balanced_render _ (s.query.text ++ renderOpening m name) m.nested hterm
        exact hs.grew (Query.wrote_writeField hs.sound name m _ factor).toGrew
          (balanced_renderField m factor (hname name rfl) hvalue)
          (Query.sameFrame_writeField _ _ _ _ _).openFields

end Scenes

/-- **One call** keeps a query in order, whether it is refused or not. -/
theorem Query.InOrder.run {s : Scene} {n : Nat} (hs : s.query.InOrder n) (w : Surroundings) {c : Call}
    (hc : c.Tame w s.shelf) : (c.run w s).2.query.InOrder n := by
  have hwithin := Shelf.Within.refl s.shelf
  cases c with
  | argument v m =>
    rw [run_argument]
    exact Scene.inOrder_on hs fun m => Scene.inOrder_put hs hwithin hc m
  | fuzzyArgument v m f =>
    rw [run_fuzzyArgument]
    exact Scene.inOrder_on hs fun m => Scene.inOrder_put hs hwithin hc m
  | field name v m factor allMembers =>
    obtain ⟨hname, hv⟩ := hc
    obtain ⟨hv', hsettled⟩ := Value.apart_settled w Balanced hwithin hv
    rw [run_field]
    cases Boost.checkGiven factor with
    | error e => exact hs
    | ok =>
      -- Nothing is written before the stream is read, so the settled shelf is what the rest sees.
      let settled : Scene := ⟨s.query, (v.settled s.shelf).2⟩
      exact Scene.inOrder_on (s := settled) hs fun m =>
        Scene.inOrder_putField (s := settled) hs hsettled hv' hname m factor
  | fuzzyField name v m f =>
    obtain ⟨hname, hv⟩ := hc
    obtain ⟨hv', hsettled⟩ := Value.apart_settled w Balanced hwithin hv
    rw [run_fuzzyField]
    cases m.resolveFuzzy s.query.modifier v.isGroup f with
    | error e => exact hs
    | ok m =>
      let settled : Scene := ⟨s.query, (v.settled s.shelf).2⟩
      exact Scene.inOrder_putField (s := settled) hs hsettled hv' hname m none
  | range start stop m =>
    rw [run_range]
    rcases Bound.check s.query.text (start.bound w) (stop.bound w) with e | _ | ⟨a, b⟩
    · exact hs
    · exact hs.skipped
    · exact Scene.inOrder_on hs fun m => hs.writeRange a b m (by simp)
  | rangeField name start stop m =>
    rw [run_rangeField]
    rcases Bound.check s.query.text (start.bound w) (stop.bound w) with e | _ | ⟨a, b⟩
    · exact hs
    · exact hs.skipped
    · by_cases hmissing : Text.isMissing name = true
      · simp only [hmissing, if_true]; exact hs.skipped
      · simp only [hmissing]
        exact Scene.inOrder_on hs fun m => hs.writeRange a b m hc
  | subquery query m =>
    rw [run_subquery]
    refine Scene.inOrder_on hs fun m => Scene.inOrder_put hs hwithin ?_ m
    intro h hh
    cases query with
    | none => cases hh
    | some g =>
      obtain rfl : g = h := by cases hh; rfl
      exact hc g rfl
  | startField name m =>
    rw [run_startField]
    refine Scene.inOrder_on hs fun m => ?_
    show (s.query.startField name m).InOrder n
    unfold Query.startField
    split
    · exact hs.skipped
    · rename_i name
      split
      · exact hs.skipped
      · exact hs.openField (hc name rfl) m
  | endField =>
    rw [run_endField]
    split
    · exact hs
    · rename_i field fields hfields
      exact hs.closeField hfields
  | boost f =>
    rw [run_boost]
    cases Boost.check f with
    | error e => exact hs
    | ok =>
      exact hs.grew (Query.grew_writeBoost hs.sound f)
        (Text.balanced_ite (balanced_renderBoost f) Text.balanced_nil)
        (Query.sameFrame_writeBoost _ f).openFields
  | unescaped t mandatory =>
    rw [run_unescaped]
    show (s.query.writeUnescaped none t mandatory).InOrder n
    exact hs.writeUnescaped mandatory (by simp) hc
  | unescapedField name t mandatory =>
    rw [run_unescapedField]
    by_cases hmissing : Text.isMissing name = true
    · simp only [hmissing, if_true]; exact hs.skipped
    · simp only [hmissing]
      exact hs.writeUnescaped mandatory hc.1 hc.2
  | setModifier m =>
    rw [run_setModifier]
    cases m with
    | none => exact hs
    | some m => exact ⟨hs.sound, hs.passes⟩
  | setWildcarded on =>
    rw [run_setWildcarded]
    exact Scene.inOrder_on hs fun m => ⟨hs.sound, hs.passes⟩

/-! ## One call that breaks off -/

/-- Behind a remnant the scan is as deep as the groups that are left open. -/
theorem passes_renderRemnant : ∀ (r : Remnant) (own : Text) (m : Modifier) (d : Int),
    r.Apart Balanced → (Scan.outside d).Passes (r.render own m) (Scan.outside (d + r.depth)) d
  | .nothing, own, m, d, _ => by
    simpa [Remnant.render, Remnant.depth] using Scan.passes_nil (s := Scan.outside d) (Int.le_refl d)
  | .opened before rest, own, m, d, ⟨hbefore, hrest⟩ => by
    have hopen : (Scan.outside d).Passes ['('] (Scan.outside (d + 1)) d :=
      .cons (Int.le_refl d) (Scan.passes_nil (show d ≤ d + 1 by omega))
    have hinner := (Term.balanced_renderMembers before own (own ++ m.mark ++ ['(']) m.element
      hbefore).passes (d + 1)
    have hdeeper := passes_renderRemnant rest (own ++ m.mark ++ ['('] ++ Term.renderMembers own
      (own ++ m.mark ++ ['(']) m.element before) m.element (d + 1) hrest
    have hdepth : d + 1 + rest.depth = d + (Remnant.opened before rest).depth := by
      simp only [Remnant.depth, Int.natCast_add]
      omega
    rw [hdepth] at hdeeper
    have hfront := (m.balanced_mark.passes d).append hopen
    have hall := (hfront.append (hinner.mono (by omega))).append (hdeeper.mono (by omega))
    simpa [Remnant.render] using hall

/-- What is left of a call is tame: the name of the field that it opened holds no marks, and what it
    wrote embeds nothing that is not in order itself. -/
structure Break.Tame (b : Break) : Prop where
  field : ∀ name, b.field = some name → name.Unmarked
  rest : b.rest.Apart Balanced

section Breaking

variable {s : Scene} {w : Surroundings} {s₀ : Shelf} {v : Value} {m : Modifier} {b : Break}

theorem Scene.tame_breakPut? (hwithin : s.shelf.Within s₀) (hv : v.Apart w Balanced s₀)
    (hb : s.breakPut? w v m = some b) : b.Tame := by
  obtain ⟨hfield, hrest⟩ := breakPut?_eq_some hb
  exact ⟨by simp [hfield], Value.apart_break? w Balanced hwithin hv hrest⟩

theorem Scene.tame_breakField? {name : Option Text} (hwithin : s.shelf.Within s₀)
    (hname : ∀ n, name = some n → n.Unmarked) (hv : v.Apart w Balanced s₀)
    (hb : s.breakField? w name v m = some b) : b.Tame := by
  rcases breakField?_eq_some hb with ⟨hfield, hrest⟩ | ⟨hfield, -, hrest⟩
  · exact ⟨by simp [hfield], by rw [hrest]; trivial⟩
  · have hlooked := Value.within_isBlank (w.when s.query.text) v hwithin
    exact ⟨by rw [hfield]; exact hname, Value.apart_break? w Balanced hlooked hv hrest⟩

/-- What is left of a tame call is tame. -/
theorem Call.Tame.break {c : Call} (hc : c.Tame w s.shelf) (hb : c.breaks? w s = some b) :
    b.Tame := by
  have hwithin := Shelf.Within.refl s.shelf
  cases c with
  | argument v m =>
    obtain ⟨m', -, hb⟩ := Option.bind_eq_some_iff.mp hb
    exact Scene.tame_breakPut? hwithin hc hb
  | fuzzyArgument v m f =>
    obtain ⟨m', -, hb⟩ := Option.bind_eq_some_iff.mp hb
    exact Scene.tame_breakPut? hwithin hc hb
  | field name v m factor allMembers =>
    obtain ⟨hname, hv⟩ := hc
    obtain ⟨hv', hsettled⟩ := Value.apart_settled w Balanced hwithin hv
    rw [breaks?] at hb
    cases hfactor : Boost.checkGiven factor with
    | error e => simp [hfactor] at hb
    | ok =>
      simp only [hfactor] at hb
      obtain ⟨m', -, hb⟩ := Option.bind_eq_some_iff.mp hb
      exact Scene.tame_breakField? hsettled hname hv' hb
  | fuzzyField name v m f =>
    obtain ⟨hname, hv⟩ := hc
    obtain ⟨hv', hsettled⟩ := Value.apart_settled w Balanced hwithin hv
    obtain ⟨m', -, hb⟩ := Option.bind_eq_some_iff.mp hb
    exact Scene.tame_breakField? hsettled hname hv' hb
  | range start stop m =>
    simp only [breaks?, Option.ite_none_right_eq_some] at hb
    obtain rfl := Option.some.inj hb.2
    exact ⟨by simp, trivial⟩
  | rangeField name start stop m =>
    simp only [breaks?, Option.ite_none_right_eq_some] at hb
    obtain rfl := Option.some.inj hb.2
    exact ⟨by simp, trivial⟩
  | _ => cases hb

end Breaking

namespace Query

variable {q : Query} {n : Nat}

/-- A remnant leaves as many groups open as it broke off in. -/
theorem InOrder.writeRemnant (h : q.InOrder n) {r : Remnant} (hr : r.Apart Balanced) (m : Modifier) :
    (q.writeRemnant m r).InOrder (n + r.depth) := by
  have hg := grew_writeRemnant r h.sound m
  have hdeeper := passes_renderRemnant r q.text m (q.openFields.length + n : Nat) hr
  have hdepth : (q.openFields.length + (n + r.depth) : Nat)
      = (q.openFields.length + n : Nat) + (r.depth : Int) := by omega
  refine ⟨hg.sound, ?_⟩
  rw [hg.text, (sameFrame_writeRemnant r q m).openFields, hdepth]
  exact h.passes.append (hdeeper.mono (Int.natCast_nonneg _))

/-- **A call that breaks off** leaves the query in order, with the groups open that it broke off in. -/
theorem InOrder.break (h : q.InOrder n) {b : Break} (hb : b.Tame) :
    (b.scene q).query.InOrder (n + b.rest.depth) := by
  unfold Break.scene
  cases hname : b.field with
  | none => exact h.writeRemnant hb.rest b.modifier
  | some name => exact (h.openField (hb.field name hname) b.modifier).writeRemnant hb.rest _

end Query

/-! ## Runs -/

/-- The call of a step is tame in what is around it. -/
def Step.Tame (step : Step) : Prop := step.call.Tame step.surroundings step.shelf

namespace Query

theorem inOrder_new (m : Option Modifier) : (new m []).InOrder 0 :=
  ⟨Buffer.sound_ofText [], Scan.passes_nil (Int.le_refl 0)⟩

/-- An attempt keeps a query in order, whether the call is refused, breaks off or returns. -/
theorem InOrder.afterAttempt {q : Query} {n : Nat} (hq : q.InOrder n) {step : Step}
    (h : step.Tame) : (q.afterAttempt step).InOrder (n + q.unclosed step) := by
  cases hb : q.breaks? step with
  | none =>
    rw [afterAttempt_of_none hb, unclosed, hb]
    exact InOrder.run (s := ⟨q, step.shelf⟩) hq step.surroundings h
  | some b =>
    have htame : b.Tame := Call.Tame.break (s := ⟨q, step.shelf⟩) h hb
    rw [afterAttempt_of_break hb, unclosed, hb]
    exact hq.break htame

/-- Runs keep a query in order, by induction on the run. -/
theorem InOrder.attempts {q : Query} {n : Nat} (hq : q.InOrder n) {steps : List Step}
    (h : ∀ step ∈ steps, step.Tame) : (q.attempts steps).InOrder (n + q.total unclosed steps) := by
  induction steps generalizing q n with
  | nil => exact hq
  | cons step steps ih =>
    have hstep := hq.afterAttempt (h step List.mem_cons_self)
    have hrest := ih hstep fun later hlater => h later (List.mem_cons_of_mem step hlater)
    rw [Nat.add_assoc] at hrest
    exact hrest

/-- **Parentheses match.**  After every run of attempts on a query that began empty, no part of its
    text closes more parentheses than it opened.  At its end as many are open as there are open
    fields and groups that calls broke off in; so they match the open fields exactly if no call broke
    off in a group, and none does if all values may be written. -/
theorem run_matched (m : Option Modifier) {steps : List Step} (h : ∀ step ∈ steps, step.Tame) :
    let q := (new m []).attempts steps
    let unclosed := (new m []).total unclosed steps
    (∀ p, p <+: q.text → 0 ≤ ((Scan.outside 0).read p).depth) ∧
      (Scan.outside 0).read q.text = Scan.outside (q.openFields.length + unclosed : Nat) ∧
      ((Scan.outside 0).read q.text = Scan.outside q.openFields.length ↔ unclosed = 0) ∧
      ((∀ step ∈ steps, step.IsWritable) → unclosed = 0) := by
  intro q unclosed
  have hq : q.InOrder (0 + unclosed) := (inOrder_new m).attempts h
  rw [Nat.zero_add] at hq
  refine ⟨hq.passes.above, hq.passes.ends, ?_, total_unclosed_eq_zero⟩
  rw [hq.passes.ends]
  constructor
  · intro hdepth
    have hnat : ((q.openFields.length + unclosed : Nat) : Int) = q.openFields.length :=
      congrArg Scan.depth hdepth
    omega
  · intro hnone
    rw [hnone, Nat.add_zero]

/-- A run with parentheses and a quote in the values, a query and a stream among them, a call that is
    refused, a field that stays open, and a call that breaks off in the second of its groups. -/
theorem run_matched_marks :
    let w : Surroundings := ⟨⟨fun _ => ['(', 'x', ')', ' '], fun _ => {}⟩, (· == .query 0)⟩
    let tooLong : Value := .scalar (.number (.int (Nat.pow 10 4300)))
    let steps : List Step :=
      [⟨w, [], .startField (some ['f']) (.mandatory true)⟩,
        ⟨w, [[.text ['"']]],
          .argument (.group .list [.text ['a', ')'], .query (.query 1), .stream 0]) .absent⟩,
        ⟨w, [], .boost (.int 0)⟩,
        ⟨w, [], .startField (some ['g']) .absent⟩,
        ⟨w, [], .endField⟩,
        ⟨w, [], .argument
          (.group .list [.group .list [.text ['a'], .group .list [tooLong]]]) .absent⟩]
    let q := (new none []).attempts steps
    (∀ step ∈ steps, step.Tame) ∧
      q.text = "+f:((+(a\\)) +((x) ) +(+(\\\") ) ) g:(\"\") (+(+(a) ".toList ∧
      (∀ p, p <+: q.text → 0 ≤ ((Scan.outside 0).read p).depth) ∧
      (Scan.outside 0).read q.text = Scan.outside 3 := by
  intro w tooLong steps q
  have hx : Balanced ['(', 'x', ')', ' '] :=
    balanced_clause {} (Text.balanced_of_bland (by decide : Text.Bland ['x']))
  have hf : Text.Unmarked ['f'] := by simp [Text.Unmarked]; decide
  have hg : Text.Unmarked ['g'] := by simp [Text.Unmarked]; decide
  have hlong : ∀ s, Value.Apart w Balanced s tooLong := fun s => Value.apart_scalar
  have hsteps : ∀ step ∈ steps, step.Tame := by
    simp [steps, w, Step.Tame, Call.Tame, hf, hg, hx, hlong, Shelf.rest, Value.text]
  have hfields : q.openFields.length = 1 := by decide +kernel
  have hopen : (new none []).total unclosed steps = 2 := by decide +kernel
  obtain ⟨habove, hends, -, -⟩ := run_matched none hsteps
  refine ⟨hsteps, by decide +kernel, habove, ?_⟩
  rw [hends, hfields, hopen]
  rfl

/-- Parentheses that do not match, with no field open: a raw text without any parenthesis takes the one
    away that closes its field, if it ends in a backslash; and a call that breaks off leaves a group
    open. -/
theorem parenthesis_left_open :
    let w : Surroundings := ⟨⟨fun _ => [], fun _ => {}⟩, (· == .query 0)⟩
    let tooLong : Value := .scalar (.number (.int (Nat.pow 10 4300)))
    let raw : Text := ['\\']
    let q := (new none []).attempts [⟨w, [], .unescapedField (some ['f']) (some raw) false⟩]
    let q' := (new none []).attempts
      [⟨w, [], .argument (.group .list [.group .list [.text ['a'], tooLong]]) .absent⟩]
    ((∀ p, p <+: raw → ((Scan.outside 0).read p).depth = 0) ∧ q.text = "f:(\\) ".toList ∧
        ((Scan.outside 0).read q.text).depth = 1 ∧ q.openFields.length = 0) ∧
      (q'.text = "(".toList ∧ ((Scan.outside 0).read q'.text).depth = 1 ∧
        q'.openFields.length = 0) := by
  intro w tooLong raw q q'
  have hraw : ∀ p, p <+: raw → ((Scan.outside 0).read p).depth = 0 := by
    intro p hp
    rcases List.prefix_cons_iff.mp hp with rfl | ⟨rest, rfl, hrest⟩
    · rfl
    · rw [List.prefix_nil.mp hrest]
      rfl
  exact ⟨⟨hraw, by decide +kernel, by decide +kernel, by decide +kernel⟩,
    by decide +kernel, by decide +kernel, by decide +kernel⟩

end Query
end SearchQuery
