/-
  The text of a query says which values are in it.

  A value may hold every character that the text of a query is made of.  Still nothing in a value can
  pass for another value, for the end of a clause or for a group: two sequences of values that are
  written in the same way look the same only if the same stays of both.

  1. **Inside of a literal** — what stands in the parentheses begins with the escaped text or with a
     phrase, and both say where they end (`inside_inj`).  It never begins like a clause or like the
     end of a group (`not_atEdge_inside`).
  2. **Clauses (`render_inj`)** — clauses delimit themselves: whatever follows, a norm can be read
     off the text that begins with its clause.
  3. **Runs (`text_run_arguments_eq_iff`)** — the text after a run of calls, and what stays of the
     values that they were given, determine each other.
-/
import SearchQuery.Proofs.Text.Escaped
import SearchQuery.Proofs.Value.Norm

namespace SearchQuery

open Text (isReserved isPhraseMark escapeIf escapeAll)

/-! ## Inside of a literal -/

/-- What follows the opening parenthesis of a literal. -/
def insideLiteral (m : Modifier) (v : Text) : Text :=
  m.body v ++ (if m.splits v then renderTokens m v else []) ++ [')', ' ']

/-- A text begins like a clause or like the end of a group. -/
def Text.AtEdge (t : Text) : Prop := ∃ c ∈ ['+', '-', '(', ')'], ∃ r, t = c :: r

section Inside

variable {m : Modifier}

/-- With a wildcard, a phrase comes first. -/
theorem inside_wildcarded (hm : m.wildcarded = true) (v : Text) :
    ∃ r, insideLiteral m v = phrase v ++ r := by
  unfold insideLiteral Modifier.body
  rw [Modifier.alternatives_eq, hm]
  cases m.fuzziness <;> simp only [Text.join, List.append_assoc] <;> exact ⟨_, rfl⟩

/-- Without one, the escaped text comes first, and a bare stop ends it: the tilde of a fuzziness, the
    blank in front of the tokens, or the closing parenthesis. -/
theorem inside_plain (hm : m.wildcarded = false) (v : Text) :
    ∃ c r, (isReserved c = true ∧ c ≠ '\\') ∧ insideLiteral m v = escapeAll v ++ c :: r := by
  unfold insideLiteral Modifier.body
  rw [Modifier.alternatives_eq, hm]
  cases m.fuzziness with
  | some f =>
    simp only [Text.join, List.append_assoc, List.cons_append]
    exact ⟨'~', _, by decide, rfl⟩
  | none =>
    by_cases hs : m.splits v = true
    · simp only [Text.join, hs, if_true, renderTokens, List.append_assoc, List.cons_append]
      exact ⟨' ', _, by decide, rfl⟩
    · simp only [Text.join, hs, List.append_assoc]
      exact ⟨')', _, by decide, rfl⟩

/-- **A literal can be read off** the text that begins with what is inside of it. -/
theorem inside_inj {v v' r r' : Text} (h : insideLiteral m v ++ r = insideLiteral m v' ++ r') :
    v = v' := by
  cases hm : m.wildcarded with
  | true =>
    obtain ⟨x, hx⟩ := inside_wildcarded hm v
    obtain ⟨x', hx'⟩ := inside_wildcarded hm v'
    rw [hx, hx', Text.phrase_eq, Text.phrase_eq] at h
    simp only [List.append_assoc, List.cons_append, List.nil_append] at h
    exact Text.escapeIf_append_inj (by decide) (by decide) (by decide) v v' (List.cons.inj h).2
  | false =>
    obtain ⟨c, x, hc, hx⟩ := inside_plain hm v
    obtain ⟨c', x', hc', hx'⟩ := inside_plain hm v'
    rw [hx, hx', Text.escapeAll_eq, Text.escapeAll_eq, List.append_assoc, List.append_assoc] at h
    exact Text.escapeIf_append_inj (by decide) hc hc' v v' h

/-- Every edge is escaped in a literal, and no phrase begins with one. -/
theorem not_atEdge_inside {v : Text} (hv : v ≠ []) (r : Text) :
    ¬ Text.AtEdge (insideLiteral m v ++ r) := by
  rintro ⟨e, he, r', h⟩
  cases hm : m.wildcarded with
  | true =>
    obtain ⟨x, hx⟩ := inside_wildcarded hm v
    have hquote : '"' = e := by
      rw [hx, Text.phrase_eq] at h
      exact (List.cons.inj h).1
    rw [← hquote] at he
    exact absurd he (by decide)
  | false =>
    have hstop : isReserved e = true ∧ e ≠ '\\' := by
      have hall : List.all ['+', '-', '(', ')'] (fun d => isReserved d && d != '\\') = true := by
        decide
      simpa using List.all_eq_true.mp hall e he
    obtain ⟨c, x, -, hx⟩ := inside_plain hm v
    cases v with
    | nil => exact hv rfl
    | cons a s =>
      rw [hx, Text.escapeAll_eq, List.append_assoc] at h
      exact Text.escapeIf_cons_ne_stop hstop a s _ r' h

end Inside

/-! ## Clauses -/

theorem Text.AtEdge.append {t : Text} (h : t.AtEdge) (u : Text) : Text.AtEdge (t ++ u) := by
  obtain ⟨c, hc, r, rfl⟩ := h
  exact ⟨c, hc, r ++ u, rfl⟩

/-- Whatever is inside of it, a clause begins at an edge. -/
theorem atEdge_clause (m : Modifier) (t : Text) : Text.AtEdge (m.mark ++ '(' :: t) := by
  obtain ⟨occurrence, _, _, _, _⟩ := m
  cases occurrence with
  | plain => exact ⟨'(', by decide, t, rfl⟩
  | required => exact ⟨'+', by decide, '(' :: t, rfl⟩
  | prohibited => exact ⟨'-', by decide, '(' :: t, rfl⟩

namespace Norm

variable {n n' : Norm} {ns ns' : List Norm}

theorem render_text {t : Text} (ht : Text.isBlank t = false) (m : Modifier) :
    (Norm.text t).render m = m.mark ++ '(' :: insideLiteral m t := by
  simp [render, renderLiteral, ht, insideLiteral]

theorem Proper.render_ne_nil (h : n.Proper) (m : Modifier) : n.render m ≠ [] := by
  induction h generalizing m with
  | text ht => rw [render_text ht]; simp
  | @group members hne hall ih =>
    cases members with
    | nil => exact absurd rfl hne
    | cons n ns =>
      have hfirst := ih n List.mem_cons_self m.element
      simp [render, renderAll, renderClause, hfirst]

/-- A group that is not empty gives a clause around those of its members. -/
theorem render_group (hne : ns ≠ []) (hall : ∀ n ∈ ns, n.Proper) (m : Modifier) :
    (Norm.group ns).render m = m.mark ++ '(' :: (renderAll m.element ns ++ [')', ' ']) := by
  cases ns with
  | nil => exact absurd rfl hne
  | cons n ns =>
    have hfirst := (hall n List.mem_cons_self).render_ne_nil m.element
    simp [render, renderAll, renderClause, hfirst]

theorem Proper.atEdge_render (h : n.Proper) (m : Modifier) : (n.render m).AtEdge := by
  cases h with
  | text ht => rw [render_text ht]; exact atEdge_clause m _
  | group hne hall => rw [render_group hne hall]; exact atEdge_clause m _

/-- Clauses of which the last is followed by the end of their group. -/
theorem atEdge_renderAll (hall : ∀ n ∈ ns, n.Proper) (m : Modifier) (r : Text) :
    Text.AtEdge (renderAll m ns ++ ')' :: r) := by
  cases ns with
  | nil => exact ⟨')', by decide, r, rfl⟩
  | cons n ns =>
    rw [renderAll, List.append_assoc]
    exact ((hall n List.mem_cons_self).atEdge_render m).append _

/-- A norm can be read off every text that begins with its clause. -/
def Legible (n : Norm) : Prop :=
  ∀ (n' : Norm) (m : Modifier) (r r' : Text), n'.Proper →
    n.render m ++ r = n'.render m ++ r' → n = n' ∧ r = r'

/-- A clause is never a mere closing parenthesis. -/
theorem render_append_ne_close (h : n.Proper) (m : Modifier) (r r' : Text) :
    n.render m ++ r ≠ ')' :: r' := by
  have hopen : ∀ t : Text, m.mark ++ '(' :: t ++ r ≠ ')' :: r' := by
    obtain ⟨occurrence, _, _, _, _⟩ := m
    intro t
    cases occurrence <;> simp [Modifier.mark, Occurrence.mark]
  cases h with
  | text ht => rw [render_text ht]; exact hopen _
  | group hne hall => rw [render_group hne hall]; exact hopen _

/-- Members that can be read one by one can be read off the inside of their group. -/
theorem renderAll_inj (m : Modifier) (hlegible : ∀ n ∈ ns, n.Legible)
    (hns : ∀ n ∈ ns, n.Proper) (hns' : ∀ n ∈ ns', n.Proper) {r r' : Text}
    (h : renderAll m ns ++ ')' :: r = renderAll m ns' ++ ')' :: r') : ns = ns' ∧ r = r' := by
  induction ns generalizing ns' with
  | nil =>
    cases ns' with
    | nil => exact ⟨rfl, (List.cons.inj h).2⟩
    | cons n' ns' =>
      -- One group ends where the other goes on with a clause.
      rw [renderAll, renderAll, List.append_assoc] at h
      exact absurd h.symm (render_append_ne_close (hns' n' List.mem_cons_self) m _ r)
  | cons n ns ih =>
    cases ns' with
    | nil =>
      rw [renderAll, renderAll, List.append_assoc] at h
      exact absurd h (render_append_ne_close (hns n List.mem_cons_self) m _ r')
    | cons n' ns' =>
      rw [renderAll, renderAll, List.append_assoc, List.append_assoc] at h
      obtain ⟨rfl, hrest⟩ := hlegible n List.mem_cons_self n' m _ _
        (hns' n' List.mem_cons_self) h
      obtain ⟨rfl, hr⟩ := ih (fun k hk => hlegible k (List.mem_cons_of_mem n hk))
        (fun k hk => hns k (List.mem_cons_of_mem n hk))
        (fun k hk => hns' k (List.mem_cons_of_mem n hk)) hrest
      exact ⟨rfl, hr⟩

/-- Clauses with the same mark are told apart by what is inside. -/
theorem inside_eq_of_clause_eq {m : Modifier} {t t' r r' : Text}
    (h : m.mark ++ '(' :: t ++ r = m.mark ++ '(' :: t' ++ r') : t ++ r = t' ++ r' := by
  rw [List.append_assoc, List.append_assoc] at h
  exact (List.cons.inj (List.append_cancel_left h)).2

/-- **Clauses delimit themselves.**  By induction on the norm: a text is found at once, the members
    of a group one after the other, and nothing passes for both. -/
theorem Proper.legible (h : n.Proper) : n.Legible := by
  induction h with
  | @text t ht =>
    intro n' m r r' hn' heq
    have hne : t ≠ [] := by rintro rfl; exact absurd ht (by decide)
    rw [render_text ht] at heq
    cases hn' with
    | @text t' ht' =>
      rw [render_text ht'] at heq
      have hinside := inside_eq_of_clause_eq heq
      obtain rfl := inside_inj hinside
      exact ⟨rfl, List.append_cancel_left hinside⟩
    | @group ns' hne' hall' =>
      rw [render_group hne' hall'] at heq
      have hinside := inside_eq_of_clause_eq heq
      rw [List.append_assoc] at hinside
      -- What is inside of a group begins at an edge, what is inside of a literal never does.
      have hedge := atEdge_renderAll hall' m.element ([' '] ++ r')
      exact absurd (hinside ▸ hedge) (not_atEdge_inside hne r)
  | @group ns hne hall ih =>
    intro n' m r r' hn' heq
    rw [render_group hne hall] at heq
    cases hn' with
    | @text t' ht' =>
      have hne' : t' ≠ [] := by rintro rfl; exact absurd ht' (by decide)
      rw [render_text ht'] at heq
      have hinside := inside_eq_of_clause_eq heq
      rw [List.append_assoc] at hinside
      have hedge := atEdge_renderAll hall m.element ([' '] ++ r)
      exact absurd (hinside ▸ hedge) (not_atEdge_inside hne' r')
    | @group ns' hne' hall' =>
      rw [render_group hne' hall'] at heq
      have hinside := inside_eq_of_clause_eq heq
      rw [List.append_assoc, List.append_assoc] at hinside
      -- The parenthesis that closes the group is where both sequences of members end.
      obtain ⟨rfl, hrest⟩ := renderAll_inj m.element ih hall hall' hinside
      exact ⟨rfl, (List.cons.inj hrest).2⟩

/-- Sequences of norms are the same when their clauses are. -/
theorem renderAll_eq_iff (m : Modifier) (hns : ∀ n ∈ ns, n.Proper) (hns' : ∀ n ∈ ns', n.Proper) :
    renderAll m ns = renderAll m ns' ↔ ns = ns' := by
  constructor
  · intro h
    -- As if both were members of one group, whose end is then the end of the sequences.
    have hclosed : renderAll m ns ++ [')'] = renderAll m ns' ++ [')'] := by rw [h]
    exact (renderAll_inj m (fun n hn => (hns n hn).legible) hns hns' hclosed).1
  · rintro rfl
    rfl

end Norm

/-! ## Runs -/

/-- Calls that add values under a modifier, one after the other. -/
def argumentSteps (w : Surroundings) (s : Shelf) (m : Modifier) (vs : List Value) : List Step :=
  vs.map fun v => ⟨w, s, .argument v (.given m)⟩

namespace Query

variable {q : Query}

/-- One such call adds the clause of what stays of its value. -/
theorem grew_after_argument (hq : q.buffer.Sound) (w : Surroundings) (s : Shelf) (m : Modifier)
    {v : Value} (hv : v.Plain) :
    q.Grew ((v.norm.map (Norm.render m)).getD []) (q.after ⟨w, s, .argument v (.given m)⟩) := by
  have hmeans := Value.means_term w hv.noStream (hv.noQuery w.isReceiver) s
  have hput := Call.wrote_put (s := ⟨q, s⟩) hq w v m
  rw [hmeans.render, Value.render_eq w.toQueries v m hv] at hput
  have hrun : q.after ⟨w, s, .argument v (.given m)⟩ = ((⟨q, s⟩ : Scene).put w v m).query := by
    rw [after, run_argument]
    rfl
  rw [hrun]
  exact hput.toGrew

/-- Such calls add the clauses of what stays, one after the other. -/
theorem grew_run_arguments (w : Surroundings) (s : Shelf) (m : Modifier) {vs : List Value}
    (hvs : ∀ v ∈ vs, v.Plain) (hq : q.buffer.Sound) :
    q.Grew (Norm.renderAll m (vs.filterMap Value.norm)) (q.run (argumentSteps w s m vs)) := by
  induction vs generalizing q with
  | nil => exact Grew.refl hq
  | cons v vs ih =>
    have hfirst := grew_after_argument hq w s m (hvs v List.mem_cons_self)
    have hrest := ih (fun u hu => hvs u (List.mem_cons_of_mem v hu)) hfirst.sound
    have hclauses : (v.norm.map (Norm.render m)).getD []
        ++ Norm.renderAll m (vs.filterMap Value.norm)
        = Norm.renderAll m ((v :: vs).filterMap Value.norm) := by
      cases hn : v.norm with
      | none => rw [List.filterMap_cons_none hn]; rfl
      | some n => rw [List.filterMap_cons_some hn]; rfl
    rw [← hclauses]
    exact hfirst.trans hrest

theorem text_run_arguments (d : Option Modifier) (w : Surroundings) (s : Shelf) (m : Modifier)
    {vs : List Value} (hvs : ∀ v ∈ vs, v.Plain) :
    ((new d []).run (argumentSteps w s m vs)).text
      = Norm.renderAll m (vs.filterMap Value.norm) := by
  have h := grew_run_arguments w s m hvs (q := new d []) (Buffer.sound_ofText [])
  rw [h.text, text_new, List.nil_append]

/-- **Nothing can be smuggled in.**  Two sequences of plain values that are added to empty queries
    give the same text exactly when the same stays of both: no characters in a value can pass for
    another value, for a group or for the end of a clause, and only what is blank is invisible. -/
theorem text_run_arguments_eq_iff (d d' : Option Modifier) (w w' : Surroundings) (s s' : Shelf)
    (m : Modifier) {vs vs' : List Value} (hvs : ∀ v ∈ vs, v.Plain) (hvs' : ∀ v ∈ vs', v.Plain) :
    ((new d []).run (argumentSteps w s m vs)).text
        = ((new d' []).run (argumentSteps w' s' m vs')).text
      ↔ vs.filterMap Value.norm = vs'.filterMap Value.norm := by
  have hproper := Value.proper_normAll vs hvs
  have hproper' := Value.proper_normAll vs' hvs'
  rw [Value.normAll_eq] at hproper hproper'
  rw [text_run_arguments d w s m hvs, text_run_arguments d' w' s' m hvs',
    Norm.renderAll_eq_iff m hproper hproper']

/-- A text that looks like the end of one clause and the beginning of another is not two texts, and
    neither blanks nor the shape of a group can be seen. -/
theorem text_run_arguments_eq_iff_marks :
    let w : Surroundings := ⟨⟨fun _ => [], fun _ => {}⟩, fun _ => false⟩
    let written := fun vs : List Value => ((new none []).run (argumentSteps w [] {} vs)).text
    let marks : Value := .text ['a', ')', ' ', '(', 'b']
    let pair : Value := .group .list [.text ['a'], .text ['b']]
    let blanks : Value := .group .tuple [.text ['a'], .absent, .group .set [], .text ['b']]
    (marks.Plain ∧ pair.Plain ∧ blanks.Plain) ∧ written [marks] ≠ written [pair] ∧
      written [pair] = written [blanks, .text [' ']] := by
  intro w written marks pair blanks
  have hmarks : marks.Plain := ⟨rfl, fun _ => rfl⟩
  have hpair : pair.Plain := ⟨rfl, fun _ => rfl⟩
  have hblanks : blanks.Plain := ⟨rfl, fun _ => rfl⟩
  have hblank : (Value.text [' ']).Plain := ⟨rfl, fun _ => rfl⟩
  refine ⟨⟨hmarks, hpair, hblanks⟩, fun h => ?_, ?_⟩
  · have hnorms := (text_run_arguments_eq_iff none none w w [] [] {} (by simpa using hmarks)
      (by simpa using hpair)).mp h
    have hsame : [Norm.text ['a', ')', ' ', '(', 'b']] = [.group [.text ['a'], .text ['b']]] := hnorms
    cases hsame
  · exact (text_run_arguments_eq_iff none none w w [] [] {} (by simpa using hpair)
      (by simpa using ⟨hblanks, hblank⟩)).mpr rfl

end Query
end SearchQuery
