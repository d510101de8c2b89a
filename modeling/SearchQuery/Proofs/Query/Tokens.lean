/-
  The tokens of a literal that is split.

  Whether a literal is split is asked of the text without the blanks at its ends, of every kind of
  blank; it is cut at every blank U+0020 of the text as it stands; and pieces that are blank are
  dropped one by one when they are written.  The three agree.

  1. **Tokens** — the pieces that are not blank.  A cut at a blank cuts the tokens
     (`tokens_append_blank`), so a text that has a blank inside, with something on either side of it,
     has two of them at least (`two_le_length_tokens`).
  2. **Reading** — `readLiteral` reads the clause of a literal: its mark, its alternatives and, if there
     are any, the clauses of its tokens, in which there is no room for tokens of their own.
  3. **Splitting (`Query.splits_into_tokens`)** — the clauses of the tokens are written exactly when the
     text has a blank inside; each is what the token alone would give, as a member of a group.
-/
import SearchQuery.Proofs.Query.Alternatives
import SearchQuery.Proofs.Query.Run

namespace SearchQuery

/-! ## Tokens -/

namespace Text

/-- The pieces of a text between its blanks U+0020, without those that are blank. -/
def tokens (v : Text) : List Text := (pieces ' ' v).filter fun t => !isBlank t

/-- A cut at the separator cuts the pieces. -/
theorem pieces_append_cons (c : Char) (s t : Text) :
    pieces c (s ++ c :: t) = pieces c s ++ pieces c t := by
  induction s with
  | nil => simp [pieces]
  | cons d s ih =>
    rw [List.cons_append, pieces, pieces]
    by_cases hd : d = c
    · rw [if_pos hd, if_pos hd, ih, List.cons_append]
    · rw [if_neg hd, if_neg hd, ih]
      cases hs : pieces c s with
      | nil => exact absurd hs (pieces_ne_nil c s)
      | cons p ps => rfl

/-- **Tokens split at a blank.** -/
theorem tokens_append_blank (s t : Text) : tokens (s ++ ' ' :: t) = tokens s ++ tokens t := by
  rw [tokens, pieces_append_cons, List.filter_append]
  rfl

/-- A text is blank when all its pieces are. -/
theorem all_isBlank_pieces (t : Text) : (pieces ' ' t).all isBlank = isBlank t := by
  induction t with
  | nil => rfl
  | cons d t ih =>
    rw [pieces]
    by_cases hd : d = ' '
    · subst hd
      have hblank : isBlankChar ' ' = true := by decide
      rw [if_pos rfl, List.all_cons, ih]
      simp [isBlank, hblank]
    · rw [if_neg hd]
      cases hp : pieces ' ' t with
      | nil => exact absurd hp (pieces_ne_nil ' ' t)
      | cons p ps =>
        rw [hp] at ih
        simp only [isBlank, List.all_cons] at ih ⊢
        rw [← ih, Bool.and_assoc]

/-- A text that is not blank has a token. -/
theorem tokens_ne_nil {t : Text} (h : isBlank t = false) : tokens t ≠ [] := by
  intro hnil
  have hall : (pieces ' ' t).all isBlank = true := by
    refine List.all_eq_true.mpr fun p hp => ?_
    simpa using List.filter_eq_nil_iff.mp hnil p hp
  rw [all_isBlank_pieces, h] at hall
  cases hall

/-- What stands in front of a blank is not blank, if the blanks at the start were taken off. -/
theorem isBlank_of_stripStart {u s t : Text} (h : stripStart u = s ++ ' ' :: t) :
    isBlank s = false := by
  have hhead := List.head?_dropWhile_not isBlankChar u
  rw [show u.dropWhile isBlankChar = s ++ ' ' :: t from h] at hhead
  cases s with
  | nil =>
    have hblank : isBlankChar ' ' = false := hhead
    exact absurd hblank (by decide)
  | cons c s =>
    have hc : isBlankChar c = false := hhead
    simp [isBlank, hc]

/-- A blank that stripping leaves has something on either side of it. -/
theorem exists_of_mem_strip {v : Text} (h : ' ' ∈ strip v) :
    ∃ s t, v = s ++ ' ' :: t ∧ isBlank s = false ∧ isBlank t = false := by
  let lead := v.takeWhile isBlankChar
  let trail := ((stripStart v).reverse.takeWhile isBlankChar).reverse
  have hlead : lead ++ stripStart v = v := List.takeWhile_append_dropWhile
  have htrail : stripEnd (stripStart v) ++ trail = stripStart v := by
    rw [stripEnd, ← List.reverse_append, List.takeWhile_append_dropWhile, List.reverse_reverse]
  obtain ⟨a, b, hab⟩ := List.append_of_mem (show ' ' ∈ stripEnd (stripStart v) from h)
  rw [hab, List.append_assoc, List.cons_append] at htrail
  have ha : isBlank a = false := isBlank_of_stripStart htrail.symm
  -- The end of a text is the start of the text turned round.
  have hturned : stripStart (stripStart v).reverse = b.reverse ++ ' ' :: a.reverse := by
    have hrev := congrArg List.reverse hab
    rw [stripEnd, List.reverse_reverse] at hrev
    rw [stripStart, hrev]
    simp
  have hb : isBlank b = false := by
    have hrev := isBlank_of_stripStart hturned
    rwa [isBlank, List.all_reverse] at hrev
  rw [isBlank] at ha hb
  refine ⟨lead ++ a, b ++ trail, ?_, ?_, ?_⟩
  · rw [List.append_assoc, htrail, hlead]
  · rw [isBlank, List.all_append, ha, Bool.and_false]
  · rw [isBlank, List.all_append, hb, Bool.false_and]

/-- **A text that is split has two tokens at least.** -/
theorem two_le_length_tokens {v : Text} (h : ' ' ∈ strip v) : 2 ≤ (tokens v).length := by
  obtain ⟨s, t, rfl, hs, ht⟩ := exists_of_mem_strip h
  have hleft := List.length_pos_iff.mpr (tokens_ne_nil hs)
  have hright := List.length_pos_iff.mpr (tokens_ne_nil ht)
  rw [tokens_append_blank, List.length_append]
  omega

end Text

/-! ## Reading -/

/-- A clause of which nothing but alternatives stands in the parentheses, as it is read. -/
structure WholeClause where
  occurrence : Occurrence
  alternatives : List Alternative
  deriving DecidableEq, Repr

/-- The clause of a literal, as it is read.  Its tokens, if it has a part for them, have clauses
    without such a part. -/
structure LiteralClause where
  whole : WholeClause
  tokens : Option (List WholeClause)
  deriving DecidableEq, Repr

/-- Reads the mark in front of a clause. -/
def readMark : Text → Occurrence × Text
  | '+' :: t => (.required, t)
  | '-' :: t => (.prohibited, t)
  | t => (.plain, t)

/-- Reads a clause, where `more` reads what stands between its alternatives and its end. -/
def readClauseWith {α : Type} (more : Text → Option (α × Text)) (t : Text) :
    Option (WholeClause × α × Text) :=
  match readMark t with
  | (occurrence, '(' :: inside) =>
    match readAlternatives inside with
    | some (alternatives, behind) =>
      match more behind with
      | some (a, ')' :: ' ' :: rest) => some (⟨occurrence, alternatives⟩, a, rest)
      | _ => none
    | none => none
  | _ => none

/-- Reads a clause with nothing but alternatives in it. -/
def readWhole (t : Text) : Option (WholeClause × Text) :=
  (readClauseWith (fun behind => some ((), behind)) t).map fun (clause, _, rest) => (clause, rest)

theorem length_readMark_le (t : Text) : (readMark t).2.length ≤ t.length := by
  unfold readMark
  split
  · exact Nat.le_succ _
  · exact Nat.le_succ _
  · exact Nat.le_refl _

theorem length_readWhole_lt {t rest : Text} {clause : WholeClause}
    (h : readWhole t = some (clause, rest)) : rest.length < t.length := by
  obtain ⟨⟨clause', u, rest'⟩, hread, heq⟩ := Option.map_eq_some_iff.mp h
  obtain rfl : rest' = rest := (Prod.mk.inj heq).2
  have hmark := length_readMark_le t
  unfold readClauseWith at hread
  split at hread
  · rename_i occurrence inside hsplit
    split at hread
    · rename_i alternatives behind hinside
      have hbehind := length_readAlternatives_le hinside
      rw [hsplit, List.length_cons] at hmark
      split at hread
      · rename_i a r hmore
        obtain rfl : r = rest' := (Prod.mk.inj (Prod.mk.inj (Option.some.inj hread)).2).2
        rw [(Prod.mk.inj (Option.some.inj hmore)).2] at hbehind
        simp only [List.length_cons] at hbehind
        omega
      · cases hread
    · cases hread
  · cases hread

/-- Reads clauses up to a closing parenthesis. -/
def readWholes (t : Text) : Option (List WholeClause × Text) :=
  match t with
  | ')' :: rest => some ([], ')' :: rest)
  | t =>
    match _hread : readWhole t with
    | none => none
    | some (clause, rest) =>
      (readWholes rest).map fun (clauses, rest) => (clause :: clauses, rest)
termination_by t.length
decreasing_by exact length_readWhole_lt _hread

/-- Reads the clauses of the tokens, if there are any: ` (…)^0.5`. -/
def readTokens : Text → Option (Option (List WholeClause) × Text)
  | ' ' :: '(' :: inside =>
    match readWholes inside with
    | some (clauses, ')' :: '^' :: '0' :: '.' :: '5' :: rest) => some (some clauses, rest)
    | _ => none
  | t => some (none, t)

/-- Reads the clause of a literal. -/
def readLiteral (t : Text) : Option (LiteralClause × Text) :=
  (readClauseWith readTokens t).map fun (whole, tokens, rest) => (⟨whole, tokens⟩, rest)

/-! ## What is written, read -/

theorem readMark_mark (m : Modifier) (t : Text) :
    readMark (m.mark ++ '(' :: t) = (m.occurrence, '(' :: t) := by
  obtain ⟨occurrence, _, _, _, _⟩ := m
  cases occurrence <;> rfl

/-- A clause is read, if what stands behind its alternatives is. -/
theorem readClauseWith_clause {α : Type} {more : Text → Option (α × Text)} {a : α}
    (m : Modifier) (v : Text) {tail rest : Text}
    (hends : Text.EndsLiteral (tail ++ ')' :: ' ' :: rest))
    (hmore : more (tail ++ ')' :: ' ' :: rest) = some (a, ')' :: ' ' :: rest)) :
    readClauseWith more (m.mark ++ '(' :: (m.body v ++ (tail ++ ')' :: ' ' :: rest)))
      = some (⟨m.occurrence, m.readings v⟩, a, rest) := by
  unfold readClauseWith
  rw [readMark_mark]
  simp only [m.readAlternatives_body v hends, hmore]

theorem endsLiteral_close (rest : Text) : Text.EndsLiteral (')' :: rest) := .inr (.inl ⟨rest, rfl⟩)

theorem endsLiteral_open (rest : Text) : Text.EndsLiteral (' ' :: '(' :: rest) :=
  .inr (.inr ⟨rest, rfl⟩)

theorem readWhole_renderWhole {v : Text} (hv : Text.isBlank v = false) (m : Modifier)
    (rest : Text) :
    readWhole (renderWhole m v ++ rest) = some (⟨m.occurrence, m.readings v⟩, rest) := by
  have hclause : readClauseWith (fun behind => some ((), behind))
      (m.mark ++ '(' :: (m.body v ++ ([] ++ ')' :: ' ' :: rest)))
        = some (⟨m.occurrence, m.readings v⟩, (), rest) :=
    readClauseWith_clause m v (endsLiteral_close (' ' :: rest)) rfl
  have hform : renderWhole m v ++ rest
      = m.mark ++ '(' :: (m.body v ++ ([] ++ ')' :: ' ' :: rest)) := by
    simp [renderWhole, hv]
  rw [readWhole, hform]
  exact congrArg _ hclause

/-- Clauses are read one after the other. -/
theorem readWholes_flatMap (m : Modifier) : ∀ (ts : List Text), (∀ t ∈ ts, Text.isBlank t = false) →
    ∀ rest : Text, readWholes (ts.flatMap (renderWhole m) ++ ')' :: rest)
      = some (ts.map fun t => ⟨m.occurrence, m.readings t⟩, ')' :: rest)
  | [], _, rest => by rw [List.flatMap_nil, List.nil_append, readWholes, List.map_nil]
  | t :: ts, hts, rest => by
    have hrest := readWholes_flatMap m ts (fun u hu => hts u (List.mem_cons_of_mem t hu)) rest
    have hfirst := readWhole_renderWhole (hts t List.mem_cons_self) m
      (ts.flatMap (renderWhole m) ++ ')' :: rest)
    -- No clause begins with the parenthesis that ends them all.
    have hnext : ∀ u, renderWhole m t ++ (ts.flatMap (renderWhole m) ++ ')' :: rest) ≠ ')' :: u := by
      intro u hu
      rw [hu] at hfirst
      simp [readWhole, readClauseWith, readMark] at hfirst
    rw [List.flatMap_cons, List.append_assoc, readWholes]
    · split
      · rename_i hnone
        rw [hfirst] at hnone
        cases hnone
      · rename_i clause r hsome
        rw [hfirst] at hsome
        cases hsome
        rw [hrest]
        rfl
    · exact hnext

/-- Blank pieces give nothing, so the clauses are those of the tokens. -/
theorem flatMap_renderWhole_pieces (m : Modifier) (v : Text) :
    (Text.pieces ' ' v).flatMap (renderWhole m) = (Text.tokens v).flatMap (renderWhole m) := by
  rw [Text.tokens]
  induction Text.pieces ' ' v with
  | nil => rfl
  | cons p ps ih =>
    cases hp : Text.isBlank p with
    | true => simp [List.flatMap_cons, hp, ih, renderWhole]
    | false => simp [List.flatMap_cons, hp, ih]

theorem isBlank_of_mem_tokens {t v : Text} (ht : t ∈ Text.tokens v) : Text.isBlank t = false := by
  simpa using (List.mem_filter.mp ht).2

theorem readTokens_renderTokens (m : Modifier) (v rest : Text) :
    readTokens (renderTokens m v ++ rest)
      = some (some ((Text.tokens v).map fun t => ⟨m.token.occurrence, m.readings t⟩), rest) := by
  have hclauses := readWholes_flatMap m.token (Text.tokens v) (fun t ht => isBlank_of_mem_tokens ht)
    ('^' :: '0' :: '.' :: '5' :: rest)
  have hform : renderTokens m v ++ rest = ' ' :: '(' ::
      ((Text.tokens v).flatMap (renderWhole m.token) ++ ')' :: '^' :: '0' :: '.' :: '5' :: rest) := by
    simp [renderTokens, flatMap_renderWhole_pieces]
  rw [hform, readTokens, hclauses]
  rfl

/-- **The clause of a literal is read** as its alternatives and the clauses of its tokens, if it is
    split. -/
theorem readLiteral_renderLiteral {v : Text} (hv : Text.isBlank v = false) (m : Modifier)
    (rest : Text) :
    readLiteral (renderLiteral m v ++ rest) = some (⟨⟨m.occurrence, m.readings v⟩,
      if m.splits v then some ((Text.tokens v).map fun t => ⟨m.token.occurrence, m.readings t⟩)
      else none⟩, rest) := by
  cases hs : m.splits v with
  | true =>
    have htokens := readTokens_renderTokens m v (')' :: ' ' :: rest)
    have hends : Text.EndsLiteral (renderTokens m v ++ ')' :: ' ' :: rest) := by
      rw [renderTokens]
      exact endsLiteral_open _
    have hform : renderLiteral m v ++ rest
        = m.mark ++ '(' :: (m.body v ++ (renderTokens m v ++ ')' :: ' ' :: rest)) := by
      simp [renderLiteral, hv, hs]
    rw [readLiteral, hform, readClauseWith_clause m v hends htokens]
    rfl
  | false =>
    have hform : renderLiteral m v ++ rest
        = m.mark ++ '(' :: (m.body v ++ ([] ++ ')' :: ' ' :: rest)) := by
      simp [renderLiteral, hv, hs]
    rw [readLiteral, hform, readClauseWith_clause m v (endsLiteral_close (' ' :: rest)) rfl]
    rfl

/-! ## Splitting -/

namespace Query

/-- A literal that is not split is written whole. -/
theorem writeLiteral_of_not_splits {m : Modifier} {v : Text} (h : m.splits v = false) (q : Query) :
    q.writeLiteral v m = q.writeWhole v m := by
  unfold writeLiteral writeWhole
  by_cases hv : Text.isBlank v = true
  · rw [if_pos hv, if_pos hv]
  · rw [if_neg hv, if_neg hv, h]
    rfl

/-- Written by itself, a token gives the clause that it has among the other tokens. -/
theorem text_writeLiteral_token {t : Text} (ht : Text.isBlank t = false) (q : Query) (m : Modifier) :
    (q.writeLiteral t m.token).text = q.text ++ renderWhole m.token t := by
  have hsplits : m.token.splits t = false := rfl
  rw [writeLiteral_of_not_splits hsplits]
  simp [writeWhole, renderWhole, ht]

/-- **Splitting.**  A text with a blank inside, those at its ends apart, gets one more alternative:
    the clauses of its tokens in their order, of which there are two at least.  Each is what the token
    gives as a member of a group, required unless any member may match, with the alternatives of the
    modifier and without tokens of its own.  Every other text is written as if it were not to be
    split. -/
theorem Reached.splits_into_tokens {q : Query} (hq : q.Reached) {m : Modifier}
    (hm : m.split = true) (v : Text) :
    let tag : Occurrence := if m.disjunct then .plain else .required
    let clause := fun t : Text => tag.mark ++ ['('] ++ m.body t ++ [')', ' ']
    let q' := q.writeLiteral v m
    (' ' ∈ Text.strip v →
      2 ≤ (Text.tokens v).length ∧
      (∀ t ∈ Text.tokens v, ∀ r : Query, (r.writeLiteral t m.token).text = r.text ++ clause t) ∧
      ∃ added, q'.text = q.text ++ added ∧
        added = m.mark ++ ['('] ++ m.body v
          ++ ([' ', '('] ++ (Text.tokens v).flatMap clause ++ [')', '^', '0', '.', '5'])
          ++ [')', ' '] ∧
        readLiteral added = some (⟨⟨m.occurrence, m.readings v⟩,
          some ((Text.tokens v).map fun t => ⟨tag, m.readings t⟩)⟩, [])) ∧
    (' ' ∉ Text.strip v →
      q' = q.writeLiteral v { m with split := false } ∧
      (Text.isBlank v = false → ∃ added, q'.text = q.text ++ added ∧
        readLiteral added = some (⟨⟨m.occurrence, m.readings v⟩, none⟩, []))) := by
  intro tag clause q'
  have htext : q'.text = q.text ++ renderLiteral m v := (wrote_writeLiteral hq.sound v m).text
  have hread : Text.isBlank v = false → readLiteral (renderLiteral m v) = some
      (⟨⟨m.occurrence, m.readings v⟩, if m.splits v
        then some ((Text.tokens v).map fun t => ⟨m.token.occurrence, m.readings t⟩) else none⟩, []) := by
    intro hv
    have h := readLiteral_renderLiteral hv m []
    rwa [List.append_nil] at h
  constructor
  · intro hmem
    have hsplits : m.splits v = true := by simp [Modifier.splits, hm, hmem]
    have hv : Text.isBlank v = false := by
      refine Bool.eq_false_iff.mpr fun hblank => ?_
      rw [Text.strip_eq_nil_iff.mpr hblank] at hmem
      cases hmem
    have hclause : ∀ t ∈ Text.tokens v, renderWhole m.token t = clause t := by
      intro t ht
      rw [renderWhole, isBlank_of_mem_tokens ht, if_neg Bool.false_ne_true]
      rfl
    refine ⟨Text.two_le_length_tokens hmem, fun t ht r => ?_, renderLiteral m v, htext, ?_, ?_⟩
    · rw [text_writeLiteral_token (isBlank_of_mem_tokens ht), hclause t ht]
    · rw [renderLiteral, hv, if_neg Bool.false_ne_true, if_pos hsplits, renderTokens,
        flatMap_renderWhole_pieces, List.flatMap_def, List.map_congr_left hclause,
        ← List.flatMap_def]
    · rw [hread hv, if_pos hsplits]
      rfl
  · intro hmem
    have hsplits : m.splits v = false := by simp [Modifier.splits, hmem]
    refine ⟨?_, fun hv => ⟨renderLiteral m v, htext, ?_⟩⟩
    · have hwhole : Modifier.splits { m with split := false } v = false := rfl
      rw [writeLiteral_of_not_splits hwhole]
      exact writeLiteral_of_not_splits hsplits q
    · rw [hread hv, hsplits]
      rfl

/-- Blanks of several kinds: a no-break space and a tab do not separate tokens, and do not make one. -/
theorem Reached.splits_into_tokens_blanks :
    let q := new none ['x']
    let m : Modifier := { occurrence := .prohibited, split := true, fuzziness := some (.int 0) }
    let v := "\u00a0 a\t  b ".toList
    let u := " a\tb ".toList
    q.Reached ∧ m.split = true ∧ ' ' ∈ Text.strip v ∧ ' ' ∉ Text.strip u ∧
      2 ≤ (Text.tokens v).length ∧ ['b'] ∈ Text.tokens v ∧
      ((new none []).writeLiteral ['b'] m.token).text = "+(b~0) ".toList ∧
      (q.writeLiteral v m).text
        = "x-(\u00a0\\ a\t\\ \\ b\\ ~0 (+(a\t~0) +(b~0) )^0.5) ".toList ∧
      Text.isBlank u = false ∧
      q.writeLiteral u m = q.writeLiteral u { m with split := false } := by
  intro q m v u
  have hq : q.Reached := ⟨none, ['x'], [], rfl⟩
  have hv : ' ' ∈ Text.strip v := by decide
  have hu : ' ' ∉ Text.strip u := by decide
  have hb : ['b'] ∈ Text.tokens v := by decide
  obtain ⟨htwo, htoken, -⟩ := (hq.splits_into_tokens (m := m) rfl v).1 hv
  obtain ⟨hsame, -⟩ := (hq.splits_into_tokens (m := m) rfl u).2 hu
  exact ⟨hq, rfl, hv, hu, htwo, hb, (htoken ['b'] hb (new none [])).trans (by decide +kernel),
    by decide +kernel, by decide, hsame⟩

end Query

end SearchQuery
