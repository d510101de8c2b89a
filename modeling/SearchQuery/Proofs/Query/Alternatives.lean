/-
  The alternatives of a literal, read back.

  A literal is written up to three times: as a phrase, as a beginning of words, with a fuzziness.  A
  phrase and a word are escaped in different ways, and every character that tells the alternatives
  apart may stand in the literal too.  Here what stands in the parentheses is read from left to right,
  without knowing what was written.

  1. **Reading** — `readAlternative` takes a phrase up to its first bare quote and a word up to the
     first reserved character that stands bare; what comes there says how the word matches.
     `readAlternatives` goes on behind a single bare blank.
  2. **One alternative (`readAlternative_written`)** — is read as what it is of, whatever stands behind
     it, as long as that begins with a blank or a closing parenthesis.
  3. **All alternatives (`Modifier.alternatives_agree`)** — by induction on them: those that are read
     are those that the modifier asks for, and each of them is of the literal that was written.
-/
import SearchQuery.Proofs.Number.Alphabet
import SearchQuery.Proofs.Text.Bare

namespace SearchQuery

open Text (escapeIf escapeAll escapeAll_eq phrase_eq isQuote isReserved isPhraseMark untilBare decode
  untilBare_stop untilBare_escapeIf untilBare_escapeIf_stop)

/-! ## Reading -/

/-- A way of matching a literal, and the literal that it is of. -/
inductive Alternative where
  /-- the whole text at double weight: `"…"^2` -/
  | phrase (v : Text)
  /-- the text as a beginning of words: `…*` -/
  | beginning (v : Text)
  /-- the text with a fuzziness: `…~f` -/
  | fuzzy (v fuzziness : Text)
  /-- the text alone -/
  | word (v : Text)
  deriving DecidableEq, Repr

/-- The literal that an alternative is of. -/
def Alternative.literal : Alternative → Text
  | .phrase v | .beginning v | .fuzzy v _ | .word v => v

/-- Whether a bare character ends an alternative. -/
def Text.isBreak (c : Char) : Bool := c == ' ' || c == ')'

/-- Reads a phrase behind its opening quote.  The first quote that stands bare closes it. -/
def readPhrase (t : Text) : Option (Alternative × Text) :=
  match untilBare isQuote t with
  | (inner, '"' :: '^' :: '2' :: rest) => (decode inner).map fun v => (.phrase v, rest)
  | _ => none

/-- Reads a word.  The first reserved character that stands bare ends it, and says how it matches. -/
def readWord (t : Text) : Option (Alternative × Text) :=
  match untilBare isReserved t with
  | (inner, '*' :: rest) => (decode inner).map fun v => (.beginning v, rest)
  | (inner, '~' :: rest) =>
    (decode inner).map fun v => (.fuzzy v (untilBare Text.isBreak rest).1,
      (untilBare Text.isBreak rest).2)
  | (inner, rest) => (decode inner).map fun v => (.word v, rest)

/-- Reads one alternative, and gives back what stands behind it. -/
def readAlternative : Text → Option (Alternative × Text)
  | '"' :: t => readPhrase t
  | t => readWord t

theorem length_readPhrase_le {t rest : Text} {a : Alternative} (h : readPhrase t = some (a, rest)) :
    rest.length ≤ t.length := by
  have hle := Text.length_untilBare_le isQuote t
  unfold readPhrase at h
  split at h
  · rename_i inner rest' huntil
    obtain ⟨v, -, hv⟩ := Option.map_eq_some_iff.mp h
    obtain rfl : rest' = rest := (Prod.mk.inj hv).2
    rw [huntil] at hle
    simp only [List.length_cons] at hle
    omega
  · cases h

theorem length_readWord_le {t rest : Text} {a : Alternative} (h : readWord t = some (a, rest)) :
    rest.length ≤ t.length := by
  have hle := Text.length_untilBare_le isReserved t
  unfold readWord at h
  split at h
  · rename_i inner rest' huntil
    obtain ⟨v, -, hv⟩ := Option.map_eq_some_iff.mp h
    obtain rfl : rest' = rest := (Prod.mk.inj hv).2
    rw [huntil, List.length_cons] at hle
    omega
  · rename_i inner rest' huntil
    obtain ⟨v, -, hv⟩ := Option.map_eq_some_iff.mp h
    have hbreak := Text.length_untilBare_le Text.isBreak rest'
    rw [(Prod.mk.inj hv).2] at hbreak
    rw [huntil, List.length_cons] at hle
    omega
  · rename_i inner rest' _ _ huntil
    obtain ⟨v, -, hv⟩ := Option.map_eq_some_iff.mp h
    obtain rfl : rest' = rest := (Prod.mk.inj hv).2
    rw [huntil] at hle
    exact hle

theorem length_readAlternative_le {t rest : Text} {a : Alternative}
    (h : readAlternative t = some (a, rest)) : rest.length ≤ t.length := by
  unfold readAlternative at h
  split at h
  · exact Nat.le_succ_of_le (length_readPhrase_le h)
  · exact length_readWord_le h

/-- Reads alternatives that are separated by single blanks.  A blank with a parenthesis behind it
    does not separate alternatives. -/
def readAlternatives (t : Text) : Option (List Alternative × Text) :=
  match _hread : readAlternative t with
  | none => none
  | some (a, ' ' :: '(' :: rest) => some ([a], ' ' :: '(' :: rest)
  | some (a, ' ' :: rest) => (readAlternatives rest).map fun (as, rest) => (a :: as, rest)
  | some (a, rest) => some ([a], rest)
termination_by t.length
decreasing_by
  have hle := length_readAlternative_le _hread
  rw [List.length_cons] at hle
  omega

theorem length_readAlternatives_le {t rest : Text} {as : List Alternative}
    (h : readAlternatives t = some (as, rest)) : rest.length ≤ t.length := by
  fun_induction readAlternatives t generalizing as rest with
  | case1 t _ => cases h
  | case2 t a r hread =>
    obtain ⟨-, rfl⟩ := Prod.mk.inj (Option.some.inj h)
    exact length_readAlternative_le hread
  | case3 t a r _ hread ih =>
    obtain ⟨⟨bs, rest'⟩, hmore, heq⟩ := Option.map_eq_some_iff.mp h
    obtain rfl : rest' = rest := (Prod.mk.inj heq).2
    have hfirst := length_readAlternative_le hread
    have hrest := ih hmore
    rw [List.length_cons] at hfirst
    omega
  | case4 t a r _ _ hread =>
    obtain ⟨-, rfl⟩ := Prod.mk.inj (Option.some.inj h)
    exact length_readAlternative_le hread

/-! ## One alternative -/

/-- An alternative as it is written. -/
def Alternative.written : Alternative → Text
  | .phrase v => SearchQuery.phrase v ++ ['^', '2']
  | .beginning v => escapeAll v ++ ['*']
  | .fuzzy v f => escapeAll v ++ '~' :: f
  | .word v => escapeAll v

/-- The fuzziness of an alternative, if it has one, is written without marks and breaks. -/
def Alternative.Plain : Alternative → Prop
  | .fuzzy _ f => ∀ c ∈ f, c ≠ '\\' ∧ Text.isBreak c = false
  | _ => True

/-- What may stand behind an alternative: nothing, or something that begins with a break. -/
def Text.Breaks (t : Text) : Prop := ∀ c r, t = c :: r → isBreak c = true

theorem Text.breaks_nil : Text.Breaks [] := fun _ _ h => nomatch h

theorem Text.breaks_cons {c : Char} (hc : isBreak c = true) (t : Text) : Text.Breaks (c :: t) := by
  intro d r h
  rw [← (List.cons.inj h).1]
  exact hc

/-- A break stops every reader that looks for breaks. -/
theorem Text.Breaks.untilBare {t : Text} (h : t.Breaks) {p : Char → Bool}
    (hp : ∀ c, isBreak c = true → p c = true) : untilBare p t = ([], t) := by
  cases t with
  | nil => rfl
  | cons c t =>
    have hc := h c t rfl
    refine untilBare_stop ?_ (hp c hc) t
    rintro rfl
    exact absurd hc (by decide)

theorem isReserved_of_isBreak {c : Char} (hc : Text.isBreak c = true) : isReserved c = true := by
  obtain rfl | rfl : c = ' ' ∨ c = ')' := by simpa [Text.isBreak] using hc
  · decide
  · decide

theorem isPhraseMark_of_isQuote (c : Char) (hc : isQuote c = true) : isPhraseMark c = true := by
  simp [isPhraseMark, hc]

/-- What begins with an escaped word begins with no quote, and is read as a word. -/
theorem readAlternative_escapeAll (v : Text) {r : Text} (hr : ∀ u, r ≠ '"' :: u) :
    readAlternative (escapeAll v ++ r) = readWord (escapeAll v ++ r) := by
  have hquote : ∀ u, escapeAll v ++ r ≠ '"' :: u := by
    rw [escapeAll_eq]
    cases v with
    | nil => exact hr
    | cons a s => exact Text.escapeIf_cons_ne_stop (by decide) a s r
  unfold readAlternative
  split
  · rename_i t ht
    exact absurd ht (hquote t)
  · rfl

/-- A word ends at the reserved character behind it. -/
theorem untilBare_escapeAll {c : Char} (hc : isReserved c = true ∧ c ≠ '\\') (v r : Text) :
    untilBare isReserved (escapeAll v ++ c :: r) = (escapeAll v, c :: r) := by
  rw [escapeAll_eq]
  exact untilBare_escapeIf_stop (by decide) (fun _ h => h) hc.2 hc.1 v r

theorem decode_escapeAll (v : Text) : decode (escapeAll v) = some v := by
  rw [escapeAll_eq]
  exact Text.decode_escapeIf (by decide) v

/-- **An alternative is read as what it is.** -/
theorem readAlternative_written {a : Alternative} (ha : a.Plain) {rest : Text}
    (hrest : rest.Breaks) : readAlternative (a.written ++ rest) = some (a, rest) := by
  cases a with
  | phrase v =>
    have huntil : untilBare isQuote (escapeIf isPhraseMark v ++ '"' :: '^' :: '2' :: rest)
        = (escapeIf isPhraseMark v, '"' :: '^' :: '2' :: rest) :=
      untilBare_escapeIf_stop (by decide) isPhraseMark_of_isQuote (by decide) (by decide) v _
    have hdecode : decode (escapeIf isPhraseMark v) = some v := Text.decode_escapeIf (by decide) v
    simp [Alternative.written, phrase_eq, readAlternative, readPhrase, huntil, hdecode]
  | beginning v =>
    have huntil := untilBare_escapeAll (c := '*') (by decide) v rest
    rw [Alternative.written, List.append_assoc, readAlternative_escapeAll v (by simp)]
    simp [readWord, huntil, decode_escapeAll]
  | fuzzy v f =>
    have huntil := untilBare_escapeAll (c := '~') (by decide) v (f ++ rest)
    have hbreak : untilBare Text.isBreak (f ++ rest) = (f, rest) := by
      rw [Text.untilBare_plain ha, hrest.untilBare fun _ h => h, List.append_nil]
    rw [Alternative.written, List.append_assoc, readAlternative_escapeAll v (by simp)]
    simp [readWord, huntil, hbreak, decode_escapeAll]
  | word v =>
    have huntil : untilBare isReserved (escapeAll v ++ rest) = (escapeAll v, rest) := by
      rw [escapeAll_eq, untilBare_escapeIf (by decide) fun _ h => h,
        hrest.untilBare fun _ => isReserved_of_isBreak, List.append_nil]
    have hquote : ∀ u, rest ≠ '"' :: u := by
      rintro u rfl
      exact absurd (hrest '"' u rfl) (by decide)
    rw [Alternative.written, readAlternative_escapeAll v hquote, readWord, huntil]
    split
    · rename_i r heq
      exact absurd (hrest '*' r (Prod.mk.inj heq).2) (by decide)
    · rename_i r heq
      exact absurd (hrest '~' r (Prod.mk.inj heq).2) (by decide)
    · rename_i inner r _ _ heq
      obtain ⟨rfl, rfl⟩ := Prod.mk.inj heq
      rw [decode_escapeAll, Option.map_some]

/-! ## All alternatives -/

/-- What may stand behind the alternatives of a literal: nothing, the end of its clause, or the
    clauses of its tokens. -/
def Text.EndsLiteral (t : Text) : Prop := t = [] ∨ (∃ r, t = ')' :: r) ∨ ∃ r, t = ' ' :: '(' :: r

theorem Text.EndsLiteral.breaks {t : Text} (h : t.EndsLiteral) : t.Breaks := by
  rcases h with rfl | ⟨r, rfl⟩ | ⟨r, rfl⟩
  · exact breaks_nil
  · exact breaks_cons (by decide) r
  · exact breaks_cons (by decide) ('(' :: r)

/-- The last alternative. -/
theorem readAlternatives_last {t rest : Text} {a : Alternative}
    (h : readAlternative t = some (a, rest)) (hrest : rest.EndsLiteral) :
    readAlternatives t = some ([a], rest) := by
  rcases hrest with rfl | ⟨r, rfl⟩ | ⟨r, rfl⟩
  · rw [readAlternatives, h]
  · rw [readAlternatives, h]; rfl
  · rw [readAlternatives, h]; rfl

/-- An alternative with more of them behind a blank. -/
theorem readAlternatives_more {t rest : Text} {a : Alternative}
    (h : readAlternative t = some (a, ' ' :: rest)) (hrest : ∀ r, rest ≠ '(' :: r) :
    readAlternatives t = (readAlternatives rest).map fun (as, rest) => (a :: as, rest) := by
  rw [readAlternatives, h]
  split
  · rename_i heq; cases heq
  · rename_i b r heq
    cases heq
    exact absurd rfl (hrest r)
  · rename_i b r _ heq
    cases heq
    rfl
  · rename_i b r _ hmore heq
    cases heq
    exact absurd rfl (hmore rest)

/-- No alternative begins like the clauses of tokens. -/
theorem Alternative.written_ne_opening (a : Alternative) {rest : Text} (hrest : rest.Breaks)
    (r : Text) : a.written ++ rest ≠ '(' :: r := by
  have hword : ∀ (v u : Text), (∀ r, u ≠ '(' :: r) → escapeAll v ++ u ≠ '(' :: r := by
    intro v u hu
    rw [escapeAll_eq]
    cases v with
    | nil => exact hu r
    | cons c s => exact Text.escapeIf_cons_ne_stop (by decide) c s u r
  cases a with
  | phrase v => simp [written, phrase_eq]
  | beginning v => rw [written, List.append_assoc]; exact hword v _ (by simp)
  | fuzzy v f => rw [written, List.append_assoc]; exact hword v _ (by simp)
  | word v =>
    refine hword v rest ?_
    rintro u rfl
    exact absurd (hrest '(' u rfl) (by decide)

/-- **Alternatives are read one after the other**, whatever ends them. -/
theorem readAlternatives_join : ∀ (a : Alternative) (as : List Alternative),
    (∀ b ∈ a :: as, b.Plain) → ∀ {rest : Text}, rest.EndsLiteral →
      readAlternatives (Text.join [' '] ((a :: as).map Alternative.written) ++ rest)
        = some (a :: as, rest)
  | a, [], hplain, rest, hrest =>
    readAlternatives_last
      (readAlternative_written (hplain a List.mem_cons_self) hrest.breaks) hrest
  | a, b :: bs, hplain, rest, hrest => by
    have htail := readAlternatives_join b bs
      (fun c hc => hplain c (List.mem_cons_of_mem a hc)) hrest
    -- Behind the blank stands the next alternative, and behind that one a break.
    have hnext : ∃ u : Text, u.Breaks ∧
        Text.join [' '] ((b :: bs).map Alternative.written) ++ rest = b.written ++ u := by
      cases bs with
      | nil => exact ⟨rest, hrest.breaks, rfl⟩
      | cons c cs =>
        refine ⟨' ' :: (Text.join [' '] ((c :: cs).map Alternative.written) ++ rest),
          Text.breaks_cons (by decide) _, ?_⟩
        simp [Text.join]
    have hjoin : Text.join [' '] ((a :: b :: bs).map Alternative.written) ++ rest
        = a.written ++ ' ' :: (Text.join [' '] ((b :: bs).map Alternative.written) ++ rest) := by
      simp [Text.join]
    have hfirst := readAlternative_written (hplain a List.mem_cons_self)
      (Text.breaks_cons (c := ' ') (by decide)
        (Text.join [' '] ((b :: bs).map Alternative.written) ++ rest))
    obtain ⟨u, hu, hstart⟩ := hnext
    rw [hjoin, readAlternatives_more hfirst fun r => by rw [hstart]; exact b.written_ne_opening hu r,
      htail, Option.map_some]

/-! ## The alternatives of a literal -/

/-- What a reader has to find in the place of a literal: a phrase and a beginning of words if the
    modifier is wildcarded, a fuzzy word if it has a fuzziness, and a word if it is neither. -/
def Modifier.readings (m : Modifier) (v : Text) : List Alternative :=
  (if m.wildcarded then [.phrase v, .beginning v] else [])
    ++ match m.fuzziness with
      | some f => [.fuzzy v f.text]
      | none => if m.wildcarded then [] else [.word v]

theorem Modifier.alternatives_eq_map (m : Modifier) (v : Text) :
    m.alternatives v = (m.readings v).map Alternative.written := by
  rw [alternatives_eq]
  unfold readings
  cases m.wildcarded <;> cases m.fuzziness <;> rfl

theorem Number.plain_text (f : Number) : ∀ c ∈ f.text, c ≠ '\\' ∧ Text.isBreak c = false := by
  have hall : alphabet.all (fun c => c != '\\' && !Text.isBreak c) = true := by decide
  intro c hc
  simpa using List.all_eq_true.mp hall c (f.forall_mem_text c hc)

theorem Modifier.plain_readings (m : Modifier) (v : Text) : ∀ a ∈ m.readings v, a.Plain := by
  intro a ha
  unfold readings at ha
  rcases List.mem_append.mp ha with ha | ha
  · split at ha <;> simp only [List.mem_cons, List.not_mem_nil, or_false] at ha
    rcases ha with rfl | rfl <;> trivial
  · split at ha
    · obtain rfl := List.mem_singleton.mp ha
      exact Number.plain_text _
    · split at ha <;> simp only [List.mem_cons, List.not_mem_nil, or_false] at ha
      obtain rfl := ha
      trivial

theorem Modifier.exists_readings_eq_cons (m : Modifier) (v : Text) :
    ∃ a as, m.readings v = a :: as := by
  unfold readings
  cases m.wildcarded <;> cases m.fuzziness <;> exact ⟨_, _, rfl⟩

/-- What is written for a literal is read, up to whatever ends it. -/
theorem Modifier.readAlternatives_body (m : Modifier) (v : Text) {rest : Text}
    (hrest : rest.EndsLiteral) : readAlternatives (m.body v ++ rest) = some (m.readings v, rest) := by
  have hplain := m.plain_readings v
  obtain ⟨a, as, has⟩ := m.exists_readings_eq_cons v
  rw [has] at hplain
  rw [body, alternatives_eq_map, has]
  exact readAlternatives_join a as hplain hrest

/-- **All alternatives of a literal are of the same literal.**  What stands in the parentheses is read
    as the alternatives that the modifier asks for and nothing else: a phrase which its first bare
    quote closes and a beginning of words, if it is wildcarded; a word with its fuzziness, if it has
    one; a word alone, if it is neither.  Whichever way it was escaped, each of them is decoded to the
    literal. -/
theorem Modifier.alternatives_agree (m : Modifier) (v : Text) :
    readAlternatives (m.body v) = some (
      (if m.wildcarded then [.phrase v, .beginning v] else [])
        ++ (match m.fuzziness with
          | some f => [.fuzzy v f.text]
          | none => if m.wildcarded then [] else [.word v]), []) := by
  have hends : Text.EndsLiteral [] := .inl rfl
  have h := m.readAlternatives_body v hends
  rwa [List.append_nil] at h

example : readAlternatives "\"a b\"^2 a\\ b*" =
    some ([.phrase "a b".toList, .beginning "a b".toList], []) := by cbv

end SearchQuery
