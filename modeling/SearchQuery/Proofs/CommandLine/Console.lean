/-
  Which control sequences are taken out of what is put out.

  1. **Control sequences** — `IsSequence s`: an escape character and an opening bracket, then parameters,
     intermediate characters and a final character, which come from three ranges without a character in
     common.  So it is plain where a sequence ends (`sequenceEnd?_eq_some_iff`).
  2. **Taking out** — a sequence at the start of a text is passed over (`withoutSequences_sequence`), any other
     character is kept (`withoutSequences_cons`).
  3. **When nothing is taken out (`withoutSequences_eq_self_iff`)** — exactly when no sequence stands in the
     text, and certainly when no escape character does.  Then, and only then, a line gives back a text that
     was put out but for its last blank (`exists_line_iff`).
-/
import SearchQuery.CommandLine.Console

namespace SearchQuery.CommandLine

/-! ## Control sequences -/

/-- Whether a character may be a parameter of a control sequence. -/
def isParameter (c : Char) : Bool := '0' ≤ c && c ≤ '?'

/-- Whether a character may stand behind the parameters of a control sequence. -/
def isIntermediate (c : Char) : Bool := ' ' ≤ c && c ≤ '/'

/-- Whether a character may end a control sequence. -/
def isFinal (c : Char) : Bool := '@' ≤ c && c ≤ '~'

/-- A text that is a control sequence from its start to its end. -/
def IsSequence (s : Text) : Prop :=
  ∃ parameters intermediates final, s = '\x1b' :: '[' :: (parameters ++ intermediates ++ [final]) ∧
    (∀ c ∈ parameters, isParameter c = true) ∧ (∀ c ∈ intermediates, isIntermediate c = true) ∧
    isFinal final = true

variable {t s body rest : Text} {c : Char} {n : Nat}

theorem not_isParameter (h : isIntermediate c = true ∨ isFinal c = true) : isParameter c = false := by
  simp only [isIntermediate, isFinal, isParameter, Bool.and_eq_true, Bool.and_eq_false_iff,
    decide_eq_true_eq, decide_eq_false_iff_not, Char.le_def, UInt32.le_iff_toNat_le] at h ⊢
  change 32 ≤ _ ∧ _ ≤ 47 ∨ 64 ≤ _ ∧ _ ≤ 126 at h
  change ¬ 48 ≤ _ ∨ ¬ _ ≤ 63
  omega

theorem not_isIntermediate (h : isFinal c = true) : isIntermediate c = false := by
  simp only [isIntermediate, isFinal, Bool.and_eq_true, Bool.and_eq_false_iff,
    decide_eq_true_eq, decide_eq_false_iff_not, Char.le_def, UInt32.le_iff_toNat_le] at h ⊢
  change 64 ≤ _ ∧ _ ≤ 126 at h
  change ¬ 32 ≤ _ ∨ ¬ _ ≤ 47
  omega

theorem dropWhile_append_cons {p : Char → Bool} (hall : ∀ d ∈ t, p d = true) (hc : p c = false) :
    (t ++ c :: rest).dropWhile p = c :: rest := by
  rw [List.dropWhile_append_of_pos hall, List.dropWhile_cons_of_neg (by simp [hc])]

/-- What a text begins with, as far as its characters are of a kind, and what stands behind. -/
theorem exists_eq_append_dropWhile (p : Char → Bool) (t : Text) :
    ∃ u, (∀ d ∈ u, p d = true) ∧ t = u ++ t.dropWhile p :=
  ⟨t.takeWhile p, List.all_eq_true.mp List.all_takeWhile, List.takeWhile_append_dropWhile.symm⟩

/-- What stands behind a final character at the start. -/
def afterFinal? : Text → Option Text
  | [] => none
  | c :: rest => if isFinal c then some rest else none

theorem sequenceEnd?_eq (body : Text) :
    sequenceEnd? body = afterFinal? ((body.dropWhile isParameter).dropWhile isIntermediate) := by
  rw [sequenceEnd?]
  generalize hrest : List.dropWhile _ (List.dropWhile _ body) = rest
  have hbehind : (body.dropWhile isParameter).dropWhile isIntermediate = rest := hrest
  rw [hbehind]
  cases rest <;> rfl

theorem afterFinal?_eq_some_iff :
    afterFinal? t = some rest ↔ ∃ c, isFinal c = true ∧ t = c :: rest := by
  cases t with
  | nil => simp [afterFinal?]
  | cons d t =>
    rw [afterFinal?]
    constructor
    · intro h
      by_cases hd : isFinal d = true
      · rw [if_pos hd] at h
        exact ⟨d, hd, congrArg _ (Option.some.inj h)⟩
      · rw [if_neg hd] at h
        cases h
    · rintro ⟨c, hc, heq⟩
      obtain ⟨rfl, rfl⟩ := List.cons.inj heq
      exact if_pos hc

/-- **Where a sequence ends** of which the escape character and the bracket are read. -/
theorem sequenceEnd?_eq_some_iff :
    sequenceEnd? body = some rest ↔ ∃ s, IsSequence ('\x1b' :: '[' :: s) ∧ body = s ++ rest := by
  rw [sequenceEnd?_eq, afterFinal?_eq_some_iff]
  constructor
  · rintro ⟨c, hc, hend⟩
    obtain ⟨ps, hps, hbody⟩ := exists_eq_append_dropWhile isParameter body
    obtain ⟨is, his, hbehind⟩ := exists_eq_append_dropWhile isIntermediate (body.dropWhile isParameter)
    rw [hbehind, hend] at hbody
    exact ⟨ps ++ is ++ [c], ⟨ps, is, c, rfl, hps, his, hc⟩, by simpa using hbody⟩
  · rintro ⟨_, ⟨ps, is, c, heq, hps, his, hc⟩, rfl⟩
    obtain rfl := (List.cons.inj (List.cons.inj heq).2).2
    have hfinal : (is ++ c :: rest).dropWhile isIntermediate = c :: rest :=
      dropWhile_append_cons his (not_isIntermediate hc)
    have hbehind : (ps ++ (is ++ c :: rest)).dropWhile isParameter = is ++ c :: rest := by
      cases is with
      | nil => exact dropWhile_append_cons hps (not_isParameter (.inr hc))
      | cons d is => exact dropWhile_append_cons hps (not_isParameter (.inl (his d List.mem_cons_self)))
    have hbody : ps ++ is ++ [c] ++ rest = ps ++ (is ++ c :: rest) := by simp
    exact ⟨c, hc, by rw [hbody, hbehind, hfinal]⟩

theorem IsSequence.head (h : IsSequence s) : ∃ body, s = '\x1b' :: '[' :: body := by
  obtain ⟨ps, is, c, rfl, -⟩ := h
  exact ⟨_, rfl⟩

/-! ## Taking out -/

theorem dropSequences_sequence (h : IsSequence s) (n : Nat) (rest : Text) :
    dropSequences (n + 1) (s ++ rest) = dropSequences n rest := by
  obtain ⟨body, rfl⟩ := h.head
  have hend : sequenceEnd? (body ++ rest) = some rest := sequenceEnd?_eq_some_iff.mpr ⟨body, h, rfl⟩
  simp only [List.cons_append, dropSequences, hend]

theorem dropSequences_cons (h : ∀ s, IsSequence s → ¬ s <+: c :: t) (n : Nat) :
    dropSequences (n + 1) (c :: t) = c :: dropSequences n t := by
  by_cases hlead : ∃ body, c :: t = '\x1b' :: '[' :: body
  · obtain ⟨body, heq⟩ := hlead
    obtain ⟨rfl, rfl⟩ := List.cons.inj heq
    cases hend : sequenceEnd? body with
    | none => simp only [dropSequences, hend]
    | some rest =>
      obtain ⟨s, hs, rfl⟩ := sequenceEnd?_eq_some_iff.mp hend
      exact absurd (List.prefix_append _ rest) (h _ hs)
  · rw [dropSequences]
    rintro body rfl rfl
    exact hlead ⟨body, rfl⟩

/-- A text begins with a control sequence or it does not. -/
theorem begins_or_not (t : Text) :
    (∃ s rest, IsSequence s ∧ t = s ++ rest) ∨ ∀ s, IsSequence s → ¬ s <+: t := by
  by_cases h : ∃ s rest, IsSequence s ∧ t = s ++ rest
  · exact .inl h
  · exact .inr fun s hs ⟨rest, hrest⟩ => h ⟨s, rest, hs, hrest.symm⟩

/-- Enough fuel is enough. -/
theorem dropSequences_eq : ∀ {n n' : Nat} {t : Text}, t.length ≤ n → t.length ≤ n' →
    dropSequences n t = dropSequences n' t
  | 0, 0, _, _, _ => rfl
  | 0, _ + 1, [], _, _ => rfl
  | _ + 1, 0, [], _, _ => rfl
  | _ + 1, _ + 1, [], _, _ => rfl
  | n + 1, n' + 1, c :: t, h, h' => by
    rw [List.length_cons] at h h'
    rcases begins_or_not (c :: t) with ⟨s, rest, hs, heq⟩ | hnone
    · have hshorter : rest.length ≤ t.length := by
        obtain ⟨body, rfl⟩ := hs.head
        have hlength := congrArg List.length heq
        simp only [List.length_cons, List.length_append] at hlength
        omega
      rw [heq, dropSequences_sequence hs, dropSequences_sequence hs]
      exact dropSequences_eq (by omega) (by omega)
    · rw [dropSequences_cons hnone, dropSequences_cons hnone,
        dropSequences_eq (Nat.le_of_succ_le_succ h) (Nat.le_of_succ_le_succ h')]

theorem dropSequences_sublist (n : Nat) (t : Text) : (dropSequences n t).Sublist t := by
  induction n generalizing t with
  | zero => exact List.Sublist.refl t
  | succ n ih =>
    cases t with
    | nil => exact List.Sublist.refl []
    | cons c t =>
      rcases begins_or_not (c :: t) with ⟨s, rest, hs, heq⟩ | hnone
      · rw [heq, dropSequences_sequence hs]
        exact (ih rest).trans (List.sublist_append_right s rest)
      · rw [dropSequences_cons hnone]
        exact (ih t).cons_cons c

/-- **A sequence at the start is passed over.** -/
theorem withoutSequences_sequence (h : IsSequence s) (rest : Text) :
    withoutSequences (s ++ rest) = withoutSequences rest := by
  obtain ⟨body, rfl⟩ := h.head
  have hlength : rest.length ≤ body.length + 1 + rest.length := by omega
  have hfuel : ('\x1b' :: '[' :: body ++ rest).length = body.length + 1 + rest.length + 1 := by
    simp only [List.cons_append, List.length_cons, List.length_append]
    omega
  rw [withoutSequences, hfuel, dropSequences_sequence h]
  exact dropSequences_eq hlength (Nat.le_refl _)

/-- **Any other character is kept.** -/
theorem withoutSequences_cons (h : ∀ s, IsSequence s → ¬ s <+: c :: t) :
    withoutSequences (c :: t) = c :: withoutSequences t :=
  dropSequences_cons h t.length

/-! ## When nothing is taken out -/

/-- **A text is put out unchanged** exactly when no control sequence stands in it. -/
theorem withoutSequences_eq_self_iff :
    withoutSequences t = t ↔ ∀ s, IsSequence s → ¬ s <:+: t := by
  induction t with
  | nil =>
    refine iff_of_true rfl fun s hs hin => ?_
    obtain ⟨body, rfl⟩ := hs.head
    cases List.infix_nil.mp hin
  | cons c t ih =>
    rcases begins_or_not (c :: t) with ⟨s, rest, hs, heq⟩ | hnone
    · rw [heq]
      refine iff_of_false (fun hself => ?_) fun hno => hno s hs (List.prefix_append s rest).isInfix
      have hshort := (dropSequences_sublist rest.length rest).length_le
      rw [withoutSequences_sequence hs] at hself
      have hlength := congrArg List.length hself
      obtain ⟨body, rfl⟩ := hs.head
      simp only [withoutSequences, List.cons_append, List.length_cons, List.length_append] at hlength
      omega
    · rw [withoutSequences_cons hnone, List.cons.injEq, and_iff_right rfl, ih]
      refine forall_congr' fun s => imp_congr_right fun hs => not_congr ?_
      rw [List.infix_cons_iff, or_iff_right (hnone s hs)]

/-- A blank at the end of a text belongs to no control sequence. -/
theorem IsSequence.infix_append_blank_iff (h : IsSequence s) : s <:+: t ++ [' '] ↔ s <:+: t := by
  rw [List.infix_concat_iff, or_iff_right]
  rintro ⟨u, hu⟩
  obtain ⟨ps, is, c, rfl, -, -, hc⟩ := h
  have hlast := congrArg List.getLast? hu
  rw [← List.cons_append, ← List.cons_append, ← List.append_assoc, List.getLast?_concat,
    List.getLast?_concat] at hlast
  obtain rfl := Option.some.inj hlast
  exact absurd hc (by decide)

/-- **A line gives a text back** that was put out without its last blank, exactly when no control sequence
    stands in the text. -/
theorem exists_line_iff {u : Text} (hu : u ++ [' '] = t) :
    (∃ v, plain u = v ++ ['\n'] ∧ v ++ [' '] = t) ↔ ∀ s, IsSequence s → ¬ s <:+: t := by
  have hkept : withoutSequences u = u ↔ ∀ s, IsSequence s → ¬ s <:+: t := by
    rw [withoutSequences_eq_self_iff, ← hu]
    exact forall_congr' fun s => imp_congr_right fun hs => not_congr hs.infix_append_blank_iff.symm
  rw [← hkept]
  constructor
  · rintro ⟨v, hline, hv⟩
    have hput : withoutSequences u = v := List.append_cancel_right hline
    rw [hput]
    exact List.append_cancel_right (hv.trans hu.symm)
  · intro hself
    exact ⟨u, congrArg (· ++ ['\n']) hself, hu⟩

end SearchQuery.CommandLine
