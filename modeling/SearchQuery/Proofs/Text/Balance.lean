/-
  Parentheses that match.

  A scan goes over a text from left to right.  A backslash makes the next character literal, a bare
  double quote opens or closes a phrase, and outside of phrases a parenthesis moves the depth up or
  down (`Scan`).

  1. **Passing over a text** — `s.Passes t s' low`: the scan gets from `s` to `s'`, and its depth
     does not fall below `low` on the way.  Passages compose (`Passes.append`) and may begin at any
     depth (`Passes.raise`).
  2. **Balanced texts** — a text is balanced when the scan of it ends where it began and never falls
     below that.  Balanced texts can be put side by side and into parentheses.
  3. **What is balanced** — a text without marks (`balanced_of_bland`), an escaped text, a phrase.
-/
import SearchQuery.Proofs.Text.Escaped

namespace SearchQuery

/-! ## The scan -/

/-- Where a scan stands: how many parentheses are open, whether it is inside of a phrase, and
    whether the next character is literal. -/
structure Scan where
  depth : Int
  phrase : Bool := false
  escaped : Bool := false
  deriving DecidableEq, Repr

namespace Scan

/-- The scan goes over a character. -/
def step (s : Scan) (c : Char) : Scan :=
  if s.escaped then { s with escaped := false }
  else if c = '\\' then { s with escaped := true }
  else if c = '"' then { s with phrase := !s.phrase }
  else if s.phrase then s
  else if c = '(' then { s with depth := s.depth + 1 }
  else if c = ')' then { s with depth := s.depth - 1 }
  else s

/-- The scan goes over a text. -/
def read (s : Scan) (t : Text) : Scan := t.foldl step s

/-- The scan outside of phrases, with `depth` parentheses open and nothing pending. -/
def outside (depth : Int) : Scan := ⟨depth, false, false⟩

/-- The scan inside of a phrase. -/
def inside (depth : Int) : Scan := ⟨depth, true, false⟩

/-- The scan with all depths raised. -/
def raise (s : Scan) (k : Int) : Scan := { s with depth := s.depth + k }

theorem read_append (s : Scan) (t u : Text) : s.read (t ++ u) = (s.read t).read u :=
  List.foldl_append

theorem step_raise (s : Scan) (k : Int) (c : Char) : (s.raise k).step c = (s.step c).raise k := by
  obtain ⟨depth, phrase, escaped⟩ := s
  have hup : depth + k + 1 = depth + 1 + k := by omega
  have hdown : depth + k - 1 = depth - 1 + k := by omega
  cases escaped with
  | true => rfl
  | false =>
    by_cases hslash : c = '\\'
    · simp [step, raise, hslash]
    · by_cases hquote : c = '"'
      · simp [step, raise, hquote]
      · cases phrase with
        | true => simp [step, raise, hslash, hquote]
        | false =>
          by_cases hopen : c = '('
          · simp [step, raise, hopen, hup]
          · by_cases hclose : c = ')'
            · simp [step, raise, hclose, hdown]
            · simp [step, raise, hslash, hquote, hopen, hclose]

theorem read_raise (k : Int) (t : Text) (s : Scan) : (s.raise k).read t = (s.read t).raise k := by
  induction t generalizing s with
  | nil => rfl
  | cons c t ih =>
    show ((s.raise k).step c).read t = ((s.step c).read t).raise k
    rw [step_raise, ih]

/-! ## Passing over a text -/

/-- The scan gets from `s` to `s'` over `t`, and is never below `low` on the way. -/
structure Passes (s : Scan) (t : Text) (s' : Scan) (low : Int) : Prop where
  ends : s.read t = s'
  above : ∀ p, p <+: t → low ≤ (s.read p).depth

variable {s s' s'' : Scan} {t u : Text} {low : Int}

theorem passes_nil (h : low ≤ s.depth) : s.Passes [] s low :=
  ⟨rfl, fun p hp => by rw [List.prefix_nil.mp hp]; exact h⟩

theorem Passes.cons {c : Char} (h : low ≤ s.depth) (ht : (s.step c).Passes t s' low) :
    s.Passes (c :: t) s' low := by
  refine ⟨ht.ends, fun p hp => ?_⟩
  rcases List.prefix_cons_iff.mp hp with rfl | ⟨p', rfl, hp'⟩
  · exact h
  · exact ht.above p' hp'

theorem Passes.append (h : s.Passes t s' low) (h' : s'.Passes u s'' low) :
    s.Passes (t ++ u) s'' low := by
  refine ⟨by rw [read_append, h.ends, h'.ends], fun p hp => ?_⟩
  rcases List.prefix_or_prefix_of_prefix hp (List.prefix_append t u) with hpt | ⟨p', rfl⟩
  · exact h.above p hpt
  · rw [read_append, h.ends]
    exact h'.above p' ((List.prefix_append_right_inj t).mp hp)

theorem Passes.mono {low' : Int} (h : s.Passes t s' low) (hlow : low' ≤ low) :
    s.Passes t s' low' :=
  ⟨h.ends, fun p hp => Int.le_trans hlow (h.above p hp)⟩

theorem Passes.raise (h : s.Passes t s' low) (k : Int) :
    (s.raise k).Passes t (s'.raise k) (low + k) := by
  refine ⟨by rw [read_raise, h.ends], fun p hp => ?_⟩
  rw [read_raise]
  have := h.above p hp
  show low + k ≤ (s.read p).depth + k
  omega

end Scan

/-! ## Balanced texts -/

/-- The scan of a text ends where it began, outside of phrases and with nothing pending, and its
    depth never falls below zero. -/
def Text.Balanced (t : Text) : Prop :=
  (Scan.outside 0).read t = Scan.outside 0 ∧ ∀ p, p <+: t → 0 ≤ ((Scan.outside 0).read p).depth

/-- A text in which nothing is read as a mark. -/
def Text.Bland (t : Text) : Prop := ∀ c ∈ t, c ∉ ['\\', '"', '(', ')']

instance : DecidablePred Text.Bland := fun t =>
  decidable_of_iff (t.all (fun c => not (['\\', '"', '(', ')'].contains c)) = true) (by
    simp [Text.Bland])

namespace Text

variable {t u : Text}

/-- Over a balanced text the scan stays at the depth at which it begins. -/
theorem Balanced.passes (h : t.Balanced) (d : Int) :
    (Scan.outside d).Passes t (Scan.outside d) d := by
  have hraised := (⟨h.1, h.2⟩ : (Scan.outside 0).Passes t (Scan.outside 0) 0).raise d
  simpa [Scan.raise, Scan.outside] using hraised

theorem Balanced.of_passes (h : (Scan.outside 0).Passes t (Scan.outside 0) 0) : t.Balanced :=
  ⟨h.ends, h.above⟩

theorem balanced_nil : Balanced [] := .of_passes (Scan.passes_nil (Int.le_refl 0))

theorem Balanced.append (ht : t.Balanced) (hu : u.Balanced) : Balanced (t ++ u) :=
  .of_passes ((ht.passes 0).append (hu.passes 0))

/-- A balanced text in parentheses is balanced. -/
theorem Balanced.enclose (ht : t.Balanced) : Balanced ('(' :: t ++ [')']) := by
  have hinner : (Scan.outside 1).Passes t (Scan.outside 1) 0 := (ht.passes 1).mono (by decide)
  have hclose : (Scan.outside 1).Passes [')'] (Scan.outside 0) 0 :=
    .cons (by decide) (Scan.passes_nil (by decide))
  exact .of_passes (.cons (Int.le_refl 0) (hinner.append hclose))

theorem step_outside {c : Char} (hc : c ∉ ['\\', '"', '(', ')']) (d : Int) :
    (Scan.outside d).step c = Scan.outside d := by
  simp only [List.mem_cons, List.not_mem_nil, or_false, not_or] at hc
  simp [Scan.step, Scan.outside, hc]

theorem step_inside {c : Char} (hc : c ∉ ['\\', '"']) (d : Int) :
    (Scan.inside d).step c = Scan.inside d := by
  simp only [List.mem_cons, List.not_mem_nil, or_false, not_or] at hc
  simp [Scan.step, Scan.inside, hc]

/-- A text without marks is balanced. -/
theorem balanced_of_bland (h : t.Bland) : t.Balanced := by
  induction t with
  | nil => exact balanced_nil
  | cons c t ih =>
    refine .of_passes (.cons (Int.le_refl 0) ?_)
    rw [step_outside (h c List.mem_cons_self)]
    exact (ih fun d hd => h d (List.mem_cons_of_mem c hd)).passes 0

theorem balanced_blank : Balanced [' '] := balanced_of_bland (by decide)

theorem balanced_ite {c : Prop} [Decidable c] (ht : t.Balanced) (hu : u.Balanced) :
    Balanced (if c then t else u) := by
  split
  · exact ht
  · exact hu

theorem balanced_flatMap {α : Type} {f : α → Text} {xs : List α}
    (h : ∀ x ∈ xs, Balanced (f x)) : Balanced (xs.flatMap f) := by
  induction xs with
  | nil => exact balanced_nil
  | cons x xs ih =>
    rw [List.flatMap_cons]
    exact (h x List.mem_cons_self).append (ih fun y hy => h y (List.mem_cons_of_mem x hy))

theorem balanced_join {sep : Text} (hsep : sep.Balanced) {ts : List Text}
    (h : ∀ t ∈ ts, t.Balanced) : Balanced (join sep ts) := by
  induction ts with
  | nil => exact balanced_nil
  | cons t ts ih =>
    have ht := h t List.mem_cons_self
    cases ts with
    | nil => exact ht
    | cons u us =>
      exact (ht.append hsep).append (ih fun v hv => h v (List.mem_cons_of_mem t hv))

/-! ## Escaped texts and phrases -/

/-- Over an escaped text the scan stays where it is, outside of a phrase or inside, if every
    character that would move it there is escaped. -/
theorem passes_escapeIf {p : Char → Bool} {s : Scan} (hs : s.escaped = false)
    (hp : ∀ c, p c = false → s.step c = s) (t : Text) :
    s.Passes (escapeIf p t) s s.depth := by
  induction t with
  | nil => exact Scan.passes_nil (Int.le_refl _)
  | cons c t ih =>
    cases hc : p c with
    | false =>
      rw [escapeIf_cons_neg hc]
      exact .cons (Int.le_refl _) (by rw [hp c hc]; exact ih)
    | true =>
      have hback : (s.step '\\').step c = s := by
        obtain ⟨depth, phrase, escaped⟩ := s
        obtain rfl : escaped = false := hs
        simp [Scan.step]
      have hdepth : (s.step '\\').depth = s.depth := by
        simp [Scan.step, hs]
      rw [escapeIf_cons_pos hc]
      refine .cons (Int.le_refl _) (.cons (Int.le_of_eq hdepth.symm) ?_)
      rw [hback]; exact ih

theorem balanced_escapeAll (t : Text) : (escapeAll t).Balanced := by
  rw [escapeAll_eq]
  refine .of_passes (passes_escapeIf rfl (fun c hc => step_outside (fun hmark => ?_) 0) t)
  have hall : List.all ['\\', '"', '(', ')'] isReserved = true := by decide
  rw [List.all_eq_true.mp hall c hmark] at hc
  exact Bool.noConfusion hc

theorem balanced_phrase (t : Text) : (phrase t).Balanced := by
  rw [phrase_eq]
  have hinside : (Scan.inside 0).Passes (escapeIf isPhraseMark t) (Scan.inside 0) 0 := by
    refine passes_escapeIf rfl (fun c hc => step_inside (fun hmark => ?_) 0) t
    have hall : List.all ['\\', '"'] isPhraseMark = true := by decide
    rw [List.all_eq_true.mp hall c hmark] at hc
    exact Bool.noConfusion hc
  refine .of_passes (.cons (Int.le_refl 0) (.append hinside ?_))
  exact .cons (Int.le_refl 0) (Scan.passes_nil (Int.le_refl 0))

end Text
end SearchQuery
