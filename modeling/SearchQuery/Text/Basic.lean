/-
  Texts, and the three ways of taking one apart.

  A text is the list of its characters, so a length or a position counts characters and every
  function below is a plain recursion on the list.

  1. `pieces c t` — the parts of `t` between the occurrences of the character `c`; there is always
     at least one.
  2. `cut sep t` — the parts before and after the FIRST occurrence of `sep`, or nothing when `sep`
     does not occur.
  3. `lines t` — the pieces at the line feeds.
-/

namespace SearchQuery

/-- A text, as the list of its characters. -/
abbrev Text := List Char

/-- A string literal may stand where a text is expected. -/
scoped instance : Coe String Text := ⟨String.toList⟩

namespace Text

/-- The parts of a text between the occurrences of `c`.  A text without `c` is its own only part,
    the empty text included. -/
def pieces (c : Char) : Text → List Text
  | [] => [[]]
  | d :: t =>
    if d = c then [] :: pieces c t
    else match pieces c t with
      | [] => [[d]]
      | p :: ps => (d :: p) :: ps

/-- Parts joined by a separator. -/
def join (sep : Text) : List Text → Text
  | [] => []
  | [t] => t
  | t :: ts => t ++ sep ++ join sep ts

/-- The pieces of a text between its line feeds. -/
def lines (t : Text) : List Text := pieces '\n' t

/-- `dropLead? p t` — what follows `p` at the start of `t`. -/
def dropLead? : Text → Text → Option Text
  | [], t => some t
  | _ :: _, [] => none
  | c :: p, d :: t => if c = d then dropLead? p t else none

/-- The parts before and after the first occurrence of `sep`. -/
def cut (sep : Text) : Text → Option (Text × Text)
  | [] => (dropLead? sep []).map fun rest => ([], rest)
  | c :: t =>
    match dropLead? sep (c :: t) with
    | some rest => some ([], rest)
    | none => (cut sep t).map fun (before, after) => (c :: before, after)

/-! ## What taking a text apart gives -/

theorem pieces_ne_nil (c : Char) (t : Text) : pieces c t ≠ [] := by
  cases t with
  | nil => simp [pieces]
  | cons d t =>
    rw [pieces]
    split
    · simp
    · split <;> simp

theorem dropLead?_eq_some {p t rest : Text} (h : dropLead? p t = some rest) : t = p ++ rest := by
  induction p generalizing t with
  | nil => simpa [dropLead?] using h
  | cons c p ih =>
    cases t with
    | nil => simp [dropLead?] at h
    | cons d t =>
      rw [dropLead?] at h
      split at h
      · rename_i hc; subst hc; rw [ih h]; rfl
      · exact absurd h (by simp)

example : pieces ' ' "a  b" = ["a".toList, [], "b".toList] := by decide
example : cut ['.', '.'] "1...2" = some ("1".toList, ".2".toList) := by decide

end Text
end SearchQuery
