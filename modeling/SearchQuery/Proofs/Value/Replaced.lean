/-
  Values with other queries in them.

  Putting another query in the place of some is as good as reading other texts for these: a value
  with `g` in the place of all queries of a kind is shown, looked at and written like the value
  itself among queries of which those of that kind read like `g`.

  1. **Replacing** — `Value.replace p g` puts `g` in the place of every query that `p` holds of, in
     groups and mappings too, and `Shelf.replace` does so in every stream.  In a mapping it leaves
     templates and forwarders where they are, as these are not described by a text.
  2. **Readers (`shown_replace`, `blankWith_replace`)** — one equation for each reader of values, by
     mutual induction on values and lists of members.
  3. **Terms (`term_replace`)** — where a query stands in for the receiver that holds the text of the
     receiver as it is now, the term is the one of the value itself with that text fixed in it
     (`Term.fixed`).
-/
import SearchQuery.Proofs.Value.Agreement

namespace SearchQuery

/-! ## Replacing -/

namespace Value

mutual

/-- A value with `g` in the place of every query of a kind. -/
def replace (p : Handle → Bool) (g : Handle) : Value → Value
  | .query h => .query (if p h then g else h)
  | .group shape members => .group shape (replaceAll p g members)
  | .mapping entries => .mapping (replaceEntries (fun h => p h && h.isQuery) g entries)
  | .scalar c => .scalar c
  | .byteArray bytes => .byteArray bytes
  | .stream place => .stream place

/-- Values with `g` in the place of every query of a kind. -/
def replaceAll (p : Handle → Bool) (g : Handle) : List Value → List Value
  | [] => []
  | v :: vs => v.replace p g :: replaceAll p g vs

/-- Entries with `g` in the place of every query of a kind in their values. -/
def replaceEntries (p : Handle → Bool) (g : Handle) : List (Scalar × Value) → List (Scalar × Value)
  | [] => []
  | (k, v) :: es => (k, v.replace p g) :: replaceEntries p g es

end

end Value

/-- The shelf with `g` in the place of every query of a kind in all streams. -/
def Shelf.replace (p : Handle → Bool) (g : Handle) (s : Shelf) : Shelf :=
  s.map (Value.replaceAll p g)

/-- Queries of which those of a kind read like `g`. -/
def Queries.through (qs : Queries) (p : Handle → Bool) (g : Handle) : Queries :=
  ⟨fun h => qs.text (if p h then g else h), fun h => qs.modifier (if p h then g else h)⟩

/-- The readings `qs'` describe queries themselves like `qs` does with `g` in the place of those of a
    kind. -/
def Queries.DescribeThrough (qs : Queries) (p : Handle → Bool) (g : Handle) (qs' : Queries) :
    Prop :=
  ∀ h, h.isQuery = true →
    qs'.text h = qs.text (if p h then g else h) ∧ qs'.modifier h = qs.modifier (if p h then g else h)

/-- `g` is a separate query that reads like the receiver does while its text is `own`. -/
structure Surroundings.StandsIn (w : Surroundings) (own : Text) (g : Handle) : Prop where
  query : g.isQuery = true
  apart : w.isReceiver g = false
  text : w.text g = own
  modifier : ∀ h, w.isReceiver h = true → w.modifier h = w.modifier g

namespace Term

mutual

/-- A term in which the text of the receiver is fixed to be `own`. -/
def fixed (own : Text) : Term → Term
  | .receiver => .embedded own
  | .depiction shows => .literal (shows own)
  | .group members => .group (fixedAll own members)
  | .absent => .absent
  | .literal v => .literal v
  | .embedded t => .embedded t

/-- Terms in which the text of the receiver is fixed to be `own`. -/
def fixedAll (own : Text) : List Term → List Term
  | [] => []
  | t :: ts => t.fixed own :: fixedAll own ts

end

end Term

namespace Shelf

variable (p : Handle → Bool) (g : Handle) (s : Shelf)

@[simp] theorem length_replace : (s.replace p g).length = s.length := List.length_map ..

theorem rest_replace (place : Nat) :
    (s.replace p g).rest place = Value.replaceAll p g (s.rest place) := by
  rw [rest, rest, replace, List.getD_eq_getElem?_getD, List.getD_eq_getElem?_getD,
    List.getElem?_map]
  cases s[place]? <;> rfl

theorem put_replace (place : Nat) (members : List Value) :
    (s.replace p g).put place (Value.replaceAll p g members) = (s.put place members).replace p g := by
  rw [put, put, replace, replace, List.map_set]

end Shelf

/-! ## Readers -/

namespace Value

section Kinds

variable (p : Handle → Bool) (g : Handle) (v : Value)

@[simp] theorem isGroup_replace : (v.replace p g).isGroup = v.isGroup := by cases v <;> rfl

@[simp] theorem isLiteral_replace : (v.replace p g).isLiteral = v.isLiteral := by
  cases v <;> rfl

theorem settled_replace (s : Shelf) :
    (v.replace p g).settled (s.replace p g)
      = ((v.settled s).1.replace p g, (v.settled s).2.replace p g) := by
  cases v with
  | group shape members => cases shape <;> rfl
  | stream place =>
    show (Value.group .list ((s.replace p g).rest place), (s.replace p g).put place []) = _
    rw [Shelf.rest_replace]
    exact congrArg (Prod.mk _) (Shelf.put_replace p g s place [])
  | _ => rfl

end Kinds

mutual

/-- No query of the kind is left, if the one in their place is not of it. -/
theorem mentions_replace {p : Handle → Bool} {g : Handle} (hg : p g = false) :
    ∀ v : Value, (v.replace p g).mentions p = false
  | .query h => by
    cases hh : p h <;> simp [replace, mentions, hh, hg]
  | .group _ members => by rw [replace, mentions, anyMentions_replaceAll hg members]
  | .mapping entries => by
    have hg' : (p g && g.isQuery) = false := by rw [hg, Bool.false_and]
    exact anyEntryMentions_replaceEntries (p := fun h => p h && h.isQuery) hg' entries
  | .scalar _ => by simp [replace, mentions]
  | .byteArray _ => by simp [replace, mentions]
  | .stream _ => by simp [replace, mentions]

theorem anyMentions_replaceAll {p : Handle → Bool} {g : Handle} (hg : p g = false) :
    ∀ vs : List Value, anyMentions p (replaceAll p g vs) = false
  | [] => rfl
  | v :: vs => by
    rw [replaceAll, anyMentions, mentions_replace hg v, anyMentions_replaceAll hg vs, Bool.false_or]

theorem anyEntryMentions_replaceEntries {p : Handle → Bool} {g : Handle} (hg : p g = false) :
    ∀ es : List (Scalar × Value), anyEntryMentions p (replaceEntries p g es) = false
  | [] => rfl
  | (_, v) :: es => by
    rw [replaceEntries, anyEntryMentions, mentions_replace hg v,
      anyEntryMentions_replaceEntries hg es, Bool.false_or]

end

section Shown

variable {qs qs' : Queries} {p : Handle → Bool} {g : Handle}

mutual

/-- A value with another query in it, in the place of queries themselves, is shown like the value
    itself where that query is read. -/
theorem shown_replace (hqs : qs.DescribeThrough p g qs') (hg : g.isQuery = true)
    (hp : ∀ h, p h = true → h.isQuery = true) : ∀ v : Value,
    shown qs (v.replace p g) = shown qs' v
  | .query h => by
    show shownHandle qs (if p h then g else h) = shownHandle qs' h
    cases hh : p h with
    | true =>
      obtain ⟨htext, hmodifier⟩ := hqs h (hp h hh)
      rw [hh] at htext hmodifier
      simp [shownHandle, hg, hp h hh, htext, hmodifier]
    | false =>
      cases hquery : h.isQuery with
      | false => simp [shownHandle, hquery]
      | true =>
        obtain ⟨htext, hmodifier⟩ := hqs h hquery
        rw [hh] at htext hmodifier
        simp [shownHandle, hquery, htext, hmodifier]
  | .group .list members =>
    congrArg (fun ts => '[' :: Text.join ", ".toList ts ++ [']'])
      (shownAll_replaceAll hqs hg hp members)
  | .group .tuple [] => rfl
  | .group .tuple [m] => congrArg (fun t => '(' :: t ++ [',', ')']) (shown_replace hqs hg hp m)
  | .group .tuple (m :: m' :: ms) =>
    congrArg (fun ts => '(' :: Text.join ", ".toList ts ++ [')'])
      (shownAll_replaceAll hqs hg hp (m :: m' :: ms))
  | .group .set [] => rfl
  | .group .set (m :: ms) =>
    congrArg (fun ts => '\x7b' :: Text.join ", ".toList ts ++ ['\x7d'])
      (shownAll_replaceAll hqs hg hp (m :: ms))
  | .mapping entries => by
    have hsame : (fun h => p h && h.isQuery) = p := by
      funext h
      cases hh : p h with
      | true => rw [hp h hh]; rfl
      | false => rfl
    rw [replace, hsame]
    exact congrArg (fun ts => '\x7b' :: Text.join ", ".toList ts ++ ['\x7d'])
      (shownEntries_replaceEntries hqs hg hp entries)
  | .scalar _ => rfl
  | .byteArray _ => rfl
  | .stream _ => rfl

theorem shownAll_replaceAll (hqs : qs.DescribeThrough p g qs') (hg : g.isQuery = true)
    (hp : ∀ h, p h = true → h.isQuery = true) : ∀ vs : List Value,
    shownAll qs (replaceAll p g vs) = shownAll qs' vs
  | [] => rfl
  | v :: vs => by
    show shown qs (v.replace p g) :: shownAll qs (replaceAll p g vs)
      = shown qs' v :: shownAll qs' vs
    rw [shown_replace hqs hg hp v, shownAll_replaceAll hqs hg hp vs]

theorem shownEntries_replaceEntries (hqs : qs.DescribeThrough p g qs') (hg : g.isQuery = true)
    (hp : ∀ h, p h = true → h.isQuery = true) : ∀ es : List (Scalar × Value),
    shownEntries qs (replaceEntries p g es) = shownEntries qs' es
  | [] => rfl
  | (k, v) :: es => by
    show (k.shown ++ ": ".toList ++ shown qs (v.replace p g)) :: shownEntries qs (replaceEntries p g es)
      = (k.shown ++ ": ".toList ++ shown qs' v) :: shownEntries qs' es
    rw [shown_replace hqs hg hp v, shownEntries_replaceEntries hqs hg hp es]

end

end Shown

section Readers

variable (qs : Queries) (p : Handle → Bool) {g : Handle}

/-- A literal is written like the literal itself where the query is read that stands in it. -/
theorem written_replace (hg : g.isQuery = true) {v : Value} (hv : v.isLiteral = true) :
    (v.replace p g).written qs = v.written (qs.through p g) := by
  cases v with
  | scalar c => rfl
  | byteArray bytes => rfl
  | mapping entries =>
    -- Only queries themselves are described in a mapping, and these read alike.
    have hthrough : qs.DescribeThrough (fun h => p h && h.isQuery) g (qs.through p g) := by
      intro h hquery
      simp [Queries.through, hquery]
    exact congrArg (fun ts => '\x7b' :: Text.join ", ".toList ts ++ ['\x7d'])
      (shownEntries_replaceEntries hthrough hg (fun h hh => (Bool.and_eq_true_iff.mp hh).2) entries)
  | query h => cases hv
  | stream place => cases hv
  | group shape members => cases hv

/-- A look at a literal touches no stream, so only its text counts. -/
theorem blankWith_replace_of_isLiteral (hg : g.isQuery = true) (look look' : Nat → Shelf → Bool × Shelf) {v : Value}
    (hv : v.isLiteral = true) (s : Shelf) :
    (v.replace p g).blankWith qs look' (s.replace p g)
      = ((v.blankWith (qs.through p g) look s).1,
          (v.blankWith (qs.through p g) look s).2.replace p g) := by
  have hv' : (v.replace p g).isLiteral = true := by rw [isLiteral_replace, hv]
  rw [blankWith_of_isLiteral hv, blankWith_of_isLiteral hv', written_replace qs p hg hv]

variable {look look' : Nat → Shelf → Bool × Shelf}

mutual

theorem blankWith_replace (hg : g.isQuery = true)
    (hlook : ∀ place s, look' place (s.replace p g)
      = ((look place s).1, (look place s).2.replace p g)) :
    ∀ (v : Value) (s : Shelf), (v.replace p g).blankWith qs look' (s.replace p g)
      = ((v.blankWith (qs.through p g) look s).1,
          (v.blankWith (qs.through p g) look s).2.replace p g)
  | .scalar c, s => by
    by_cases hc : c = .null
    · subst hc; rfl
    · exact blankWith_replace_of_isLiteral qs p hg look look' (isLiteral_scalar hc) s
  | .byteArray _, s => blankWith_replace_of_isLiteral qs p hg look look' rfl s
  | .mapping _, s => blankWith_replace_of_isLiteral qs p hg look look' rfl s
  | .query _, _ => rfl
  | .stream place, s => hlook place s
  | .group _ members, s => by
    simp only [replace, blankWith, allBlankWith_replaceAll hg hlook members s]

theorem allBlankWith_replaceAll (hg : g.isQuery = true)
    (hlook : ∀ place s, look' place (s.replace p g)
      = ((look place s).1, (look place s).2.replace p g)) :
    ∀ (vs : List Value) (s : Shelf), allBlankWith qs look' (replaceAll p g vs) (s.replace p g)
      = ((allBlankWith (qs.through p g) look vs s).1,
          replaceAll p g (allBlankWith (qs.through p g) look vs s).2.1,
          (allBlankWith (qs.through p g) look vs s).2.2.replace p g)
  | [], _ => rfl
  | v :: vs, s => by
    have hfirst := blankWith_replace hg hlook v s
    rw [replaceAll, allBlankWith, allBlankWith, hfirst]
    rcases v.blankWith (qs.through p g) look s with ⟨blank, s'⟩
    cases blank with
    | true => exact allBlankWith_replaceAll hg hlook vs s'
    | false => rfl

end

theorem lookInto_replace (hg : g.isQuery = true) (depth : Nat) : ∀ place s,
    lookInto qs depth place (s.replace p g)
      = ((lookInto (qs.through p g) depth place s).1,
          (lookInto (qs.through p g) depth place s).2.replace p g) := by
  induction depth with
  | zero => exact fun _ _ => rfl
  | succ depth ih =>
    intro place s
    have hmembers := allBlankWith_replaceAll qs p hg ih (s.rest place) s
    simp only [lookInto, Shelf.rest_replace, hmembers, Shelf.put_replace]

/-- **A look** at a value with another query in it. -/
theorem isBlank_replace (hg : g.isQuery = true) (v : Value) (s : Shelf) :
    (v.replace p g).isBlank qs (s.replace p g)
      = ((v.isBlank (qs.through p g) s).1, (v.isBlank (qs.through p g) s).2.replace p g) := by
  rw [isBlank, isBlank, Shelf.length_replace]
  exact blankWith_replace qs p hg (lookInto_replace qs p hg s.length) v s

end Readers

/-! ## Terms -/

section Terms

variable {w : Surroundings} {own : Text} {g : Handle}

/-- Reading the query that stands in is reading the receiver while its text is `own`, wherever the
    queries around have their texts. -/
theorem through_standsIn (hg : w.StandsIn own g) {qs : Queries}
    (htext : ∀ h, w.isReceiver h = false → qs.text h = w.text h)
    (hmodifier : qs.modifier = w.modifier) :
    qs.through w.isReceiver g = w.when own := by
  have htexts : (qs.through w.isReceiver g).text = (w.when own).text := by
    funext h
    cases hh : w.isReceiver h with
    | true => simp [Queries.through, Surroundings.when, hh, htext g hg.apart, hg.text]
    | false => simp [Queries.through, Surroundings.when, hh, htext h hh]
  have hmodifiers : (qs.through w.isReceiver g).modifier = (w.when own).modifier := by
    funext h
    cases hh : w.isReceiver h with
    | true => simp [Queries.through, Surroundings.when, hh, hmodifier, hg.modifier h hh]
    | false => simp [Queries.through, Surroundings.when, hh, hmodifier]
  calc qs.through w.isReceiver g = ⟨(w.when own).text, (w.when own).modifier⟩ := by
        rw [← htexts, ← hmodifiers]
    _ = w.when own := rfl

theorem through_around (hg : w.StandsIn own g) :
    w.toQueries.through w.isReceiver g = w.when own :=
  through_standsIn hg (fun _ _ => rfl) rfl

theorem through_when (hg : w.StandsIn own g) (now : Text) :
    (w.when now).through w.isReceiver g = w.when own :=
  through_standsIn hg (fun h hh => by simp [Surroundings.when, hh]) rfl

/-- A literal that shows the receiver shows it as it is now; any other one does not show it. -/
theorem fixed_of_isLiteral (empty : Nat → Shelf → List Term × Shelf) {v : Value}
    (hv : v.isLiteral = true) (s : Shelf) :
    (v.termWith w empty s).1.fixed own = .literal (v.written (w.when own)) := by
  rw [termWith_of_isLiteral hv]
  cases hr : v.mentions w.isReceiver with
  | true => rfl
  | false =>
    have hagree : w.toQueries.AgreeBut w.isReceiver (w.when own) :=
      ⟨fun h hh => by simp [Surroundings.when, hh], fun _ _ => rfl⟩
    rw [written_congr hagree hr]
    rfl

theorem termWith_replace_of_isLiteral (hg : w.StandsIn own g)
    (empty empty' : Nat → Shelf → List Term × Shelf) {v : Value} (hv : v.isLiteral = true)
    (s : Shelf) :
    (v.replace w.isReceiver g).termWith w empty' (s.replace w.isReceiver g)
      = ((v.termWith w empty s).1.fixed own, (v.termWith w empty s).2.replace w.isReceiver g) := by
  have hv' : (v.replace w.isReceiver g).isLiteral = true := by rw [isLiteral_replace, hv]
  rw [termWith_of_not_mentions w hv' (mentions_replace hg.apart v),
    written_replace w.toQueries w.isReceiver hg.query hv, through_around hg,
    fixed_of_isLiteral empty hv, termWith_of_isLiteral hv]

variable {empty empty' : Nat → Shelf → List Term × Shelf}

mutual

theorem termWith_replace (hg : w.StandsIn own g)
    (hempty : ∀ place s, empty' place (s.replace w.isReceiver g)
      = (Term.fixedAll own (empty place s).1, (empty place s).2.replace w.isReceiver g)) :
    ∀ (v : Value) (s : Shelf),
      (v.replace w.isReceiver g).termWith w empty' (s.replace w.isReceiver g)
        = ((v.termWith w empty s).1.fixed own, (v.termWith w empty s).2.replace w.isReceiver g)
  | .scalar c, s => by
    by_cases hc : c = .null
    · subst hc; rfl
    · exact termWith_replace_of_isLiteral hg empty empty' (isLiteral_scalar hc) s
  | .byteArray _, s => termWith_replace_of_isLiteral hg empty empty' rfl s
  | .mapping _, s => termWith_replace_of_isLiteral hg empty empty' rfl s
  | .query h, s => by
    cases hh : w.isReceiver h with
    | true => simp [replace, termWith, hh, hg.apart, hg.text, Term.fixed]
    | false => simp [replace, termWith, hh, Term.fixed]
  | .stream place, s => by
    simp only [replace, termWith, hempty, Term.fixed]
  | .group _ members, s => by
    simp only [replace, termWith, termsWith_replaceAll hg hempty members s, Term.fixed]

theorem termsWith_replaceAll (hg : w.StandsIn own g)
    (hempty : ∀ place s, empty' place (s.replace w.isReceiver g)
      = (Term.fixedAll own (empty place s).1, (empty place s).2.replace w.isReceiver g)) :
    ∀ (vs : List Value) (s : Shelf),
      termsWith w empty' (replaceAll w.isReceiver g vs) (s.replace w.isReceiver g)
        = (Term.fixedAll own (termsWith w empty vs s).1,
            (termsWith w empty vs s).2.replace w.isReceiver g)
  | [], _ => rfl
  | v :: vs, s => by
    simp only [replaceAll, termsWith, termWith_replace hg hempty v s,
      termsWith_replaceAll hg hempty vs, Term.fixedAll]

end

theorem emptyStream_replace (hg : w.StandsIn own g) (depth : Nat) : ∀ place s,
    emptyStream w depth place (s.replace w.isReceiver g)
      = (Term.fixedAll own (emptyStream w depth place s).1,
          (emptyStream w depth place s).2.replace w.isReceiver g) := by
  induction depth with
  | zero => exact fun _ _ => rfl
  | succ depth ih =>
    intro place s
    have hmembers := termsWith_replaceAll hg ih (s.rest place) (s.put place [])
    have hput := Shelf.put_replace w.isReceiver g s place []
    rw [emptyStream, emptyStream, Shelf.rest_replace, ← hmembers, ← hput]
    rfl

/-- **The term** of a value with a query in it that stands in for the receiver is the term of the
    value with the text of the receiver fixed in it; the same is read from the streams. -/
theorem term_replace (hg : w.StandsIn own g) (v : Value) (s : Shelf) :
    (v.replace w.isReceiver g).term w (s.replace w.isReceiver g)
      = ((v.term w s).1.fixed own, (v.term w s).2.replace w.isReceiver g) := by
  rw [term, term, Shelf.length_replace]
  exact termWith_replace hg (emptyStream_replace hg s.length) v s

end Terms
end Value
end SearchQuery
