/-
  What becomes of streams in a call.

  An argument is read once, when it is written, and a stream in it is as good as a list.  A field
  takes a look at its value first.  The outermost stream is read into a list before; from a stream
  inside of it the look takes away everything up to the first member that is not blank, and that
  member, which was to be written, is lost.

  1. **Loss (`Unrolled.loses`)** — what a look finds first stands in a stream.
  2. **Without loss (`alike_left`)** — what a look has taken from streams is blank and would have
     given nothing, so the clause stays the same; by mutual induction on trees and lists of members.
  3. **With loss (`length_render_left`)** — what is left gives a shorter clause, if the value holds
     neither the receiver nor a query with blanks for a text.
  4. **Calls (`Reached.reads_streams`)** — each call with a value, made with streams and made with
     lists.
-/
import SearchQuery.Proofs.Query.Simulation
import SearchQuery.Proofs.Query.Skipping
import SearchQuery.Proofs.Value.Unrolled

namespace SearchQuery

/-! ## Loss -/

namespace Unrolled

mutual

/-- Whether a look takes something out of a stream that was to be written: what it finds first
    stands in a stream. -/
def loses (qs : Queries) : Unrolled → Bool
  | .single _ _ => false
  | .group _ members => losesAny qs members
  | .stream _ members => !allBlank qs members

/-- The same of a look at members, which ends at the first that is not blank. -/
def losesAny (qs : Queries) : List Unrolled → Bool
  | [] => false
  | x :: xs => if x.blank qs then losesAny qs xs else x.loses qs

end

mutual

/-- Whether a query of a certain kind stands in a stream. -/
def streams (p : Handle → Bool) : Unrolled → Bool
  | .single _ _ => false
  | .group _ members => anyStreams p members
  | .stream _ members => Value.anyMentions p (listedAll members)

def anyStreams (p : Handle → Bool) : List Unrolled → Bool
  | [] => false
  | x :: xs => x.streams p || anyStreams p xs

end

mutual

theorem streamless_listed : ∀ x : Unrolled, x.listed.streamless = true
  | .single v hv => by
    cases v <;> first | rfl | cases hv
  | .group shape members => by
    simp only [listed, Value.streamless, allStreamless_listedAll members]
  | .stream place members => by
    simp only [listed, Value.streamless, allStreamless_listedAll members]

theorem allStreamless_listedAll : ∀ xs : List Unrolled,
    Value.allStreamless (listedAll xs) = true
  | [] => rfl
  | x :: xs => by
    simp only [listedAll, Value.allStreamless, streamless_listed x, allStreamless_listedAll xs,
      Bool.and_self]

end

end Unrolled

/-! ## Without loss -/

/-- Two terms that give the same clause and are kept in the same groups, behind every text. -/
structure Term.Alike (t t' : Term) : Prop where
  render : ∀ own m, t'.render own m = t.render own m
  survives : ∀ own, t'.survives own = t.survives own

theorem Term.Alike.symm {t t' : Term} (h : t.Alike t') : t'.Alike t :=
  ⟨fun own m => (h.render own m).symm, fun own => (h.survives own).symm⟩

namespace Unrolled

variable (w : Surroundings) (own : Text)

/-- What is blank gives nothing wherever it is written, if the receiver does not stand in it while
    its text is empty. -/
theorem render_of_blank {x : Unrolled} (hblank : x.blank (w.when own) = true)
    (hown : own = [] → x.listed.mentions w.isReceiver = false) (own' : Text) (m : Modifier) :
    (x.term w).render own' m = [] := by
  have hlook : (x.listed.isBlank (w.when own) []).1 = true := by rw [isBlank_listed]; exact hblank
  have hr : x.listed.mentions w.isReceiver = false := by
    by_cases hempty : own = []
    · exact hown hempty
    · cases hmentions : x.listed.mentions w.isReceiver with
      | false => rfl
      | true =>
        -- A look at the receiver would have found its text.
        have htext : ∀ h, w.isReceiver h = true → (w.when own).text h ≠ [] := by
          intro h hh
          rw [Value.text_when_receiver w own hh]
          exact hempty
        have hfound : (x.listed.isBlank (w.when own) []).1 = false :=
          Value.blankWith_of_mentions _ htext x.listed [] hmentions
        rw [hlook] at hfound
        cases hfound
  have hv := streamless_listed x
  have hmeans := Value.means_term w hv hr []
  rw [term_listed] at hmeans
  rw [hmeans.render]
  exact ((Value.isBlank_iff w own hv hr [] m).mp hlook).1

/-- Members that are all blank give nothing. -/
theorem renderMembers_of_allBlank : ∀ xs : List Unrolled, allBlank (w.when own) xs = true →
    (own = [] → Value.anyMentions w.isReceiver (listedAll xs) = false) →
    ∀ kept own' m, Term.renderMembers kept own' m (terms w xs) = []
  | [], _, _, kept, own', m => rfl
  | x :: xs, hblank, hown, kept, own', m => by
    simp only [allBlank, Bool.and_eq_true] at hblank
    simp only [listedAll, Value.anyMentions, Bool.or_eq_false_iff] at hown
    have hfirst := render_of_blank w own hblank.1 (fun h => (hown h).1) own' m
    have hrest := renderMembers_of_allBlank xs hblank.2 fun h => (hown h).2
    simp only [terms, Term.renderMembers, hfirst, ite_self, List.nil_append, hrest]

theorem unread_of_allBlank (qs : Queries) (xs : List Unrolled) (h : allBlank qs xs = true) :
    unread qs xs = [] := by
  induction xs with
  | nil => rfl
  | cons x xs ih =>
    simp only [allBlank, Bool.and_eq_true] at h
    simp only [unread, h.1, if_true, ih h.2]

mutual

/-- Nothing is lost of what is blank. -/
theorem loses_of_blank (qs : Queries) : ∀ x : Unrolled, x.blank qs = true → x.loses qs = false
  | .single v hv, _ => rfl
  | .group shape members, h => by
    simp only [blank] at h
    simp only [loses, losesAny_of_allBlank qs members h]
  | .stream place members, h => by
    simp only [blank] at h
    simp only [loses, h, Bool.not_true]

theorem losesAny_of_allBlank (qs : Queries) : ∀ xs : List Unrolled, allBlank qs xs = true →
    losesAny qs xs = false
  | [], _ => rfl
  | x :: xs, h => by
    simp only [allBlank, Bool.and_eq_true] at h
    simp only [losesAny, h.1, if_true, losesAny_of_allBlank qs xs h.2]

end

mutual

/-- **Nothing lost, nothing changed**: what the look has taken would have given nothing. -/
theorem alike_left : ∀ x : Unrolled, x.loses (w.when own) = false →
    (own = [] → x.streams w.isReceiver = false) →
    (x.term w).Alike ((x.left (w.when own)).term w)
  | .single v hv, _, _ => ⟨fun _ _ => rfl, fun _ => rfl⟩
  | .group shape members, hloses, hown => by
    simp only [loses] at hloses
    simp only [streams] at hown
    have hmembers := renderMembers_leftAll members hloses hown
    refine ⟨fun own' m => ?_, fun _ => rfl⟩
    simp only [left, term, Term.render, hmembers]
  | .stream place members, hloses, hown => by
    -- The whole stream was seen, and there was nothing in it.
    simp only [loses, Bool.not_eq_false'] at hloses
    simp only [streams] at hown
    have hnothing := renderMembers_of_allBlank w own members hloses hown
    refine ⟨fun own' m => ?_, fun _ => rfl⟩
    simp only [left, unread_of_allBlank _ members hloses, term, terms, Term.render, hnothing]
    rfl

theorem renderMembers_leftAll : ∀ xs : List Unrolled, losesAny (w.when own) xs = false →
    (own = [] → anyStreams w.isReceiver xs = false) →
    ∀ kept own' m, Term.renderMembers kept own' m (terms w (leftAll (w.when own) xs))
      = Term.renderMembers kept own' m (terms w xs)
  | [], _, _, _, _, _ => rfl
  | x :: xs, hloses, hown, kept, own', m => by
    simp only [anyStreams, Bool.or_eq_false_iff] at hown
    simp only [losesAny] at hloses
    cases hblank : x.blank (w.when own) with
    | true =>
      rw [hblank, if_pos rfl] at hloses
      have hfirst := alike_left x (loses_of_blank _ x hblank) fun h => (hown h).1
      have hrest := renderMembers_leftAll xs hloses fun h => (hown h).2
      simp only [leftAll, hblank, if_true, terms, Term.renderMembers, hfirst.render,
        hfirst.survives, hrest]
    | false =>
      rw [hblank, if_neg Bool.false_ne_true] at hloses
      have hfirst := alike_left x hloses fun h => (hown h).1
      simp only [leftAll, hblank, Bool.false_eq_true, if_false, terms, Term.renderMembers,
        hfirst.render, hfirst.survives]

end

/-! ## With loss -/

theorem anyMentions_listedAll (p : Handle → Bool) (xs : List Unrolled) :
    Value.anyMentions p (listedAll xs) = xs.any fun x => x.listed.mentions p := by
  induction xs with
  | nil => rfl
  | cons x xs ih => rw [listedAll, Value.anyMentions, ih, List.any_cons]

mutual

/-- Nothing is left that was not there before. -/
theorem mentions_left (qs : Queries) {p : Handle → Bool} : ∀ x : Unrolled,
    x.listed.mentions p = false → (x.left qs).listed.mentions p = false
  | .single v hv, h => h
  | .group shape members, h => by
    simp only [listed, Value.mentions] at h
    simp only [left, listed, Value.mentions, anyMentions_leftAll qs members h]
  | .stream place members, h => by
    simp only [listed, Value.mentions] at h
    simp only [left, listed, Value.mentions]
    rw [anyMentions_listedAll, List.any_eq_false] at h ⊢
    exact fun y hy => h y ((unread_suffix qs members).subset hy)

theorem anyMentions_leftAll (qs : Queries) {p : Handle → Bool} : ∀ xs : List Unrolled,
    Value.anyMentions p (listedAll xs) = false →
    Value.anyMentions p (listedAll (leftAll qs xs)) = false
  | [], _ => rfl
  | x :: xs, h => by
    simp only [listedAll, Value.anyMentions, Bool.or_eq_false_iff] at h
    simp only [leftAll, listedAll, Value.anyMentions, mentions_left qs x h.1, Bool.false_or]
    cases x.blank qs with
    | true => exact anyMentions_leftAll qs xs h.2
    | false => exact h.2

end

mutual

/-- What is blank is still blank after a look. -/
theorem blank_left (qs : Queries) : ∀ x : Unrolled, x.blank qs = true →
    (x.left qs).blank qs = true
  | .single v hv, h => h
  | .group shape members, h => by
    simp only [blank] at h
    simp only [left, blank, allBlank_leftAll qs members h]
  | .stream place members, h => by
    simp only [blank] at h
    simp only [left, blank, unread_of_allBlank qs members h, allBlank]

theorem allBlank_leftAll (qs : Queries) : ∀ xs : List Unrolled, allBlank qs xs = true →
    allBlank qs (leftAll qs xs) = true
  | [], _ => rfl
  | x :: xs, h => by
    simp only [allBlank, Bool.and_eq_true] at h
    simp only [leftAll, h.1, if_true, allBlank, blank_left qs x h.1, allBlank_leftAll qs xs h.2,
      Bool.and_self]

end

/-- The clause of a member of a group. -/
def clause (qs : Queries) (m : Modifier) (x : Unrolled) : Text :=
  if x.listed.kept qs then x.listed.render qs m else []

theorem renderAll_cons (qs : Queries) (m : Modifier) (x : Unrolled) (xs : List Unrolled) :
    Value.renderAll qs m (listedAll (x :: xs))
      = x.clause qs m ++ Value.renderAll qs m (listedAll xs) := rfl

/-- A member is blank exactly if it gives nothing and hides no query. -/
theorem blank_iff_clause {x : Unrolled} (hr : x.listed.mentions w.isReceiver = false)
    (m : Modifier) :
    x.blank (w.when own) = true ↔
      x.clause w.toQueries m = [] ∧ x.listed.hides (w.when own) = false := by
  have hagree := Value.text_when_other w own
  have hvalue := Value.isBlank_iff w own (streamless_listed x) hr [] m
  have hmember := Value.blankWith_iff_clause hagree _ hr hvalue
  rw [blankWith_listed] at hmember
  exact hmember

/-- A look that finds something in a stream takes a clause out of it. -/
theorem length_renderAll_unread (m : Modifier) : ∀ xs : List Unrolled,
    allBlank (w.when own) xs = false → Value.anyMentions w.isReceiver (listedAll xs) = false →
    Value.anyMentions (w.when own).hidden (listedAll xs) = false →
    (Value.renderAll w.toQueries m (listedAll (unread (w.when own) xs))).length
      < (Value.renderAll w.toQueries m (listedAll xs)).length
  | [], hfound, _, _ => by simp [allBlank] at hfound
  | x :: xs, hfound, hr, hhides => by
    simp only [listedAll, Value.anyMentions, Bool.or_eq_false_iff] at hr hhides
    have hclause := blank_iff_clause w own hr.1 m
    rw [renderAll_cons, List.length_append]
    cases hblank : x.blank (w.when own) with
    | true =>
      simp only [allBlank, hblank, Bool.true_and] at hfound
      have hrest := length_renderAll_unread m xs hfound hr.2 hhides.2
      simp only [unread, hblank, if_true]
      omega
    | false =>
      -- This is the member that is found, and it would have given something.
      have hne : x.clause w.toQueries m ≠ [] := by
        intro hnil
        rw [hclause.mpr ⟨hnil, hhides.1⟩] at hblank
        cases hblank
      have hpos := List.length_pos_iff.mpr hne
      simp only [unread, hblank, Bool.false_eq_true, if_false]
      omega

theorem isGroup_of_loses {qs : Queries} {x : Unrolled} (h : x.loses qs = true) :
    x.listed.isGroup = true ∧ (x.left qs).listed.isGroup = true := by
  cases x with
  | single v hv => simp [loses] at h
  | group shape members => exact ⟨rfl, rfl⟩
  | stream place members => exact ⟨rfl, rfl⟩

theorem kept_of_isGroup {x : Unrolled} (hx : x.listed.isGroup = true) (qs : Queries)
    (m : Modifier) : x.clause qs m = x.listed.render qs m := by
  have hkept : x.listed.kept qs = true := by rw [Value.kept, hx, Bool.true_or]
  rw [clause, if_pos hkept]

mutual

/-- **What is lost is missed**: what a look leaves gives a shorter clause. -/
theorem length_render_left : ∀ (x : Unrolled) (m : Modifier), x.loses (w.when own) = true →
    x.listed.mentions w.isReceiver = false → x.listed.hides (w.when own) = false →
    ((x.left (w.when own)).listed.render w.toQueries m).length
      < (x.listed.render w.toQueries m).length
  | .single v hv, m, hloses, _, _ => by simp [loses] at hloses
  | .group shape members, m, hloses, hr, hhides => by
    simp only [loses] at hloses
    simp only [listed, Value.hides, Value.mentions] at hr hhides
    have hmembers := length_renderAll_left members m.element hloses hr hhides
    simp only [left, listed, Value.render]
    exact length_renderClause_lt m hmembers
  | .stream place members, m, hloses, hr, hhides => by
    simp only [loses, Bool.not_eq_true'] at hloses
    simp only [listed, Value.hides, Value.mentions] at hr hhides
    have hmembers := length_renderAll_unread w own m.element members hloses hr hhides
    simp only [left, listed, Value.render]
    exact length_renderClause_lt m hmembers

theorem length_renderAll_left : ∀ (xs : List Unrolled) (m : Modifier),
    losesAny (w.when own) xs = true → Value.anyMentions w.isReceiver (listedAll xs) = false →
    Value.anyMentions (w.when own).hidden (listedAll xs) = false →
    (Value.renderAll w.toQueries m (listedAll (leftAll (w.when own) xs))).length
      < (Value.renderAll w.toQueries m (listedAll xs)).length
  | [], m, hloses, _, _ => by simp [losesAny] at hloses
  | x :: xs, m, hloses, hr, hhides => by
    simp only [listedAll, Value.anyMentions, Bool.or_eq_false_iff] at hr hhides
    simp only [losesAny] at hloses
    cases hblank : x.blank (w.when own) with
    | true =>
      rw [hblank, if_pos rfl] at hloses
      have hrest := length_renderAll_left xs m hloses hr.2 hhides.2
      -- A member that is blank gives nothing, whatever is left of it.
      have hgone := mentions_left (w.when own) x hr.1
      have hfirst := ((blank_iff_clause w own hgone m).mp (blank_left _ x hblank)).1
      simp only [leftAll, hblank, if_true, renderAll_cons, hfirst, List.nil_append,
        List.length_append]
      omega
    | false =>
      rw [hblank, if_neg Bool.false_ne_true] at hloses
      have hfirst := length_render_left x m hloses hr.1 hhides.1
      obtain ⟨hgroup, hgroup'⟩ := isGroup_of_loses hloses
      simp only [leftAll, hblank, Bool.false_eq_true, if_false, renderAll_cons,
        kept_of_isGroup hgroup, kept_of_isGroup hgroup', List.length_append]
      omega

end

end Unrolled

/-! ## Calls -/

/-- A field with a term in it, unless its name is missing or there was nothing to search for. -/
def Query.putField (q : Query) (name : Option Text) (blank : Bool) (m : Modifier) (t : Term)
    (factor : Option Number) : Query :=
  match name with
  | none => q.skipped
  | some name => if Text.isBlank name || blank then q.skipped else q.writeField name m t factor

/-- A field is written with what a look leaves of its value. -/
theorem Scene.query_putField (s : Scene) (w : Surroundings) (name : Option Text) (v : Value)
    (m : Modifier) (factor : Option Number) :
    (s.putField w name v m factor).query
      = s.query.putField name (v.isBlank (w.when s.query.text) s.shelf).1 m
          (v.term w (v.isBlank (w.when s.query.text) s.shelf).2).1 factor := by
  cases name with
  | none => rfl
  | some name =>
    by_cases hname : Text.isBlank name = true
    · simp [putField, Query.putField, hname, Scene.change]
    · cases hlooked : (v.isBlank (w.when s.query.text) s.shelf).1 <;>
        simp [putField, Query.putField, hname, hlooked]

namespace Query

variable {q : Query}

/-- Terms that give the same make the same field. -/
theorem matches_putField (hq : q.buffer.Sound) {t t' : Term} (h : t.Alike t')
    (name : Option Text) (blank : Bool) (m : Modifier) (factor : Option Number) :
    (q.putField name blank m t factor).Matches (q.putField name blank m t' factor) := by
  have hsame : ∀ r : Query, r.Matches r := fun r => ⟨rfl, rfl, rfl, rfl⟩
  cases name with
  | none => exact hsame _
  | some name =>
    simp only [putField]
    split
    · exact hsame _
    · have hwrote := wrote_writeField hq name m t factor
      have hwrote' := wrote_writeField hq name m t' factor
      have hframe := sameFrame_writeField q name m t factor
      have hframe' := sameFrame_writeField q name m t' factor
      rw [h.render] at hwrote'
      refine ⟨?_, ?_, ?_, ?_⟩
      · rw [hwrote'.text, hwrote.text]
      · rw [hframe'.modifier, hframe.modifier]
      · rw [hwrote'.succeeded, hwrote.succeeded]
      · rw [hframe'.openFields, hframe.openFields]

/-- A field around a clause is longer than one around a shorter text, also around an empty phrase. -/
theorem length_renderField_lt {inner inner' : Text} (hlong : 3 ≤ inner.length)
    (h : inner'.length < inner.length) (m : Modifier) (name : Text) (factor : Option Number) :
    (renderField m name inner' factor).length < (renderField m name inner factor).length := by
  have hne : inner ≠ [] := List.length_pos_iff.mp (by omega)
  have hfilled : (if inner.isEmpty then ['"', '"'] else inner) = inner := by
    rw [if_neg (by simpa using hne)]
  simp only [renderField, List.length_append, hfilled]
  cases inner' with
  | nil =>
    have hphrase : (if ([] : Text).isEmpty then ['"', '"'] else ([] : Text)).length = 2 := rfl
    omega
  | cons c inner' =>
    have hfilled' : (if (c :: inner').isEmpty then ['"', '"'] else c :: inner') = c :: inner' := rfl
    rw [hfilled']
    omega

end Query

/-- The call, made with another value. -/
def Call.taking (v : Value) : Call → Call
  | .argument _ m => .argument v m
  | .fuzzyArgument _ m f => .fuzzyArgument v m f
  | .field name _ m factor allMembers => .field name v m factor allMembers
  | .fuzzyField name _ m f => .fuzzyField name v m f
  | c => c

/-- Whether a call looks at its value before it writes it. -/
def Call.looks : Call → Bool
  | .field .. | .fuzzyField .. => true
  | _ => false

/-- What a field with streams in its value leaves, compared with what it leaves with lists: the same,
    if nothing is lost, and less text otherwise. -/
structure Unrolled.Compares (w : Surroundings) (q : Query) (x : Unrolled) (r r' : Query) : Prop where
  same : x.loses (w.when q.text) = false → (q.text = [] → x.streams w.isReceiver = false) →
    r.Matches r'
  less : x.loses (w.when q.text) = true → x.listed.mentions w.isReceiver = false →
    x.listed.hides (w.when q.text) = false → r'.text ≠ q.text → r.text.length < r'.text.length

namespace Unrolled

variable (w : Surroundings) {q : Query} {x : Unrolled}

/-- A tree without the receiver gives what its lists do. -/
theorem render_term (hr : x.listed.mentions w.isReceiver = false) (own : Text) (m : Modifier) :
    (x.term w).render own m = x.listed.render w.toQueries m := by
  have hmeans := Value.means_term w (streamless_listed x) hr []
  rw [term_listed] at hmeans
  exact hmeans.render own m

/-- Only a group can lose something, and its clause is not short. -/
theorem length_render_of_loses {own : Text} (hloses : x.loses (w.when own) = true)
    (hr : x.listed.mentions w.isReceiver = false) (hhides : x.listed.hides (w.when own) = false)
    (m : Modifier) : 3 ≤ (x.listed.render w.toQueries m).length := by
  have hlt := length_render_left w own x m hloses hr hhides
  have hne : x.listed.render w.toQueries m ≠ [] := List.length_pos_iff.mp (by omega)
  cases x with
  | single v hv => simp [loses] at hloses
  | group shape members => exact three_le_length_renderClause hne
  | stream place members => exact three_le_length_renderClause hne

theorem compares_putField (hq : q.buffer.Sound) {s s' : Shelf} (hx : x.OnShelf s)
    (hplaces : x.places.Nodup) (name : Option Text) (m : Modifier) (factor : Option Number) :
    Compares w q x ((⟨q, s⟩ : Scene).putField w name x.value m factor).query
      ((⟨q, s'⟩ : Scene).putField w name x.listed m factor).query := by
  obtain ⟨hblank, hleft⟩ := isBlank_value (w.when q.text) hx hplaces
  have hterm := term_value w hleft (hplaces.sublist (places_left _ x))
  rw [value_left] at hterm
  rw [Scene.query_putField, Scene.query_putField]
  show Compares w q x (q.putField name (x.value.isBlank (w.when q.text) s).1 m
      (x.value.term w (x.value.isBlank (w.when q.text) s).2).1 factor)
    (q.putField name (x.listed.isBlank (w.when q.text) s').1 m
      (x.listed.term w (x.listed.isBlank (w.when q.text) s').2).1 factor)
  rw [hblank, hterm, isBlank_listed, term_listed]
  refine ⟨fun hloses hown => ?_, fun hloses hr hhides hwritten => ?_⟩
  · have halike := alike_left w q.text x hloses hown
    exact Query.matches_putField hq halike.symm name _ m factor
  · cases name with
    | none => exact absurd rfl hwritten
    | some name =>
      simp only [Query.putField] at hwritten ⊢
      split at hwritten
      · exact absurd rfl hwritten
      · rename_i hopened
        have hlong := length_render_of_loses w hloses hr hhides m.nested
        have hlt := length_render_left w q.text x m.nested hloses hr hhides
        have hfield := Query.length_renderField_lt hlong hlt m name factor
        rw [if_neg hopened, if_neg hopened, (Query.wrote_writeField hq name m _ factor).text,
          (Query.wrote_writeField hq name m _ factor).text, render_term w hr,
          render_term w (mentions_left _ x hr), List.length_append, List.length_append]
        omega

end Unrolled

section Runs

variable (w : Surroundings) {q : Query} {shelf : Shelf} {x : Unrolled}

/-- A call that does not look at its value reads it once. -/
theorem Call.run_taking_of_not_looks (hx : x.OnShelf shelf) (hplaces : x.places.Nodup) {c : Call}
    (hc : c.looks = false) :
    ((c.taking x.listed).run w ⟨q, shelf⟩).1 = ((c.taking x.value).run w ⟨q, shelf⟩).1 ∧
      ((c.taking x.listed).run w ⟨q, shelf⟩).2.query
        = ((c.taking x.value).run w ⟨q, shelf⟩).2.query := by
  have hput : ∀ m, (Scene.put ⟨q, shelf⟩ w x.listed m).query
      = (Scene.put ⟨q, shelf⟩ w x.value m).query := by
    intro m
    show q.write m (x.listed.term w shelf).1 = q.write m (x.value.term w shelf).1
    rw [Unrolled.term_listed, Unrolled.term_value w hx hplaces]
  cases c with
  | argument v m =>
    simp only [taking, run_argument, x.isGroup_listed]
    cases m.resolve q.modifier x.value.isGroup with
    | error e => exact ⟨rfl, rfl⟩
    | ok m => exact ⟨rfl, hput m⟩
  | fuzzyArgument v m f =>
    simp only [taking, run_fuzzyArgument, x.isGroup_listed]
    cases m.resolveFuzzy q.modifier x.value.isGroup f with
    | error e => exact ⟨rfl, rfl⟩
    | ok m => exact ⟨rfl, hput m⟩
  | field name v m factor allMembers => cases hc
  | fuzzyField name v m f => cases hc
  | _ => exact ⟨rfl, rfl⟩

/-- A call that looks at its value is a field. -/
theorem Call.run_taking_of_looks (hq : q.buffer.Sound) (hx : x.OnShelf shelf)
    (hplaces : x.places.Nodup) {c : Call} (hc : c.looks = true) :
    ((c.taking x.listed).run w ⟨q, shelf⟩).1 = ((c.taking x.value).run w ⟨q, shelf⟩).1 ∧
      x.settled.Compares w q ((c.taking x.value).run w ⟨q, shelf⟩).2.query
        ((c.taking x.listed).run w ⟨q, shelf⟩).2.query := by
  have hrefused : x.settled.Compares w q q q :=
    ⟨fun _ _ => ⟨rfl, rfl, rfl, rfl⟩, fun _ _ _ h => absurd rfl h⟩
  obtain ⟨hvalue, hsettled, hnodup⟩ := Unrolled.settled_value hx hplaces
  have hput : ∀ name m factor, x.settled.Compares w q
      ((⟨q, (x.value.settled shelf).2⟩ : Scene).putField w name (x.value.settled shelf).1 m
        factor).query
      ((⟨q, (x.listed.settled shelf).2⟩ : Scene).putField w name (x.listed.settled shelf).1 m
        factor).query := by
    intro name m factor
    rw [Unrolled.settled_listed, hvalue]
    exact Unrolled.compares_putField w hq hsettled hnodup name m factor
  cases c with
  | field name v m factor allMembers =>
    simp only [taking, run_field, x.isGroup_listed]
    cases Boost.checkGiven factor with
    | error e => exact ⟨rfl, hrefused⟩
    | ok =>
      cases m.resolveField q.modifier x.value.isGroup allMembers with
      | error e => exact ⟨rfl, hrefused⟩
      | ok m => exact ⟨rfl, hput name m factor⟩
  | fuzzyField name v m f =>
    simp only [taking, run_fuzzyField, x.isGroup_listed]
    cases m.resolveFuzzy q.modifier x.value.isGroup f with
    | error e => exact ⟨rfl, hrefused⟩
    | ok m => exact ⟨rfl, hput name m none⟩
  | _ => cases hc

end Runs

/-- **Streams and lists.**  In every state, for a value with streams in any of its groups, each in
    one place, and for every call that takes a value: with the streams it is refused for what it is
    refused with lists in their place.  Arguments leave the very same query.  A field looks at its
    value before: if what the look finds first does not stand in an inner stream, and the receiver
    does not stand in one while its text is empty, the field is the same, too.  Otherwise what was
    found is lost, and less is written than with lists, if the value holds neither the receiver nor
    a query with blanks for a text. -/
theorem Query.Reached.reads_streams {q : Query} (hq : q.Reached) (w : Surroundings) {shelf : Shelf}
    {x : Unrolled} (hx : x.OnShelf shelf) (hplaces : x.places.Nodup) (c : Call) :
    let r := (c.taking x.value).run w ⟨q, shelf⟩
    let r' := (c.taking x.listed).run w ⟨q, shelf⟩
    let y := x.settled
    r'.1 = r.1 ∧ (c.looks = false → r'.2.query = r.2.query) ∧
      (c.looks = true → y.loses (w.when q.text) = false →
        (q.text = [] → y.streams w.isReceiver = false) → r.2.query.Matches r'.2.query) ∧
      (c.looks = true → y.loses (w.when q.text) = true → y.listed.mentions w.isReceiver = false →
        y.listed.hides (w.when q.text) = false → r'.2.query.text ≠ q.text →
        r.2.query.text.length < r'.2.query.text.length) := by
  intro r r' y
  cases hc : c.looks with
  | false =>
    obtain ⟨houtcome, hquery⟩ := Call.run_taking_of_not_looks w hx hplaces hc
    exact ⟨houtcome, fun _ => hquery, Bool.noConfusion, Bool.noConfusion⟩
  | true =>
    obtain ⟨houtcome, hcompares⟩ := Call.run_taking_of_looks w hq.sound hx hplaces hc
    exact ⟨houtcome, Bool.noConfusion, fun _ => hcompares.same, fun _ => hcompares.less⟩

/-- A text before a stream in which another stream stands, and a stream that comes first: the field
    with the first is the one with lists, and the field with the second has a clause less. -/
theorem Query.Reached.reads_streams_nested :
    let w : Surroundings := ⟨⟨fun _ => [], fun _ => {}⟩, (· == .query 0)⟩
    let a := Unrolled.single (.text ['a']) rfl
    let b := Unrolled.single (.text ['b']) rfl
    let x := Unrolled.group .list [a, .stream 1 [b, .stream 0 [a, b]]]
    let y := Unrolled.group .list [.stream 1 [a, b]]
    let shelf : Shelf := [[.text ['a'], .text ['b']], [.text ['b'], .stream 0]]
    let shelf' : Shelf := [[], [.text ['a'], .text ['b']]]
    let q := Query.new none ['t', ' ']
    let c := Call.field (some ['f']) .absent .absent none none
    q.Reached ∧ x.OnShelf shelf ∧ x.places.Nodup ∧ y.OnShelf shelf' ∧ y.places.Nodup ∧
      ((c.taking x.value).run w ⟨q, shelf⟩).2.query.text
        = "t f:((+(a) +(+(b) +(+(a) +(b) ) ) ) ) ".toList ∧
      ((c.taking y.listed).run w ⟨q, shelf'⟩).2.query.text = "t f:((+(+(a) +(b) ) ) ) ".toList ∧
      ((c.taking y.value).run w ⟨q, shelf'⟩).2.query.text.length < 24 := by
  intro w a b x y shelf shelf' q c
  have hq : q.Reached := ⟨none, ['t', ' '], [], rfl⟩
  have hx : x.OnShelf shelf := ⟨trivial, ⟨by decide, rfl, trivial, ⟨by decide, rfl, trivial,
    trivial, trivial⟩, trivial⟩, trivial⟩
  have hy : y.OnShelf shelf' := ⟨⟨by decide, rfl, trivial, trivial, trivial⟩, trivial⟩
  have hplaces : x.places.Nodup := by decide
  have hplaces' : y.places.Nodup := by decide
  obtain ⟨-, -, hsame, -⟩ := hq.reads_streams w hx hplaces c
  obtain ⟨-, -, -, hless⟩ := hq.reads_streams w hy hplaces' c
  have hmatches := hsame rfl (by decide +kernel) (by decide +kernel)
  have hlisted : ((c.taking x.listed).run w ⟨q, shelf⟩).2.query.text
      = "t f:((+(a) +(+(b) +(+(a) +(b) ) ) ) ) ".toList := by decide +kernel
  have hlisted' : ((c.taking y.listed).run w ⟨q, shelf'⟩).2.query.text
      = "t f:((+(+(a) +(b) ) ) ) ".toList := by decide +kernel
  have hshorter := hless rfl (by decide +kernel) (by decide +kernel) (by decide +kernel)
    (by decide +kernel)
  refine ⟨hq, hx, hplaces, hy, hplaces', hmatches.text.symm.trans hlisted, hlisted', ?_⟩
  rw [hlisted'] at hshorter
  exact hshorter

/-- **A member that is lost.**  A field of one stream in a list: the look takes the first text away,
    and the field is written without it, or around nothing at all if there is no other.  With a list
    in its place the text is written. -/
theorem Query.field_loses_member :
    let w : Surroundings := ⟨⟨fun _ => [], fun _ => {}⟩, (· == .query 0)⟩
    let q := Query.new none []
    let field (v : Value) := Call.field (some ['f']) (.group .list [v]) .absent none none
    let members : List Value := [.text ['a'], .text ['b']]
    ((field (.stream 0)).run w ⟨q, [members]⟩).2.query.text = "f:((+(+(b) ) ) ) ".toList ∧
      ((field (.group .list members)).run w ⟨q, []⟩).2.query.text
        = "f:((+(+(a) +(b) ) ) ) ".toList ∧
      ((field (.stream 0)).run w ⟨q, [[.text ['a']]]⟩).2.query.text = "f:(\"\") ".toList ∧
      ((field (.group .list [.text ['a']])).run w ⟨q, []⟩).2.query.text
        = "f:((+(+(a) ) ) ) ".toList := by
  decide +kernel

end SearchQuery
