/-
  The fragments of a buffer cannot be seen.

  A buffer is kept as fragments beside a length, and is joined when its content is read or cut.
  From outside it is one text: whatever is done with it shows what the same shows on that text, so no
  operation tells where one fragment ends, or whether the content has been read before.

  1. **One operation (`Sound.refines_run`)** — shows the same on a buffer whose books are right and on the
     text it stands for, and leaves such a buffer behind.
  2. **Runs (`Sound.refines_runAll`)** — by induction on the operations, with the books as the invariant.
     Hence two buffers with one text show the same (`runAll_congr`).
  3. **Main result (`refines_text`)** — the run from an initial text.
-/
import SearchQuery.Proofs.Query.Buffer

namespace SearchQuery.Buffer

/-! ## Runs -/

/-- Operations one after the other: what each of them shows, and the buffer after the last one. -/
def runAll (b : Buffer) : List Operation → List Shown × Buffer
  | [] => ([], b)
  | o :: os =>
    let first := o.run b
    let rest := first.2.runAll os
    (first.1 :: rest.1, rest.2)

/-- The same operations on a text. -/
def Operation.allOnText (t : Text) : List Operation → List Shown × Text
  | [] => ([], t)
  | o :: os =>
    let first := o.onText t
    let rest := allOnText first.2 os
    (first.1 :: rest.1, rest.2)

/-- What is done with a buffer shows what is done with a text, and leaves a buffer that stands for the
    text that is left. -/
structure Refines {α : Type} (r : α × Buffer) (r' : α × Text) : Prop where
  shown : r.1 = r'.1
  text : r.2.text = r'.2
  sound : r.2.Sound

/-! ## One operation -/

/-- The length of the content is that of all fragments. -/
theorem length_text (b : Buffer) : b.text.length = b.fragments.foldr (fun t n => t.length + n) 0 := by
  unfold text
  induction b.fragments with
  | nil => rfl
  | cons t ts ih =>
    rw [List.reverse_cons, List.flatten_append, List.flatten_singleton, List.length_append, ih,
      List.foldr_cons, Nat.add_comm]

/-- Joining leaves at most one fragment, which is the content; where there is nothing to join,
    nothing is done. -/
theorem Sound.compact {b : Buffer} (hb : b.Sound) : b.compact.Sound := by
  refine ⟨?_, fun t ht => ?_⟩
  · have hlength : b.compact.length = b.length := by unfold Buffer.compact; split <;> rfl
    rw [hlength, text_compact]
    exact hb.length_eq
  · unfold Buffer.compact at ht
    split at ht
    · exact hb.ne_nil t ht
    · exact hb.ne_nil t ht
    · rename_i hnil hsingle
      obtain rfl := List.mem_singleton.mp ht
      -- The newest of the fragments that are joined is not empty, so neither is the content.
      cases hfragments : b.fragments with
      | nil => exact absurd hfragments hnil
      | cons u us =>
        have hu : u ≠ [] := hb.ne_nil u (by rw [hfragments]; exact List.mem_cons_self)
        rw [text, hfragments, List.reverse_cons, List.flatten_append, List.flatten_singleton]
        exact List.append_ne_nil_of_right_ne_nil _ hu

/-- Cutting is accepted at the positions of the content, and cuts it there. -/
theorem Sound.truncate_eq {b : Buffer} (hb : b.Sound) (p : Int) :
    b.truncate p = if 0 ≤ p ∧ p ≤ (b.text.length : Int) then .ok (b.keep p.toNat)
      else .error ⟨b.text.length, p⟩ := by
  unfold Buffer.truncate
  rw [hb.length_eq]
  by_cases hp : 0 ≤ p ∧ p ≤ (b.text.length : Int)
  · rw [if_neg (by omega), if_pos hp]
  · rw [if_pos (by omega), if_neg hp]

/-- **One operation** shows the same on a buffer and on its text. -/
theorem Sound.refines_run {b : Buffer} (hb : b.Sound) (o : Operation) :
    Refines (o.run b) (o.onText b.text) := by
  cases o with
  | append ts => exact ⟨rfl, text_append b ts, hb.append ts⟩
  | truncate p =>
    simp only [Operation.run, Operation.onText, hb.truncate_eq p]
    by_cases hp : 0 ≤ p ∧ p ≤ (b.text.length : Int)
    · have hinside : p.toNat ≤ b.length := by rw [hb.length_eq]; omega
      rw [if_pos hp, if_pos hp]
      exact ⟨rfl, text_keep hb p.toNat, hb.keep hinside⟩
    · rw [if_neg hp, if_neg hp]
      exact ⟨rfl, rfl, hb⟩
  | lastChar => exact ⟨congrArg Shown.char (lastChar?_eq b), rfl, hb⟩
  | length => exact ⟨congrArg Shown.number hb.length_eq, rfl, hb⟩
  | text => exact ⟨rfl, text_compact b, hb.compact⟩

/-! ## Runs of operations -/

/-- **A run** shows the same on a buffer and on its text. -/
theorem Sound.refines_runAll {b : Buffer} (hb : b.Sound) (os : List Operation) :
    Refines (b.runAll os) (Operation.allOnText b.text os) := by
  induction os generalizing b with
  | nil => exact ⟨rfl, rfl, hb⟩
  | cons o os ih =>
    have hfirst := hb.refines_run o
    have hrest := ih hfirst.sound
    rw [hfirst.text] at hrest
    have hshown : (b.runAll (o :: os)).1 = (Operation.allOnText b.text (o :: os)).1 := by
      simp only [Buffer.runAll, Operation.allOnText, hfirst.shown, hrest.shown]
    exact ⟨hshown, hrest.text, hrest.sound⟩

/-- Buffers with one text cannot be told apart. -/
theorem runAll_congr {b b' : Buffer} (hb : b.Sound) (hb' : b'.Sound) (h : b.text = b'.text)
    (os : List Operation) : (b.runAll os).1 = (b'.runAll os).1 := by
  rw [(hb.refines_runAll os).shown, (hb'.refines_runAll os).shown, h]

/-- **A buffer is one text.**  From any initial text, whatever is done shows what the same shows on a
    text and leaves a buffer for the text that is left.  Its length is that of its fragments, none of
    which is empty, and joining them changes nothing that is shown later. -/
theorem refines_text (t : Text) (os : List Operation) :
    let r := (ofText t).runAll os
    let r' := Operation.allOnText t os
    r.1 = r'.1 ∧ r.2.text = r'.2 ∧
      r.2.length = r.2.fragments.foldr (fun u n => u.length + n) 0 ∧ [] ∉ r.2.fragments ∧
      ∀ os', (r.2.compact.runAll os').1 = (r.2.runAll os').1 := by
  intro r r'
  have h := (sound_ofText t).refines_runAll os
  rw [text_ofText] at h
  refine ⟨h.shown, h.text, ?_, fun hnil => h.sound.ne_nil [] hnil rfl,
    runAll_congr h.sound.compact h.sound (text_compact _)⟩
  rw [h.sound.length_eq, length_text]

example : ((ofText "ab").runAll [.append ["c", [], "de"], .text, .truncate 6, .truncate 3, .lastChar]).1
    = [.done, .content "abcde".toList, .fault ⟨5, 6⟩, .done, .char (some 'c')] := by decide

end SearchQuery.Buffer
