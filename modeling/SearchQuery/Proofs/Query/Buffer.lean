/-
  The buffer keeps its books.

  A buffer stores the length of its content beside the content, and no empty fragment.  Both hold of
  a new buffer and stay true whatever is done with it (`Buffer.Sound`), so that a length compared or
  a position kept speaks about the content.
-/
import SearchQuery.Query.Buffer

namespace SearchQuery.Buffer

/-- The books are right: the length is that of the content, and no fragment is empty. -/
structure Sound (b : Buffer) : Prop where
  length_eq : b.length = b.text.length
  ne_nil : ∀ t ∈ b.fragments, t ≠ []

theorem sound_ofText (t : Text) : (ofText t).Sound := by
  cases t with
  | nil => exact ⟨rfl, by simp [ofText]⟩
  | cons c t => exact ⟨by simp [ofText, text], by simp [ofText]⟩

theorem Sound.push {b : Buffer} (hb : b.Sound) (t : Text) : (b.push t).Sound := by
  cases t with
  | nil => exact hb
  | cons c t =>
    refine ⟨?_, ?_⟩
    · have hlen : (b.push (c :: t)).length = b.length + (c :: t).length := rfl
      rw [hlen, text_push, List.length_append, hb.length_eq]
    · intro u hu
      rcases List.mem_cons.mp hu with h | h
      · rw [h]; exact List.cons_ne_nil c t
      · exact hb.ne_nil u h

theorem Sound.append {b : Buffer} (hb : b.Sound) (ts : List Text) : (b.append ts).Sound := by
  induction ts generalizing b with
  | nil => exact hb
  | cons t ts ih => exact ih (hb.push t)

/-- Keeping the first `n` characters keeps them, and nothing else. -/
theorem text_keep {b : Buffer} (hb : b.Sound) (n : Nat) : (b.keep n).text = b.text.take n := by
  unfold keep
  by_cases h : n = b.length
  · rw [if_pos h, h, hb.length_eq, List.take_length]
  · rw [if_neg h]
    cases ht : b.text.take n with
    | nil => rfl
    | cons c t => simp [text]

theorem Sound.keep {b : Buffer} (hb : b.Sound) {n : Nat} (hn : n ≤ b.length) :
    (b.keep n).Sound := by
  have hlen : (b.keep n).length = n := by
    unfold Buffer.keep
    by_cases h : n = b.length
    · rw [if_pos h, h]
    · rw [if_neg h]
  have hcut := text_keep hb n
  have hbook := hb.length_eq
  refine ⟨?_, ?_⟩
  · rw [hlen, hcut, List.length_take]; omega
  · unfold Buffer.keep
    by_cases h : n = b.length
    · rw [if_pos h]; exact hb.ne_nil
    · rw [if_neg h]
      cases ht : b.text.take n with
      | nil => simp
      | cons c t => simp

/-- The last character is the last one of the content. -/
theorem lastChar?_eq (b : Buffer) : b.lastChar? = b.text.getLast? := by
  obtain ⟨fragments, length⟩ := b
  simp only [lastChar?, text]
  induction fragments with
  | nil => rfl
  | cons t ts ih =>
    cases t with
    | nil => simpa using ih
    | cons c t => simp [List.getLast?_append, List.getLast?_cons]

example : ((ofText "ab").append ["c(", []]).lastChar? = some '(' := by decide

end SearchQuery.Buffer
