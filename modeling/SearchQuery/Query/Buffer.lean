/-
  The buffer that a query is written into.

  Text comes in fragments, which are kept apart and joined when the content is read; the length is
  kept beside them.  Apart from appending, the last character can be looked at and everything after
  a position can be taken back.

  1. **Program** — `Buffer` with `append`, `lastChar?`, `truncate` and `compact`, and `Operation`,
     the five things that can be done with a buffer from outside.
  2. **Specification** — a buffer stands for one text, `Buffer.text`; `Operation.onText` says what
     each operation does to that text and what it shows.
-/
import SearchQuery.Text.Digit

namespace SearchQuery

/-! ## The program -/

/-- A buffer: the fragments, newest first, and the length of all of them. -/
structure Buffer where
  fragments : List Text := []
  length : Nat := 0
  deriving DecidableEq, Repr

namespace Buffer

/-- A buffer with an initial text. -/
def ofText (t : Text) : Buffer := ⟨if t.isEmpty then [] else [t], t.length⟩

/-- Adds a fragment; an empty one is not kept. -/
def push (b : Buffer) (t : Text) : Buffer :=
  if t.isEmpty then b else ⟨t :: b.fragments, b.length + t.length⟩

/-- Adds fragments, one after the other. -/
def append (b : Buffer) (ts : List Text) : Buffer := ts.foldl push b

/-- The content. -/
def text (b : Buffer) : Text := b.fragments.reverse.flatten

/-- A buffer with the same content in one fragment, which is what reading the content leaves. -/
def compact (b : Buffer) : Buffer :=
  match b.fragments with
  | [] | [_] => b
  | _ => ⟨[b.text], b.length⟩

/-- The last character. -/
def lastChar? (b : Buffer) : Option Char :=
  match b.fragments.find? fun t => !t.isEmpty with
  | none => none
  | some t => t.getLast?

/-- Takes back everything after the first `n` characters. -/
def keep (b : Buffer) (n : Nat) : Buffer :=
  if n = b.length then b
  else
    let t := b.text.take n
    ⟨if t.isEmpty then [] else [t], n⟩

/-- A position outside of the text. -/
structure OutOfRange where
  length : Nat
  position : Int
  deriving DecidableEq, Repr

/-- The text of the fault. -/
def OutOfRange.message (e : OutOfRange) : Text :=
  "Cannot truncate buffer of length ".toList ++ Text.ofNat e.length ++ " to ".toList
    ++ Text.ofInt e.position

/-- Takes back everything after a position, which must lie inside of the text. -/
def truncate (b : Buffer) (position : Int) : Except OutOfRange Buffer :=
  if position < 0 ∨ (b.length : Int) < position then .error ⟨b.length, position⟩
  else .ok (b.keep position.toNat)

/-! ## The operations, on a buffer and on the text it stands for -/

/-- What can be done with a buffer from outside. -/
inductive Operation where
  | append (ts : List Text)
  | truncate (position : Int)
  | lastChar
  | length
  | text
  deriving DecidableEq, Repr

/-- What an operation shows. -/
inductive Shown where
  | done
  | char (c : Option Char)
  | number (n : Nat)
  | content (t : Text)
  | fault (e : OutOfRange)
  deriving DecidableEq, Repr

/-- An operation on a buffer. -/
def Operation.run (b : Buffer) : Operation → Shown × Buffer
  | .append ts => (.done, b.append ts)
  | .truncate p =>
    match b.truncate p with
    | .ok b' => (.done, b')
    | .error e => (.fault e, b)
  | .lastChar => (.char b.lastChar?, b)
  | .length => (.number b.length, b)
  | .text => (.content b.text, b.compact)

/-- The same operation on a text. -/
def Operation.onText (t : Text) : Operation → Shown × Text
  | .append ts => (.done, t ++ ts.flatten)
  | .truncate p =>
    if 0 ≤ p ∧ p ≤ (t.length : Int) then (.done, t.take p.toNat) else (.fault ⟨t.length, p⟩, t)
  | .lastChar => (.char t.getLast?, t)
  | .length => (.number t.length, t)
  | .text => (.content t, t)

/-! ## The content after each operation -/

@[simp] theorem text_ofText (t : Text) : (ofText t).text = t := by
  cases t <;> simp [ofText, text]

@[simp] theorem text_push (b : Buffer) (t : Text) : (b.push t).text = b.text ++ t := by
  cases t <;> simp [push, text]

@[simp] theorem text_append (b : Buffer) (ts : List Text) :
    (b.append ts).text = b.text ++ ts.flatten := by
  induction ts generalizing b with
  | nil => simp [append]
  | cons t ts ih =>
    have h : (b.append (t :: ts)) = (b.push t).append ts := rfl
    rw [h, ih]; simp

@[simp] theorem text_compact (b : Buffer) : b.compact.text = b.text := by
  unfold compact
  split
  · rfl
  · rfl
  · simp [text]

example : (((ofText "ab").append ["c", [], "d"]).keep 3).text = "abc".toList := by decide
example : (ofText "ab").truncate 3 = .error ⟨2, 3⟩ := rfl

end Buffer
end SearchQuery
