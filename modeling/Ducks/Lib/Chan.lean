import Mathlib.Data.List.Basic

namespace Ducks.Lib

-- Buffered channels of capacity cap, as Go makes them with make(chan T, cap): a
-- FIFO buffer that never holds more than cap values. A send completes when the
-- buffer has room, a receive takes the oldest value. Nothing here names the program.

structure Chan (α : Type) (cap : Nat) where
  buf : List α
  bound : buf.length ≤ cap

namespace Chan

variable {α : Type} {cap : Nat}

def empty : Chan α cap := ⟨[], Nat.zero_le _⟩

-- The send of a select with a default case: it fails when the buffer is full. A
-- blocking send is a step that can only be taken when this succeeds.
def send? (c : Chan α cap) (x : α) : Option (Chan α cap) :=
  if h : c.buf.length < cap then
    some ⟨c.buf ++ [x], by rw [List.length_append, List.length_singleton]; omega⟩
  else none

def recv? (c : Chan α cap) : Option (α × Chan α cap) :=
  match c with
  | ⟨x :: rest, h⟩ => some (x, ⟨rest, by rw [List.length_cons] at h; omega⟩)
  | ⟨[], _⟩ => none

@[simp] theorem empty_buf : (empty : Chan α cap).buf = [] := rfl

theorem send?_eq_some_iff {c c' : Chan α cap} {x : α} :
    c.send? x = some c' ↔ c.buf.length < cap ∧ c'.buf = c.buf ++ [x] := by
  unfold send?
  split_ifs with h
  · constructor
    · rintro ⟨⟩
      exact ⟨h, rfl⟩
    · rintro ⟨-, hbuf⟩
      cases c'
      simp only at hbuf
      subst hbuf
      rfl
  · simp [h]

theorem send?_eq_none_iff {c : Chan α cap} {x : α} : c.send? x = none ↔ cap ≤ c.buf.length := by
  unfold send?
  split_ifs with h <;> simp <;> omega

theorem recv?_eq_some_iff {c c' : Chan α cap} {x : α} :
    c.recv? = some (x, c') ↔ c.buf = x :: c'.buf := by
  rcases c with ⟨_ | ⟨y, rest⟩, h⟩
  · simp [recv?]
  · constructor
    · intro hr
      simp only [recv?, Option.some.injEq, Prod.mk.injEq] at hr
      obtain ⟨rfl, rfl⟩ := hr
      rfl
    · intro hbuf
      cases c'
      simp only [List.cons.injEq] at hbuf
      obtain ⟨rfl, rfl⟩ := hbuf
      rfl

theorem send?_of_lt (c : Chan α cap) (x : α) (h : c.buf.length < cap) :
    ∃ c', c.send? x = some c' ∧ c'.buf = c.buf ++ [x] :=
  ⟨⟨c.buf ++ [x], by rw [List.length_append, List.length_singleton]; omega⟩, by simp [send?, h], rfl⟩

theorem recv?_of_cons {c : Chan α cap} {x : α} {rest : List α} (h : c.buf = x :: rest) :
    ∃ c', c.recv? = some (x, c') ∧ c'.buf = rest := by
  rcases c with ⟨buf, hb⟩
  simp only at h
  subst h
  exact ⟨⟨rest, by rw [List.length_cons] at hb; omega⟩, rfl, rfl⟩

-- A channel keeps what was sent in order: what was received, then what is
-- buffered, is what was sent. Sends and receives keep that.
theorem log_send {c c' : Chan α cap} {x : α} {sent received : List α}
    (hlog : received ++ c.buf = sent) (h : c.send? x = some c') :
    received ++ c'.buf = sent ++ [x] := by
  rw [(send?_eq_some_iff.mp h).2, ← List.append_assoc, hlog]

theorem log_recv {c c' : Chan α cap} {x : α} {sent received : List α}
    (hlog : received ++ c.buf = sent) (h : c.recv? = some (x, c')) :
    (received ++ [x]) ++ c'.buf = sent := by
  rw [recv?_eq_some_iff.mp h] at hlog
  simpa using hlog

end Chan

end Ducks.Lib
