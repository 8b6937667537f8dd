import Mathlib.Data.List.Infix

namespace Ducks.Lib

-- Loops in the error monad, as Go writes them: `for _, x := range xs { if err :=
-- f(x); err != nil { return err } }`, and runs of a step function that may refuse
-- a label. Nothing here names the program.

variable {α β ε : Type}

-- Run `f` on each element in order and stop at the first failure: the elements
-- `f` was run on, and the failure if there was one.
def runUntilError (f : α → Except ε Unit) : List α → List α × Option ε
  | [] => ([], none)
  | x :: xs =>
    match f x with
    | .error e => ([x], some e)
    | .ok () =>
      let rest := runUntilError f xs
      (x :: rest.1, rest.2)

section RunUntilError

variable {f : α → Except ε Unit}

@[simp] theorem runUntilError_nil : runUntilError f [] = ([], none) := rfl

theorem runUntilError_cons_ok {x : α} {xs : List α} (h : f x = .ok ()) :
    runUntilError f (x :: xs) = (x :: (runUntilError f xs).1, (runUntilError f xs).2) := by
  simp [runUntilError, h]

theorem runUntilError_cons_error {x : α} {xs : List α} {e : ε} (h : f x = .error e) :
    runUntilError f (x :: xs) = ([x], some e) := by
  simp [runUntilError, h]

-- The loop runs on a prefix of the list.
theorem runUntilError_isPrefix_self (xs : List α) : (runUntilError f xs).1 <+: xs := by
  induction xs with
  | nil => simp
  | cons x xs ih =>
    cases hx : f x with
    | error e =>
      rw [runUntilError_cons_error hx]
      exact (List.prefix_cons_inj x).mpr List.nil_prefix
    | ok u =>
      cases u
      rw [runUntilError_cons_ok hx]
      exact (List.prefix_cons_inj x).mpr ih

theorem runUntilError_of_none {xs : List α} (h : (runUntilError f xs).2 = none) :
    (runUntilError f xs).1 = xs := by
  induction xs with
  | nil => rfl
  | cons x xs ih =>
    cases hx : f x with
    | error e => simp [runUntilError_cons_error hx] at h
    | ok u =>
      cases u
      rw [runUntilError_cons_ok hx] at h ⊢
      rw [ih h]

-- A failure is the first one: every earlier call succeeded, the last one failed.
theorem runUntilError_of_some {xs : List α} {e : ε} (h : (runUntilError f xs).2 = some e) :
    ∃ pre x, (runUntilError f xs).1 = pre ++ [x] ∧ (∀ y ∈ pre, f y = .ok ()) ∧ f x = .error e := by
  induction xs with
  | nil => simp at h
  | cons x xs ih =>
    cases hx : f x with
    | error e' =>
      rw [runUntilError_cons_error hx] at h ⊢
      cases h
      exact ⟨[], x, rfl, by simp, hx⟩
    | ok u =>
      cases u
      rw [runUntilError_cons_ok hx] at h ⊢
      obtain ⟨pre, y, hrun, hpre, hy⟩ := ih h
      refine ⟨x :: pre, y, by rw [hrun]; rfl, ?_, hy⟩
      intro z hz
      rcases List.mem_cons.mp hz with rfl | hz
      · exact hx
      · exact hpre z hz

end RunUntilError

-- The accumulating loop `for _, x := range xs { ys, err := f(x); if err != nil {
-- return err }; acc = append(acc, ys...) }`, as a monadic fold.
def appendEach (f : α → Except ε (List β)) (acc : List β) (xs : List α) : Except ε (List β) :=
  xs.foldlM (fun acc x => do
    let ys ← f x
    pure (acc ++ ys)) acc

-- One round of the loop: a call that succeeds appends its result to the accumulator.
theorem appendEach_cons_ok {f : α → Except ε (List β)} {x : α} {ys : List β} (hx : f x = .ok ys)
    (acc : List β) (xs : List α) : appendEach f acc (x :: xs) = appendEach f (acc ++ ys) xs := by
  simp [appendEach, List.foldlM_cons, hx, bind, Except.bind, pure, Except.pure]

theorem appendEach_cons_error {f : α → Except ε (List β)} {x : α} {e : ε} (hx : f x = .error e)
    (acc : List β) (xs : List α) : appendEach f acc (x :: xs) = .error e := by
  simp [appendEach, List.foldlM_cons, hx, bind, Except.bind]

-- When every call succeeds the loop concatenates the results in order.
theorem appendEach_of_ok {f : α → Except ε (List β)} {g : α → List β} {xs : List α}
    (h : ∀ x ∈ xs, f x = .ok (g x)) (acc : List β) :
    appendEach f acc xs = .ok (acc ++ xs.flatMap g) := by
  induction xs generalizing acc with
  | nil => simp [appendEach, pure, Except.pure]
  | cons x xs ih =>
    have hxs := ih (fun y hy => h y (List.mem_cons_of_mem x hy)) (acc ++ g x)
    rw [appendEach_cons_ok (h x List.mem_cons_self), hxs, List.flatMap_cons, List.append_assoc]

-- When a call fails the loop returns its error, whatever comes after it.
theorem appendEach_of_error {f : α → Except ε (List β)} {pre post : List α} {x : α} {e : ε}
    (hpre : ∀ y ∈ pre, ∃ ys, f y = .ok ys) (hx : f x = .error e) (acc : List β) :
    appendEach f acc (pre ++ x :: post) = .error e := by
  induction pre generalizing acc with
  | nil => exact appendEach_cons_error hx acc post
  | cons y pre ih =>
    obtain ⟨ys, hy⟩ := hpre y List.mem_cons_self
    rw [List.cons_append, appendEach_cons_ok hy]
    exact ih (fun z hz => hpre z (List.mem_cons_of_mem y hz)) (acc ++ ys)

-- A loop whose body ignores the element: it fails at the first element if it
-- fails at all, and otherwise yields one result per element.
theorem mapM_const_ok (x : β) (xs : List α) :
    xs.mapM (fun _ => (.ok x : Except ε β)) = .ok (xs.map fun _ => x) := by
  induction xs with
  | nil => rfl
  | cons a xs ih => simp [List.mapM_cons, ih, bind, Except.bind, pure, Except.pure]

theorem mapM_const_error (e : ε) {xs : List α} (hxs : xs ≠ []) :
    xs.mapM (fun _ => (.error e : Except ε β)) = .error e := by
  cases xs with
  | nil => exact absurd rfl hxs
  | cons a xs => simp [List.mapM_cons, bind, Except.bind]

section Run

variable {σ ι : Type} {step : σ → ι → Option σ}

-- A run of the labels in order keeps every property that each step keeps: the run
-- lemma of a step lemma.
theorem foldlM_preserves (P : σ → Prop) (hstep : ∀ {s s' : σ} (l : ι), P s → step s l = some s' → P s')
    (ls : List ι) {s s' : σ} (hs : P s) (hr : ls.foldlM step s = some s') : P s' := by
  induction ls generalizing s with
  | nil =>
    cases hr
    exact hs
  | cons l ls ih =>
    rw [List.foldlM_cons] at hr
    obtain ⟨s₁, h₁, hr⟩ := Option.bind_eq_some_iff.mp hr
    exact ih (hstep l hs h₁) hr

end Run

end Ducks.Lib
