/-
**Computations that can fail.**

Main definitions:

* `ComponentIndex.confirms` — a test that can fail gives a positive answer.

Main results:

* `ComponentIndex.bind_eq_ok_iff` — a computation that goes on with the result of another one;
* `ComponentIndex.mapM_eq_ok_iff` — one computation for each item of a list;
* `ComponentIndex.eq_filter_of_filterM` — a selection by a test that can fail is a selection;
* `ComponentIndex.filterM_eq` — the whole outcome of a selection, if the test fails in one way only.
-/

import ComponentIndex.Failure

set_option relaxedAutoImplicit false
set_option autoImplicit false

namespace ComponentIndex

variable {α β : Type}

/-- A computation that goes on with the result of another one succeeds if both do. -/
theorem bind_eq_ok_iff {ε : Type} {x : Except ε α} {f : α → Except ε β} {b : β} :
    x >>= f = .ok b ↔ ∃ a, x = .ok a ∧ f a = .ok b := by
  cases x with
  | error e => simp [bind, Except.bind]
  | ok a => simp [bind, Except.bind]

theorem bind_eq_error_iff {ε : Type} {x : Except ε α} {f : α → Except ε β} {e : ε} :
    x >>= f = .error e ↔ x = .error e ∨ ∃ a, x = .ok a ∧ f a = .error e := by
  cases x with
  | error e' => simp [bind, Except.bind]
  | ok a => simp [bind, Except.bind]

/-- Computations for the items of a list succeed together if each of them does. -/
theorem mapM_eq_ok_iff {ε : Type} {f : α → Except ε β} {xs : List α} {ys : List β} :
    xs.mapM f = .ok ys ↔ xs.map f = ys.map .ok := by
  induction xs generalizing ys with
  | nil =>
      rw [List.mapM_nil, List.map_nil]
      constructor
      · intro h
        obtain rfl : [] = ys := Except.ok.inj h
        rfl
      · intro h
        rw [List.map_eq_nil_iff.1 h.symm]
        rfl
  | cons x xs ih =>
      rw [List.mapM_cons, bind_eq_ok_iff, List.map_cons]
      constructor
      · rintro ⟨y, hy, h⟩
        obtain ⟨ys', hys, h⟩ := bind_eq_ok_iff.1 h
        obtain rfl := Except.ok.inj h
        rw [List.map_cons, hy, ih.1 hys]
      · intro h
        obtain ⟨y, ys', rfl⟩ := List.exists_cons_of_ne_nil
          (fun hnil : ys = [] => by rw [hnil] at h; cases h)
        rw [List.map_cons, List.cons.injEq] at h
        exact ⟨y, h.1, bind_eq_ok_iff.2 ⟨ys', ih.2 h.2, rfl⟩⟩

theorem mem_of_mapM {ε : Type} {f : α → Except ε β} {xs : List α} {ys : List β}
    (h : xs.mapM f = .ok ys) {y : β} : y ∈ ys ↔ ∃ x ∈ xs, f x = .ok y := by
  have hmem : (.ok y : Except ε β) ∈ xs.map f ↔ ∃ x ∈ xs, f x = .ok y := List.mem_map
  rw [← hmem, mapM_eq_ok_iff.1 h, List.mem_map]
  constructor
  · intro hy
    exact ⟨y, hy, rfl⟩
  · rintro ⟨y', hy', heq⟩
    obtain rfl := Except.ok.inj heq
    exact hy'

theorem exists_mapM_eq_ok {ε : Type} {f : α → Except ε β} {xs : List α}
    (h : ∀ x ∈ xs, ∃ y, f x = .ok y) : ∃ ys, xs.mapM f = .ok ys := by
  induction xs with
  | nil => exact ⟨[], rfl⟩
  | cons x xs ih =>
      rw [List.forall_mem_cons] at h
      obtain ⟨y, hy⟩ := h.1
      obtain ⟨ys, hys⟩ := ih h.2
      refine ⟨y :: ys, mapM_eq_ok_iff.2 ?_⟩
      rw [List.map_cons, List.map_cons, hy, mapM_eq_ok_iff.1 hys]

/-- Of computations that succeed together each one succeeds. -/
theorem exists_of_mapM {ε : Type} {f : α → Except ε β} {xs : List α} {ys : List β}
    (h : xs.mapM f = .ok ys) {x : α} (hx : x ∈ xs) : ∃ y ∈ ys, f x = .ok y := by
  have hmem : f x ∈ ys.map .ok := by
    rw [← mapM_eq_ok_iff.1 h]
    exact List.mem_map_of_mem hx
  obtain ⟨y, hy, hfx⟩ := List.mem_map.1 hmem
  exact ⟨y, hy, hfx.symm⟩

/-- Computations that fail together fail as one of them does. -/
theorem exists_of_mapM_error {ε : Type} {f : α → Except ε β} {xs : List α} {e : ε}
    (h : xs.mapM f = .error e) : ∃ x ∈ xs, f x = .error e := by
  induction xs with
  | nil => cases h
  | cons x xs ih =>
      rw [List.mapM_cons] at h
      rcases bind_eq_error_iff.1 h with hx | ⟨y, -, h⟩
      · exact ⟨x, List.mem_cons_self, hx⟩
      · rcases bind_eq_error_iff.1 h with hxs | ⟨ys, -, h⟩
        · obtain ⟨x', hx', hfx⟩ := ih hxs
          exact ⟨x', List.mem_cons_of_mem _ hx', hfx⟩
        · cases h

/-- A test that can fail gives a positive answer. -/
def confirms : Except Failure Bool → Bool
  | .ok answer => answer
  | .error _ => false

theorem confirms_eq_true_iff {x : Except Failure Bool} : confirms x = true ↔ x = .ok true := by
  cases x with
  | error e => simp [confirms]
  | ok answer => simp [confirms]

theorem eq_reverse_filter_of_filterAuxM {p : α → Except Failure Bool} {xs acc ys : List α}
    (h : List.filterAuxM p xs acc = .ok ys) :
    ys.reverse = acc.reverse ++ xs.filter fun x => confirms (p x) := by
  induction xs generalizing acc with
  | nil =>
      obtain rfl : acc = ys := Except.ok.inj h
      exact (List.append_nil _).symm
  | cons x xs ih =>
      obtain ⟨answer, hx, hxs⟩ := bind_eq_ok_iff.1 h
      rw [ih hxs]
      cases answer with
      | false => rw [List.filter_cons_of_neg (by simp [hx, confirms])]; rfl
      | true =>
          rw [List.filter_cons_of_pos (by simp [hx, confirms]), cond_true, List.reverse_cons,
            List.append_assoc]
          rfl

/-- A selection by a test that can fail selects what the test confirms. -/
theorem eq_filter_of_filterM {p : α → Except Failure Bool} {xs ys : List α}
    (h : xs.filterM p = .ok ys) : ys = xs.filter fun x => confirms (p x) := by
  obtain ⟨zs, hzs, hys⟩ := bind_eq_ok_iff.1 h
  obtain rfl : zs.reverse = ys := Except.ok.inj hys
  exact eq_reverse_filter_of_filterAuxM hzs

theorem filterAuxM_eq {p : α → Except Failure Bool} {failure : Failure} {xs acc : List α}
    (h : ∀ x ∈ xs, ∀ e, p x = .error e → e = failure) :
    List.filterAuxM p xs acc =
      if xs.all fun x => (p x).isOk then .ok ((xs.filter fun x => confirms (p x)).reverse ++ acc)
      else .error failure := by
  induction xs generalizing acc with
  | nil => rfl
  | cons x xs ih =>
      rw [List.forall_mem_cons] at h
      cases hx : p x with
      | error e =>
          obtain rfl := h.1 e hx
          simp [List.filterAuxM, hx, Except.isOk, Except.toBool, bind, Except.bind]
      | ok answer =>
          have hnext : List.filterAuxM p (x :: xs) acc =
              List.filterAuxM p xs (cond answer (x :: acc) acc) := by
            simp [List.filterAuxM, hx, bind, Except.bind]
          rw [hnext, ih h.2]
          cases answer with
          | false => simp [hx, confirms, Except.isOk, Except.toBool]
          | true => simp [hx, confirms, Except.isOk, Except.toBool]

/-- A selection by a test that fails in one way only: it fails if the test does on some item, and
else selects what the test confirms. -/
theorem filterM_eq {p : α → Except Failure Bool} {failure : Failure} {xs : List α}
    (h : ∀ x ∈ xs, ∀ e, p x = .error e → e = failure) :
    xs.filterM p =
      if xs.all fun x => (p x).isOk then .ok (xs.filter fun x => confirms (p x))
      else .error failure := by
  rw [List.filterM, filterAuxM_eq h]
  split
  · simp [bind, Except.bind, pure, Except.pure]
  · rfl

end ComponentIndex
