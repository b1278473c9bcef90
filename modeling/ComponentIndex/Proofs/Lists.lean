/-
**Lists and options.**

Two lists can be related member by member, and so can two options, the values of which stand beside each
other or are missing together.  What is looked up in the first one is then related to what is looked up in
the second one.

Main results:

* `ComponentIndex.forall₂_find?`, `ComponentIndex.forall₂_filter`, `ComponentIndex.forall₂_filterMap` —
  searching lists side by side;
* `ComponentIndex.rel_bind`, `ComponentIndex.map_eq_of_rel` — going on with options side by side;
* `ComponentIndex.eq_flatMap_of_append` — what is put together from single members.
-/

import Mathlib.Data.List.Forall2

set_option relaxedAutoImplicit false
set_option autoImplicit false

namespace ComponentIndex

variable {α β γ δ : Type}

/-! ### Lists side by side -/

section

variable {R : α → β → Prop} {xs : List α} {ys : List β}

theorem forall₂_head? (h : List.Forall₂ R xs ys) : Option.Rel R xs.head? ys.head? := by
  cases h with
  | nil => exact .none
  | cons hhead _ => exact .some hhead

theorem forall₂_getElem? (h : List.Forall₂ R xs ys) (i : Nat) : Option.Rel R xs[i]? ys[i]? := by
  induction h generalizing i with
  | nil => exact .none
  | cons hhead _ ih =>
      cases i with
      | zero => exact .some hhead
      | succ i => exact ih i

section

variable {p : α → Bool} {q : β → Bool} (hpq : ∀ x y, R x y → q y = p x) (h : List.Forall₂ R xs ys)

include hpq h

theorem forall₂_find? : Option.Rel R (xs.find? p) (ys.find? q) := by
  induction h with
  | nil => exact .none
  | @cons x y _ _ hhead _ ih =>
      rw [List.find?_cons, List.find?_cons, hpq x y hhead]
      cases p x with
      | true => exact .some hhead
      | false => exact ih

theorem forall₂_filter : List.Forall₂ R (xs.filter p) (ys.filter q) :=
  List.rel_filter (fun x y hxy => Bool.eq_iff_iff.1 (hpq x y hxy).symm) h

end

/-- The results of a partial function stand beside the members for which it has one. -/
theorem forall₂_filterMap {f : α → Option β} {p : α → Bool} (hp : ∀ a, (f a).isSome = p a)
    (hR : ∀ a b, f a = some b → R a b) (xs : List α) :
    List.Forall₂ R (xs.filter p) (xs.filterMap f) := by
  induction xs with
  | nil => exact .nil
  | cons a xs ih =>
      have hpa := hp a
      cases ha : f a with
      | none =>
          rw [ha, Option.isSome_none] at hpa
          rw [List.filterMap_cons_none ha, List.filter_cons_of_neg (by simp [← hpa])]
          exact ih
      | some b =>
          rw [ha, Option.isSome_some] at hpa
          rw [List.filterMap_cons_some ha, List.filter_cons_of_pos hpa.symm]
          exact .cons (hR a b ha) ih

end

/-! ### Options side by side -/

section

variable {R : α → β → Prop} {x? : Option α} {y? : Option β}

theorem rel_imp_of_eq_some {S : α → β → Prop} (hRS : ∀ x y, x? = some x → R x y → S x y)
    (h : Option.Rel R x? y?) : Option.Rel S x? y? := by
  cases h with
  | none => exact .none
  | some hxy => exact .some (hRS _ _ rfl hxy)

theorem rel_imp {S : α → β → Prop} (hRS : ∀ x y, R x y → S x y) (h : Option.Rel R x? y?) :
    Option.Rel S x? y? :=
  rel_imp_of_eq_some (fun x y _ => hRS x y) h

theorem exists_of_rel {x : α} (h : Option.Rel R x? y?) (hx : x? = some x) :
    ∃ y, y? = some y ∧ R x y := by
  subst hx
  cases h with
  | some hxy => exact ⟨_, rfl, hxy⟩

theorem rel_bind {S : γ → δ → Prop} {f : α → Option γ} {g : β → Option δ}
    (h : Option.Rel R x? y?) (hfg : ∀ x y, R x y → Option.Rel S (f x) (g y)) :
    Option.Rel S (x?.bind f) (y?.bind g) := by
  cases h with
  | none => exact .none
  | some hxy => exact hfg _ _ hxy

theorem map_eq_of_rel {f : α → γ} {g : β → γ} (hfg : ∀ x y, R x y → g y = f x)
    (h : Option.Rel R x? y?) : y?.map g = x?.map f := by
  cases h with
  | none => rfl
  | some hxy => exact congrArg some (hfg _ _ hxy)

theorem bind_eq_of_rel {f : α → Option γ} {g : β → Option γ} (hfg : ∀ x y, R x y → g y = f x)
    (h : Option.Rel R x? y?) : y?.bind g = x?.bind f := by
  cases h with
  | none => rfl
  | some hxy => exact hfg _ _ hxy

theorem any_eq_of_rel {p : α → Bool} {q : β → Bool} (hpq : ∀ x y, R x y → q y = p x)
    (h : Option.Rel R x? y?) : y?.any q = x?.any p := by
  cases h with
  | none => rfl
  | some hxy => exact hpq _ _ hxy

end

/-! ### Lists put together -/

theorem mapM_eq_some_iff {f : α → Option β} {xs : List α} {ys : List β} :
    xs.mapM f = some ys ↔ xs.map f = ys.map some := by
  induction xs generalizing ys with
  | nil => cases ys <;> simp
  | cons x xs ih =>
      cases ys with
      | nil => cases hx : f x <;> cases hxs : xs.mapM f <;> simp [hx, hxs]
      | cons y ys =>
          rw [List.map_cons, List.map_cons, List.cons.injEq, ← ih, List.mapM_cons]
          cases hx : f x <;> cases hxs : xs.mapM f <;> simp

theorem flatMap_filter (p : α → Bool) (f : α → List β) (xs : List α) :
    (xs.filter p).flatMap f = xs.flatMap fun x => if p x then f x else [] := by
  induction xs with
  | nil => rfl
  | cons x xs ih =>
      rw [List.flatMap_cons, ← ih, List.filter_cons]
      split
      · rw [List.flatMap_cons]
      · rfl

/-- A function on lists that keeps their concatenation puts its value together from single members. -/
theorem eq_flatMap_of_append {f : List α → List β} (h : ∀ xs ys, f (xs ++ ys) = f xs ++ f ys)
    (xs : List α) : f xs = xs.flatMap fun x => f [x] := by
  induction xs with
  | nil =>
      have hlength := congrArg List.length (h [] [])
      rw [List.nil_append, List.length_append] at hlength
      rw [List.flatMap_nil, ← List.length_eq_zero_iff]
      omega
  | cons x xs ih => rw [← List.singleton_append, h, ih, List.flatMap_append, List.flatMap_singleton]

end ComponentIndex
