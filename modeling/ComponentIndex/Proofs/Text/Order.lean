/-
**Sorting.**

Sorting by a strict order rearranges the items, and items no two of which are alike come out
strictly ascending.  Texts are strictly ordered by their code points.

Main definitions:

* `ComponentIndex.IsStrict` — a test is a strict order;
* `ComponentIndex.NamesOnce` — a list names the items of another one in the order of their appearance.

Main results:

* `ComponentIndex.sortBy_perm`, `ComponentIndex.pairwise_sortBy` — **sorting**;
* `ComponentIndex.pairwise_sortBy_of_comparable` — items that can be told apart come out strictly
  ascending;
* `ComponentIndex.IsStrict.eq_of_perm` — a strictly sorted list is determined by its items;
* `ComponentIndex.mem_distinct`, `ComponentIndex.distinct_append` — the items of a list without
  repetitions;
* `ComponentIndex.lookup_eq_some_iff_mem` — looking up keys that do not repeat;
* `ComponentIndex.NamesOnce.eq_distinct` — the list without repetitions is the only one that names each
  item once, in the order of appearance;
* `ComponentIndex.Text.isStrict_less`, `ComponentIndex.Text.less_or_less` — the order of texts.
-/

import ComponentIndex.Text.Order

set_option relaxedAutoImplicit false
set_option autoImplicit false

namespace ComponentIndex

/-! ### Sorting by a strict order -/

/-- A test of two items is a strict order. -/
structure IsStrict {α : Type} (less : α → α → Bool) : Prop where
  /-- No item comes before itself. -/
  irrefl : ∀ a, less a a = false
  /-- What comes before an item comes before all that the item comes before. -/
  trans : ∀ {a b c}, less a b → less b c → less a c

section

variable {α : Type} {less : α → α → Bool}

theorem IsStrict.comap (h : IsStrict less) {β : Type} (f : β → α) :
    IsStrict fun a b => less (f a) (f b) :=
  ⟨fun a => h.irrefl (f a), fun hab hbc => h.trans hab hbc⟩

theorem IsStrict.asymm (h : IsStrict less) {a b : α} (hab : less a b) : less b a = false := by
  cases hba : less b a with
  | false => rfl
  | true => exact absurd (h.trans hab hba) (by simp [h.irrefl])

theorem insertBy_perm (x : α) (xs : List α) : (insertBy less x xs).Perm (x :: xs) := by
  induction xs with
  | nil => exact .refl _
  | cons y ys ih =>
      rw [insertBy]
      split
      · exact .refl _
      · exact (ih.cons y).trans (.swap x y ys)

theorem pairwise_insertBy (h : IsStrict less) (x : α) {xs : List α}
    (hxs : xs.Pairwise fun a b => less b a = false) :
    (insertBy less x xs).Pairwise fun a b => less b a = false := by
  induction xs with
  | nil => exact List.pairwise_singleton _ _
  | cons y ys ih =>
      obtain ⟨hy, hys⟩ := List.pairwise_cons.1 hxs
      rw [insertBy]
      by_cases hxy : less x y
      · rw [if_pos hxy, List.pairwise_cons, List.forall_mem_cons]
        refine ⟨⟨h.asymm hxy, fun z hz => ?_⟩, hxs⟩
        -- An item behind `y` that came before `x` would come before `y`.
        cases hzx : less z x with
        | false => rfl
        | true => exact (h.trans hzx hxy).symm.trans (hy z hz)
      · rw [if_neg hxy, List.pairwise_cons]
        refine ⟨fun z hz => ?_, ih hys⟩
        rcases List.mem_cons.1 ((insertBy_perm x ys).mem_iff.1 hz) with rfl | hz
        · exact Bool.eq_false_iff.2 hxy
        · exact hy z hz

theorem foldl_insertBy_perm (xs sorted : List α) :
    (xs.foldl (fun sorted x => insertBy less x sorted) sorted).Perm (xs ++ sorted) := by
  induction xs generalizing sorted with
  | nil => exact .refl _
  | cons x xs ih =>
      rw [List.foldl_cons]
      exact (ih _).trans (((insertBy_perm x sorted).append_left xs).trans List.perm_middle)

theorem pairwise_foldl_insertBy (h : IsStrict less) (xs : List α) {sorted : List α}
    (hsorted : sorted.Pairwise fun a b => less b a = false) :
    (xs.foldl (fun sorted x => insertBy less x sorted) sorted).Pairwise
      fun a b => less b a = false := by
  induction xs generalizing sorted with
  | nil => exact hsorted
  | cons x xs ih => exact ih (pairwise_insertBy h x hsorted)

/-- Sorting rearranges the items. -/
theorem sortBy_perm (xs : List α) : (sortBy less xs).Perm xs := by
  have h : (sortBy less xs).Perm (xs ++ []) := foldl_insertBy_perm xs []
  rwa [List.append_nil] at h

/-- After sorting no item comes before one that stands in front of it. -/
theorem pairwise_sortBy (h : IsStrict less) (xs : List α) :
    (sortBy less xs).Pairwise fun a b => less b a = false :=
  pairwise_foldl_insertBy h xs .nil

/-- Items each two of which are in order one way or the other are sorted strictly. -/
theorem pairwise_sortBy_of_comparable (h : IsStrict less) {xs : List α}
    (hxs : xs.Pairwise fun a b => less a b ∨ less b a) :
    (sortBy less xs).Pairwise fun a b => less a b := by
  have hcomparable : (sortBy less xs).Pairwise fun a b => less a b ∨ less b a :=
    (sortBy_perm xs).symm.pairwise hxs fun hab => hab.symm
  refine ((pairwise_sortBy h xs).and hcomparable).imp ?_
  rintro a b ⟨hba, hab | hba'⟩
  · exact hab
  · exact absurd hba' (by simp [hba])

/-- A strictly sorted list is determined by its items. -/
theorem IsStrict.eq_of_perm (h : IsStrict less) {xs ys : List α} (hperm : xs.Perm ys)
    (hxs : xs.Pairwise fun a b => less a b) (hys : ys.Pairwise fun a b => less a b) : xs = ys := by
  refine hperm.eq_of_pairwise ?_ hxs hys
  intro a b _ _ hab hba
  exact absurd hba (by simp [h.asymm hab])

section

variable {β : Type} (f : β → α)

theorem map_insertBy (x : β) (xs : List β) :
    (insertBy (fun a b => less (f a) (f b)) x xs).map f = insertBy less (f x) (xs.map f) := by
  induction xs with
  | nil => rfl
  | cons y ys ih =>
      rw [insertBy, List.map_cons, insertBy]
      split
      · rw [List.map_cons, List.map_cons]
      · rw [List.map_cons, ih]

/-- Items that are sorted by what belongs to them are sorted along with it. -/
theorem map_sortBy (xs : List β) :
    (sortBy (fun a b => less (f a) (f b)) xs).map f = sortBy less (xs.map f) := by
  have h : ∀ sorted : List β,
      (xs.foldl (fun sorted x => insertBy (fun a b => less (f a) (f b)) x sorted) sorted).map f =
        (xs.map f).foldl (fun sorted x => insertBy less x sorted) (sorted.map f) := by
    induction xs with
    | nil => exact fun sorted => rfl
    | cons x xs ih =>
        intro sorted
        rw [List.foldl_cons, ih, map_insertBy, List.map_cons, List.foldl_cons]
  exact h []

end

end

/-! ### Lists without repetitions -/

theorem mem_foldl_distinct {α : Type} [BEq α] [LawfulBEq α] {x : α} {xs seen : List α} :
    x ∈ xs.foldl (fun seen x => if seen.contains x then seen else seen ++ [x]) seen ↔
      x ∈ seen ∨ x ∈ xs := by
  induction xs generalizing seen with
  | nil => simp
  | cons y ys ih =>
      rw [List.foldl_cons, ih, List.mem_cons, ← or_assoc]
      split
      next hseen =>
        have hy : y ∈ seen := List.contains_iff_mem.1 hseen
        refine or_congr_left ⟨Or.inl, ?_⟩
        rintro (h | rfl)
        · exact h
        · exact hy
      · rw [List.mem_append, List.mem_singleton]

/-- A list without repetitions holds the same items. -/
theorem mem_distinct {α : Type} [BEq α] [LawfulBEq α] {x : α} {xs : List α} :
    x ∈ distinct xs ↔ x ∈ xs := by
  rw [distinct, mem_foldl_distinct]
  simp

section

variable {α : Type} [BEq α] [LawfulBEq α]

/-- Behind items that have been seen come the items that have not, each once. -/
theorem foldl_distinct (xs seen : List α) :
    xs.foldl (fun seen x => if seen.contains x then seen else seen ++ [x]) seen =
      seen ++ (distinct xs).filter fun x => !seen.contains x := by
  induction xs generalizing seen with
  | nil => simp [distinct]
  | cons y ys ih =>
      have hcons : distinct (y :: ys) = [y] ++ (distinct ys).filter fun x => !([y].contains x) :=
        ih [y]
      rw [List.foldl_cons, ih, hcons, List.filter_append, List.filter_filter]
      split
      next hseen =>
        have hy : y ∈ seen := List.contains_iff_mem.1 hseen
        rw [List.filter_cons_of_neg (by simp [hy]), List.filter_nil, List.nil_append]
        refine congrArg (seen ++ ·) (List.filter_congr fun x _ => ?_)
        by_cases hxy : x = y
        · simp [hxy, hy]
        · simp [hxy]
      next hseen =>
        have hy : y ∉ seen := mt List.contains_iff_mem.2 hseen
        rw [List.filter_cons_of_pos (by simp [hy]), List.filter_nil, List.append_assoc]
        refine congrArg (fun zs => seen ++ ([y] ++ zs)) (List.filter_congr fun x _ => ?_)
        by_cases hxy : x = y
        · simp [hxy]
        · simp [hxy]

theorem distinct_cons (x : α) (xs : List α) :
    distinct (x :: xs) = x :: (distinct xs).filter fun y => !([x].contains y) :=
  foldl_distinct xs [x]

/-- The items of two lists in a row are those of the first one, and those of the second one that are
not among them. -/
theorem distinct_append (xs ys : List α) :
    distinct (xs ++ ys) = distinct xs ++ (distinct ys).filter fun y => !(distinct xs).contains y := by
  rw [distinct, List.foldl_append]
  exact foldl_distinct ys (distinct xs)

/-- An item that has been seen changes nothing when it comes again. -/
theorem distinct_append_cons_of_mem {front : List α} {x : α} (hx : x ∈ front) (rest : List α) :
    distinct (front ++ x :: rest) = distinct (front ++ rest) := by
  rw [distinct_append, distinct_append, distinct_cons,
    List.filter_cons_of_neg (by simp [mem_distinct, hx]), List.filter_filter]
  refine congrArg (distinct front ++ ·) (List.filter_congr fun y _ => ?_)
  by_cases hxy : y = x
  · simp [hxy, mem_distinct, hx]
  · simp [hxy]

/-- Where no key is found twice, a key is looked up to what stands beside it. -/
theorem lookup_eq_some_iff_mem {β : Type} {entries : List (α × β)}
    (h : (entries.map Prod.fst).Nodup) {key : α} {value : β} :
    entries.lookup key = some value ↔ (key, value) ∈ entries := by
  induction entries with
  | nil => simp
  | cons entry entries ih =>
      obtain ⟨key', value'⟩ := entry
      rw [List.map_cons, List.nodup_cons] at h
      rw [List.lookup_cons, List.mem_cons, Prod.mk.injEq]
      by_cases hkey : key = key'
      · subst hkey
        have hnot : (key, value) ∉ entries := fun hmem =>
          h.1 (List.mem_map.2 ⟨(key, value), hmem, rfl⟩)
        simp [hnot, eq_comm]
      · have hbeq : (key == key') = false := beq_false_of_ne hkey
        simp [hbeq, hkey, ih h.2]

/-- A list names the items of another one, each of them once, in the order in which they first appear
there. -/
structure NamesOnce (xs names : List α) : Prop where
  /-- Exactly the items are named. -/
  mem_iff : ∀ x, x ∈ names ↔ x ∈ xs
  /-- No item is named twice. -/
  nodup : names.Nodup
  /-- An item that is named before another one appears before it. -/
  ordered : names.Pairwise fun a b => xs.idxOf a < xs.idxOf b

theorem pairwise_distinct (xs : List α) :
    (distinct xs).Pairwise fun a b => xs.idxOf a < xs.idxOf b := by
  induction xs with
  | nil => exact .nil
  | cons x xs ih =>
      have hlater : ∀ y ∈ (distinct xs).filter (fun y => !([x].contains y)),
          (x :: xs).idxOf y = xs.idxOf y + 1 := by
        intro y hy
        have hxy : (x == y) = false := by
          rw [beq_eq_false_iff_ne]
          rintro rfl
          simp at hy
        rw [List.idxOf_cons, hxy, cond_false]
      rw [distinct_cons, List.pairwise_cons]
      refine ⟨fun b hb => ?_, (ih.filter _).imp_of_mem fun {a b} ha hb hab => ?_⟩
      · rw [List.idxOf_cons_self, hlater b hb]
        exact Nat.succ_pos _
      · rw [hlater a ha, hlater b hb]
        exact Nat.succ_lt_succ hab

/-- Without its repetitions a list names its items once, in the order of their appearance. -/
theorem namesOnce_distinct (xs : List α) : NamesOnce xs (distinct xs) where
  mem_iff _ := mem_distinct
  nodup := (pairwise_distinct xs).imp fun hab heq => absurd (heq ▸ hab) (Nat.lt_irrefl _)
  ordered := pairwise_distinct xs

/-- There is only one way to name the items of a list once, in the order of their appearance. -/
theorem NamesOnce.eq_distinct {xs names : List α} (h : NamesOnce xs names) : names = distinct xs := by
  have hperm : names.Perm (distinct xs) :=
    (List.perm_ext_iff_of_nodup h.nodup (namesOnce_distinct xs).nodup).2 fun x =>
      (h.mem_iff x).trans mem_distinct.symm
  refine hperm.eq_of_pairwise ?_ h.ordered (pairwise_distinct xs)
  intro a b _ _ hab hba
  exact absurd (Nat.lt_trans hab hba) (Nat.lt_irrefl _)

end

/-! ### The order of texts -/

theorem CodePoint.ext_val {a b : CodePoint} (h : a.val = b.val) : a = b := by
  cases a
  cases b
  cases h
  rfl

namespace Text

theorem less_cons {a b : CodePoint} {s t : Text} :
    less (a :: s) (b :: t) = true ↔ a.val < b.val ∨ a = b ∧ less s t = true := by
  rw [less, Bool.or_eq_true, Bool.and_eq_true, decide_eq_true_eq, beq_iff_eq]
  exact or_congr_right (and_congr_left' ⟨CodePoint.ext_val, congrArg _⟩)

theorem less_irrefl (t : Text) : less t t = false := by
  induction t with
  | nil => rfl
  | cons c t ih => simp [less, ih]

theorem less_trans {s t u : Text} (hst : less s t) (htu : less t u) : less s u := by
  induction s generalizing t u with
  | nil =>
      cases t with
      | nil => cases hst
      | cons b t =>
          cases u with
          | nil => cases htu
          | cons c u => rfl
  | cons a s ih =>
      cases t with
      | nil => cases hst
      | cons b t =>
          cases u with
          | nil => cases htu
          | cons c u =>
              rw [less_cons] at hst htu ⊢
              rcases hst with hab | ⟨rfl, hst⟩ <;> rcases htu with hbc | ⟨rfl, htu⟩
              · exact Or.inl (by omega)
              · exact Or.inl hab
              · exact Or.inl hbc
              · exact Or.inr ⟨rfl, ih hst htu⟩

/-- The order of texts by code points is strict. -/
theorem isStrict_less : IsStrict less := ⟨less_irrefl, less_trans⟩

/-- Of two different texts one comes before the other. -/
theorem less_or_less {s t : Text} (h : s ≠ t) : less s t ∨ less t s := by
  induction s generalizing t with
  | nil =>
      cases t with
      | nil => exact absurd rfl h
      | cons b t => exact Or.inl rfl
  | cons a s ih =>
      cases t with
      | nil => exact Or.inr rfl
      | cons b t =>
          rw [less_cons, less_cons]
          by_cases hab : a = b
          · subst hab
            have hst : s ≠ t := fun hst => h (by rw [hst])
            exact (ih hst).imp (fun hst => Or.inr ⟨rfl, hst⟩) fun hts => Or.inr ⟨rfl, hts⟩
          · have hval : a.val ≠ b.val := mt CodePoint.ext_val hab
            rcases Nat.lt_or_gt_of_ne hval with hlt | hgt
            · exact Or.inl (Or.inl hlt)
            · exact Or.inr (Or.inl hgt)

end Text

end ComponentIndex
