/-
**The registry as a map, and what is emitted by it.**

A registry is written and read under keys that are told as a key of descriptors or as a plain text; both
tell the same if they have the same text.  Of all writes of a key, those of the entries it was made from
included, the last one counts.  An element is emitted to a sink, if there is one, exactly if its key is
registered at that moment, and nothing but a registration changes the registry.

Main definitions:

* `ComponentIndex.Registry.KeyForm` — a key as it is told;
* `ComponentIndex.Registry.Call`, `ComponentIndex.Registry.Answer`, `ComponentIndex.Registry.Session` —
  what is asked of a registry, what it answers, and where things stand between two calls;
* `ComponentIndex.Registry.IsLast` — of all writes of a key the last one writes an index;
* `ComponentIndex.Registry.Holds` — a registry holds what has been written;
* `ComponentIndex.Registry.Session.Follows` — all answers follow from what has been written.

Main results:

* `ComponentIndex.Registry.lookup?_register` — a registration changes one key;
* `ComponentIndex.Registry.Holds.register`, `ComponentIndex.Registry.Session.holds_run` — what a registry
  holds after a registration, and after any calls;
* `ComponentIndex.Registry.Session.run_follows` — **the last write wins**, in any run.
-/

import ComponentIndex.Index.Element
import ComponentIndex.Proofs.Text.Order
import Mathlib.Data.List.Induction

set_option relaxedAutoImplicit false
set_option autoImplicit false

namespace ComponentIndex.Registry

open Script (Cursor)

/-! ### Registrations -/

theorem lookup_cons_eq_if {key other value : Text} {entries : List (Text × Text)} :
    ((key, value) :: entries).lookup other =
      if other = key then some value else entries.lookup other := by
  rw [List.lookup_cons]
  by_cases h : other = key
  · simp [h]
  · simp [beq_false_of_ne h, h]

theorem lookup_put (key index other : Text) (entries : List (Text × Text)) :
    (put key index entries).lookup other =
      if other = key then some index else entries.lookup other := by
  induction entries with
  | nil => exact lookup_cons_eq_if
  | cons entry entries ih =>
      obtain ⟨k, v⟩ := entry
      rw [put]
      by_cases hk : k = key
      · subst hk
        rw [if_pos rfl, lookup_cons_eq_if, lookup_cons_eq_if]
        split <;> rfl
      · rw [if_neg hk, lookup_cons_eq_if, lookup_cons_eq_if, ih]
        by_cases hother : other = k
        · rw [if_pos hother, if_pos hother, if_neg (hother ▸ hk)]
        · rw [if_neg hother, if_neg hother]

theorem mem_map_fst_put {key index other : Text} {entries : List (Text × Text)} :
    other ∈ (put key index entries).map Prod.fst ↔
      other = key ∨ other ∈ entries.map Prod.fst := by
  induction entries with
  | nil => simp [put]
  | cons entry entries ih =>
      obtain ⟨k, v⟩ := entry
      rw [put]
      split
      next hk => simp [hk]
      next => rw [List.map_cons, List.map_cons, List.mem_cons, List.mem_cons, ih, or_left_comm]

theorem nodup_map_fst_put (key index : Text) {entries : List (Text × Text)}
    (h : (entries.map Prod.fst).Nodup) : ((put key index entries).map Prod.fst).Nodup := by
  induction entries with
  | nil => simp [put]
  | cons entry entries ih =>
      obtain ⟨k, v⟩ := entry
      rw [List.map_cons, List.nodup_cons] at h
      rw [put]
      split
      next hk =>
        rw [List.map_cons, List.nodup_cons, ← hk]
        exact h
      next hk =>
        rw [List.map_cons, List.nodup_cons, mem_map_fst_put]
        exact ⟨fun hmem => hmem.elim hk h.1, ih h.2⟩

/-- A registration changes what one key stands for. -/
theorem lookup?_register (key index other : Text) (r : Registry) :
    (r.register key index).lookup? other = if other = key then some index else r.lookup? other :=
  lookup_put key index other r.entries

/-! ### What has been written -/

/-- Of all writes of a key the last one writes an index. -/
def IsLast (writes : List (Text × Text)) (key index : Text) : Prop :=
  ∃ before after, writes = before ++ (key, index) :: after ∧ ∀ w ∈ after, w.1 ≠ key

theorem not_isLast_nil (key index : Text) : ¬IsLast [] key index := by
  rintro ⟨before, after, heq, -⟩
  exact List.append_ne_nil_of_right_ne_nil before (List.cons_ne_nil _ after) heq.symm

/-- A write behind all others is the last one of its key, and does not count for other keys. -/
theorem isLast_concat_iff {writes : List (Text × Text)} {key index other index' : Text} :
    IsLast (writes ++ [(key, index)]) other index' ↔
      if other = key then index = index' else IsLast writes other index' := by
  constructor
  · rintro ⟨before, after, heq, hafter⟩
    rcases List.eq_nil_or_concat after with rfl | ⟨after, w, rfl⟩
    · obtain ⟨-, hw⟩ := List.append_inj' heq rfl
      obtain ⟨rfl, rfl⟩ := Prod.mk.inj (List.head_eq_of_cons_eq hw)
      rw [if_pos rfl]
    · rw [List.concat_eq_append, List.forall_mem_append] at hafter
      rw [List.concat_eq_append, ← List.cons_append, ← List.append_assoc] at heq
      obtain ⟨hwrites, hw⟩ := List.append_inj' heq rfl
      obtain rfl := List.head_eq_of_cons_eq hw
      rw [if_neg (Ne.symm (hafter.2 _ List.mem_cons_self))]
      exact ⟨before, after, hwrites, hafter.1⟩
  · intro h
    split at h
    next hother =>
      subst hother h
      exact ⟨writes, [], rfl, nofun⟩
    next hother =>
      obtain ⟨before, after, rfl, hafter⟩ := h
      refine ⟨before, after ++ [(key, index)], by simp, ?_⟩
      rw [List.forall_mem_append]
      exact ⟨hafter, by simpa using Ne.symm hother⟩

/-- A registry holds what has been written: no key has two entries, and each key stands for the index
of its last write. -/
structure Holds (writes : List (Text × Text)) (r : Registry) : Prop where
  /-- No key has two entries. -/
  nodup : (r.entries.map Prod.fst).Nodup
  /-- A key stands for the index of its last write. -/
  lookup?_iff : ∀ key index, r.lookup? key = some index ↔ IsLast writes key index

theorem holds_empty : Holds [] empty where
  nodup := .nil
  lookup?_iff key index := ⟨nofun, fun h => absurd h (not_isLast_nil key index)⟩

section

variable {writes : List (Text × Text)} {r : Registry} (h : Holds writes r)
include h

theorem Holds.register (key index : Text) :
    Holds (writes ++ [(key, index)]) (r.register key index) where
  nodup := nodup_map_fst_put key index h.nodup
  lookup?_iff other index' := by
    rw [lookup?_register, isLast_concat_iff]
    split
    · exact Option.some_inj
    · exact h.lookup?_iff other index'

theorem Holds.contains_iff {key : Text} : r.contains key = true ↔ ∃ index, IsLast writes key index := by
  rw [contains, Option.isSome_iff_exists]
  exact exists_congr (h.lookup?_iff key)

/-- The items are the entries in the order of their keys. -/
theorem Holds.mem_items_iff {key index : Text} : (key, index) ∈ r.items ↔ IsLast writes key index := by
  rw [items, (sortBy_perm r.entries).mem_iff, ← lookup_eq_some_iff_mem h.nodup]
  exact h.lookup?_iff key index

theorem Holds.pairwise_items : r.items.Pairwise fun a b => a.1.less b.1 := by
  refine pairwise_sortBy_of_comparable (Text.isStrict_less.comap Prod.fst) ?_
  exact (List.pairwise_map.1 h.nodup).imp Text.less_or_less

end

theorem length_items (r : Registry) : r.items.length = r.size := (sortBy_perm r.entries).length_eq

theorem ofList_concat (entries : List (Text × Text)) (entry : Text × Text) :
    ofList (entries ++ [entry]) = (ofList entries).register entry.1 entry.2 := List.foldl_append

/-- A registry that is made from entries holds them. -/
theorem holds_ofList (entries : List (Text × Text)) : Holds entries (ofList entries) := by
  induction entries using List.reverseRecOn with
  | nil => exact holds_empty
  | append_singleton entries entry ih =>
      rw [ofList_concat]
      exact ih.register entry.1 entry.2

/-! ### Calls -/

/-- A key as it is told: one of the keys of descriptors, or a plain text. -/
inductive KeyForm where
  /-- A key of descriptors. -/
  | descriptor (k : Descriptor.Key)
  /-- A plain text. -/
  | plain (t : Text)

/-- The text of a key. -/
def KeyForm.text : KeyForm → Text
  | .descriptor k => k.label
  | .plain t => t

/-- What is asked of a registry. -/
inductive Call where
  /-- A key is to stand for an index. -/
  | register (key : KeyForm) (index : Text)
  /-- The index that a key stands for. -/
  | lookup (key : KeyForm)
  /-- Whether a key stands for an index. -/
  | contains (key : KeyForm)
  /-- The number of keys. -/
  | size
  /-- The entries in the order of their keys. -/
  | items
  /-- An element is to be emitted to a sink, or to none. -/
  | emit (name : Text) (key : KeyForm) (declaring : Cursor) (sink : Option Nat)

/-- The write that a call is, if it is a registration. -/
def Call.write? : Call → Option (Text × Text)
  | .register key index => some (key.text, index)
  | _ => none

/-- What a registry answers. -/
inductive Answer where
  /-- Nothing. -/
  | nothing
  /-- An index, if there is one. -/
  | index (found : Option Text)
  /-- Yes or no. -/
  | truth (b : Bool)
  /-- A number. -/
  | number (n : Nat)
  /-- Entries. -/
  | entries (es : List (Text × Text))

/-- A registry, and the indexes and names that the sinks have received. -/
structure Session where
  /-- The registry. -/
  registry : Registry
  /-- What each sink has received. -/
  received : Nat → List (Text × Text)

namespace Session

/-- What the sinks have received after one of them has received one thing more. -/
def receive (sink : Option Nat) (occurrence : Text × Text) (received : Nat → List (Text × Text)) :
    Nat → List (Text × Text) :=
  fun i => if sink = some i then received i ++ [occurrence] else received i

/-- Takes a call. -/
def perform (s : Session) : Call → Answer × Session
  | .register key index => (.nothing, ⟨s.registry.register key.text index, s.received⟩)
  | .lookup key => (.index (s.registry.lookup? key.text), s)
  | .contains key => (.truth (s.registry.contains key.text), s)
  | .size => (.number s.registry.size, s)
  | .items => (.entries s.registry.items, s)
  | .emit name key declaring sink =>
    match (⟨name, key.text, declaring⟩ : Element).occurrence? s.registry with
    | none => (.truth false, s)
    | some occurrence => (.truth true, ⟨s.registry, receive sink occurrence s.received⟩)

/-- Where things stand after some calls, beginning with a registry made from entries. -/
def run (entries : List (Text × Text)) (calls : List Call) : Session :=
  calls.foldl (fun s c => (s.perform c).2) ⟨ofList entries, fun _ => []⟩

/-- All answers follow from what has been written. -/
structure Follows (s : Session) (writes : List (Text × Text)) : Prop where
  /-- A key is looked up to the index of its last write, whichever way it is told. -/
  lookup : ∀ key, ∃ found, s.perform (.lookup key) = (.index found, s) ∧
    ∀ index, found = some index ↔ IsLast writes key.text index
  /-- A key is contained if it has been written. -/
  contains : ∀ key, ∃ b, s.perform (.contains key) = (.truth b, s) ∧
    (b = true ↔ ∃ index, IsLast writes key.text index)
  /-- The items are strictly sorted by their keys and tell the last write of each, and they are as many
  as the registry has keys. -/
  items : ∃ es, s.perform .items = (.entries es, s) ∧ s.perform .size = (.number es.length, s) ∧
    es.Pairwise (fun a b => a.1.less b.1) ∧ ∀ key index, (key, index) ∈ es ↔ IsLast writes key index
  /-- An element with a key that has been written is emitted once, to the sink that is given. -/
  emitted : ∀ name key declaring sink index, IsLast writes key.text index →
    s.perform (.emit name key declaring sink) =
      (.truth true, ⟨s.registry, receive sink (index, name) s.received⟩)
  /-- An element with a key that has not been written is not emitted. -/
  refused : ∀ name key declaring sink, (∀ index, ¬IsLast writes key.text index) →
    s.perform (.emit name key declaring sink) = (.truth false, s)
  /-- Only a registration changes the registry, and sinks receive nothing from it. -/
  registered : ∀ call, (call.write? = none → (s.perform call).2.registry = s.registry) ∧
    (call.write? ≠ none → (s.perform call).2.received = s.received)

theorem follows_of_holds {s : Session} {writes : List (Text × Text)} (h : Holds writes s.registry) :
    s.Follows writes where
  lookup key := ⟨_, rfl, h.lookup?_iff key.text⟩
  contains key := ⟨_, rfl, h.contains_iff⟩
  items := ⟨_, rfl, by rw [perform, length_items], h.pairwise_items, fun _ _ => h.mem_items_iff⟩
  emitted name key declaring sink index hlast := by
    rw [perform, Element.occurrence?, (h.lookup?_iff key.text index).2 hlast]
    rfl
  refused name key declaring sink hnone := by
    have hlookup : s.registry.lookup? key.text = none := by
      rw [Option.eq_none_iff_forall_ne_some]
      exact fun index hindex => hnone index ((h.lookup?_iff key.text index).1 hindex)
    rw [perform, Element.occurrence?, hlookup]
    rfl
  registered call := by
    cases call with
    | register key index => exact ⟨nofun, fun _ => rfl⟩
    | emit name key declaring sink =>
        refine ⟨fun _ => ?_, fun hne => absurd rfl hne⟩
        rw [perform]
        split <;> rfl
    | _ => exact ⟨fun _ => rfl, fun _ => rfl⟩

/-- After a call a registry holds what had been written and what the call writes. -/
theorem holds_perform {s : Session} {writes : List (Text × Text)} (h : Holds writes s.registry)
    (call : Call) : Holds (writes ++ call.write?.toList) (s.perform call).2.registry := by
  cases hwrite : call.write? with
  | none =>
      rw [((follows_of_holds h).registered call).1 hwrite, Option.toList_none, List.append_nil]
      exact h
  | some w =>
      cases call with
      | register key index =>
          obtain rfl := Option.some.inj hwrite
          exact h.register key.text index
      | _ => cases hwrite

theorem run_concat (entries : List (Text × Text)) (calls : List Call) (call : Call) :
    run entries (calls ++ [call]) = ((run entries calls).perform call).2 := List.foldl_append

/-- After any calls a registry holds the entries at first and what the calls have written. -/
theorem holds_run (entries : List (Text × Text)) (calls : List Call) :
    Holds (entries ++ calls.filterMap Call.write?) (run entries calls).registry := by
  induction calls using List.reverseRecOn with
  | nil =>
      rw [List.filterMap_nil, List.append_nil]
      exact holds_ofList entries
  | append_singleton calls call ih =>
      have hwritten : (calls ++ [call]).filterMap Call.write? =
          calls.filterMap Call.write? ++ call.write?.toList := by
        rw [List.filterMap_append, List.filterMap_cons]
        cases call.write? <;> rfl
      rw [run_concat, hwritten, ← List.append_assoc]
      exact holds_perform ih call

/-- **The last write wins.** After any calls each key, whichever way it is told, stands for the index
of its last write among the entries at first and the registrations since, and all answers and all that
is emitted follow from that. -/
theorem run_follows (entries : List (Text × Text)) (calls : List Call) :
    (run entries calls).Follows (entries ++ calls.filterMap Call.write?) :=
  follows_of_holds (holds_run entries calls)

theorem run_follows_rewritten :
    let s := run [("vuec", "a"), ("b", "c")]
      [.register (.plain "vuec") "d", .lookup (.plain "b"), .register (.descriptor .options) "e"]
    IsLast [("vuec", "a"), ("b", "c"), ("vuec", "d"), ("vueo", "e")] "vuec" "d" ∧
      s.perform (.lookup (.descriptor .components)) = (.index (some "d"), s) ∧
      (∃ es, s.perform .items = (.entries es, s) ∧ s.perform .size = (.number es.length, s) ∧
        (Text.ofString "vuec", Text.ofString "d") ∈ es) ∧
      ∀ property, s.perform (.emit "f" (.plain "vuec") property (some 0)) =
        (.truth true, ⟨s.registry, receive (some 0) ("d", "f") s.received⟩) := by
  intro s
  have hfollows := run_follows [("vuec", "a"), ("b", "c")]
    [.register (.plain "vuec") "d", .lookup (.plain "b"), .register (.descriptor .options) "e"]
  have hlast : IsLast [("vuec", "a"), ("b", "c"), ("vuec", "d"), ("vueo", "e")] "vuec" "d" :=
    ⟨[("vuec", "a"), ("b", "c")], [("vueo", "e")], rfl, by decide⟩
  obtain ⟨found, hlookup, hfound⟩ := hfollows.lookup (.descriptor .components)
  obtain ⟨es, hitems, hsize, -, hmem⟩ := hfollows.items
  refine ⟨hlast, ?_, ⟨es, hitems, hsize, (hmem _ _).2 hlast⟩, fun property => ?_⟩
  · rw [← (hfound "d").2 hlast]
    exact hlookup
  · exact hfollows.emitted "f" (.plain "vuec") property (some 0) "d" hlast

end Session

end ComponentIndex.Registry
