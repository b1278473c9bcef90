/-
**Payloads in slots.**

A payload is an object: whoever is given one adds to that very payload.  Payloads are kept in slots,
each slot holding one or none, and an empty payload is not the same as none.  A slot gets a new payload,
a property is visited with the payload of a slot or without one, or it is processed, which makes a
payload on the first match.  Whatever is done, a payload only grows: by the element that the property
of the step declares, and only if it is the one that was given.

Main definitions:

* `ComponentIndex.Payload.Store` — payloads as objects at addresses, with `new`, `visit` and `process`;
* `ComponentIndex.Payload.Slots`, `ComponentIndex.Payload.Step` — payloads in slots, and what is done
  with them;
* `ComponentIndex.Payload.Slots.run` — the slots after a list of steps;
* `ComponentIndex.Payload.Slots.IsSound` — no two slots hold the same payload;
* `ComponentIndex.Payload.Step.Appends` — what a step does and what it answers.

Main results:

* `ComponentIndex.Payload.Slots.isSound_run` — slots stay apart;
* `ComponentIndex.Payload.Slots.appends_perform` — a step;
* `ComponentIndex.Payload.Slots.run_appends` — **payloads only grow**, in any run.
-/

import ComponentIndex.Index.Element
import Mathlib.Data.List.Induction

set_option relaxedAutoImplicit false
set_option autoImplicit false

namespace ComponentIndex.Payload

open Script (Cursor)

/-! ### Payloads as objects -/

/-- Payloads as objects: what those at the addresses 0, 1, and so on hold. -/
structure Store where
  /-- What the payloads hold. -/
  contents : List Payload

namespace Store

/-- What the payload at an address holds, if there is one. -/
def read? (address : Nat) (s : Store) : Option Payload := s.contents[address]?

/-- The address of the next payload. -/
def next (s : Store) : Nat := s.contents.length

/-- Makes a payload without elements. -/
def new (s : Store) : Nat × Store := (s.next, ⟨s.contents ++ [[]]⟩)

/-- Adds an element to the payload at an address. -/
def add (e : Element) (address : Nat) (s : Store) : Store :=
  ⟨s.contents.modify address (· ++ [e])⟩

/-- Visits a property: finds the element that it declares, and adds it to the given payload. -/
def visit (property : Cursor) (file : SourceFile) (given : Option Nat) (s : Store) :
    Option Element × Store :=
  match Element.ofProperty? property file with
  | none => (none, s)
  | some e =>
    match given with
    | some address => (some e, s.add e address)
    | none => (some e, s)

/-- Processes a property: visits it with the given payload or else with a new one, and gives back the
payload it was visited with if an element was found, and what was given otherwise. -/
def process (property : Cursor) (file : SourceFile) (given : Option Nat) (s : Store) :
    Option Nat × Store :=
  let (out, s) := match given with
    | some address => (address, s)
    | none => s.new
  let (found, s) := s.visit property file (some out)
  if found.isSome then (some out, s) else (given, s)

section

variable (property : Cursor) (file : SourceFile) (s : Store)

theorem lt_next_of_read? {address : Nat} {s : Store} {p : Payload} (h : s.read? address = some p) :
    address < s.next := (List.getElem?_eq_some_iff.1 h).1

theorem read?_next : s.read? s.next = none := List.getElem?_eq_none (Nat.le_refl _)

theorem read?_new (address : Nat) :
    s.new.2.read? address = if address = s.next then some [] else s.read? address := by
  rw [new, read?, read?, next, List.getElem?_append]
  split
  · rw [if_neg (by omega)]
  · split
    next h => simp [h]
    next h => rw [List.getElem?_eq_none (by simp; omega), List.getElem?_eq_none (by omega)]

theorem read?_new_next : s.new.2.read? s.next = some [] := by rw [read?_new, if_pos rfl]

theorem read?_add (e : Element) (given address : Nat) :
    (s.add e given).read? address =
      (s.read? address).map fun p => if given = address then p ++ [e] else p := by
  rw [add, read?, read?, List.getElem?_modify]
  rfl

theorem visit_fst (given : Option Nat) :
    (s.visit property file given).1 = Element.ofProperty? property file := by
  rw [visit]
  cases Element.ofProperty? property file with
  | none => rfl
  | some e => cases given <;> rfl

/-- After a visit the given payload holds the element that is declared behind all that it held, and
all others hold what they held. -/
theorem read?_visit (given : Option Nat) (address : Nat) :
    (s.visit property file given).2.read? address =
      (s.read? address).map fun p =>
        if given = some address then p ++ (Element.ofProperty? property file).toList else p := by
  rw [visit]
  cases Element.ofProperty? property file with
  | none => simp
  | some e =>
      cases given with
      | none => simp
      | some given => simp [read?_add]

/-- The given payload itself comes back, whether or not an element is found. -/
theorem process_some (address : Nat) :
    s.process property file (some address) =
      (some address, (s.visit property file (some address)).2) := by
  rw [process]
  dsimp only
  split <;> rfl

/-- Without a payload a new one comes back if an element is found. -/
theorem process_none :
    s.process property file none =
      ((Element.ofProperty? property file).map fun _ => s.next,
        (s.new.2.visit property file (some s.next)).2) := by
  rw [process]
  dsimp only
  rw [show s.new.1 = s.next from rfl, visit_fst]
  cases Element.ofProperty? property file <;> rfl

/-- What comes back is the given payload or else a new one, if an element is found. -/
theorem process_fst (given : Option Nat) :
    (s.process property file given).1 =
      given.or ((Element.ofProperty? property file).map fun _ => s.next) := by
  cases given with
  | some given => rw [process_some, Option.some_or]
  | none => rw [process_none, Option.none_or]

/-- Processing a property adds to the given payload what a visit adds, and leaves all others alone. -/
theorem read?_process (given : Option Nat) {address : Nat} {p : Payload}
    (h : s.read? address = some p) :
    (s.process property file given).2.read? address =
      some (if given = some address then p ++ (Element.ofProperty? property file).toList else p) := by
  cases given with
  | some given => rw [process_some, read?_visit, h, Option.map_some]
  | none =>
      have hne : address ≠ s.next := Nat.ne_of_lt (lt_next_of_read? h)
      rw [process_none, read?_visit, read?_new, if_neg hne, h, Option.map_some]
      simp [Ne.symm hne]

/-- The new payload holds the element that is found, if any. -/
theorem read?_process_next :
    (s.process property file none).2.read? s.next =
      some (Element.ofProperty? property file).toList := by
  rw [process_none, read?_visit, read?_new_next, Option.map_some, if_pos rfl, List.nil_append]

end

end Store

/-! ### Slots -/

/-- Payloads, and the slots that hold them. -/
structure Slots where
  /-- The payloads. -/
  store : Store
  /-- The address of the payload that a slot holds. -/
  held : Text → Option Nat

/-- What is done with payloads in slots. A property comes with its file. -/
inductive Step where
  /-- A slot gets a new payload. -/
  | new (slot : Text)
  /-- A property is visited with the payload of a slot, or without one. -/
  | visit (property : Cursor) (file : SourceFile) (slot : Option Text)
  /-- A property is processed with the payload of a slot, which then holds what comes back, or without
  one. -/
  | process (property : Cursor) (file : SourceFile) (slot : Option Text)

/-- What a step answers. -/
inductive Answer where
  /-- A payload has been made. -/
  | made
  /-- The element that has been found, if any. -/
  | found (e : Option Element)
  /-- The payload that comes back, if any. -/
  | back (address : Option Nat)

namespace Step

/-- The slot of a step. -/
def slot? : Step → Option Text
  | .new slot => some slot
  | .visit _ _ slot => slot
  | .process _ _ slot => slot

/-- The element of the descriptor that the property of a step opens, declared by that property. -/
def declared? : Step → Option Element
  | .new _ => none
  | .visit property file _ | .process property file _ =>
    (Descriptor.ofProperty? property file).map fun m => ⟨m.name, m.key.label, property⟩

/-- The payload that a step is given: the one that its slot holds. -/
def given? (s : Slots) : Step → Option Nat
  | .new _ => none
  | .visit _ _ slot | .process _ _ slot => slot.bind s.held

end Step

namespace Slots

/-- Slots that hold nothing. -/
def empty : Slots := ⟨⟨[]⟩, fun _ => none⟩

/-- What the payload in a slot holds, if there is one. -/
def payload? (slot : Text) (s : Slots) : Option Payload := (s.held slot).bind s.store.read?

/-- What the slots hold after one of them has got a payload. -/
def put (slot : Option Text) (address : Option Nat) (held : Text → Option Nat) : Text → Option Nat :=
  fun other => if slot = some other then address else held other

/-- Takes a step. -/
def perform (s : Slots) : Step → Answer × Slots
  | .new slot =>
    let (address, store) := s.store.new
    (.made, ⟨store, put (some slot) (some address) s.held⟩)
  | .visit property file slot =>
    let (e, store) := s.store.visit property file (slot.bind s.held)
    (.found e, ⟨store, s.held⟩)
  | .process property file slot =>
    let (address, store) := s.store.process property file (slot.bind s.held)
    (.back address, ⟨store, put slot address s.held⟩)

/-- The slots after some steps. -/
def run (steps : List Step) : Slots := steps.foldl (fun s t => (s.perform t).2) empty

/-- Slots hold payloads, and no two of them hold the same one. -/
structure IsSound (s : Slots) : Prop where
  /-- What a slot holds is a payload. -/
  holds : ∀ {slot address}, s.held slot = some address → ∃ p, s.store.read? address = some p
  /-- Slots that hold the same payload are the same. -/
  apart : ∀ {slot slot' address}, s.held slot = some address → s.held slot' = some address →
    slot = slot'

end Slots

/-- What a step does to payloads in slots, and what it answers. -/
structure Step.Appends (t : Step) (s : Slots) (answer : Answer) (after : Slots) : Prop where
  /-- The payload that is given holds the element that is declared, if any, behind all that it held.
  All other payloads hold what they held. -/
  grows : ∀ address p, s.store.read? address = some p →
    after.store.read? address =
      some (if t.given? s = some address then p ++ t.declared?.toList else p)
  /-- All other slots hold the payloads they held, and these hold what they held. -/
  others : ∀ slot, t.slot? ≠ some slot →
    after.held slot = s.held slot ∧ after.payload? slot = s.payload? slot
  /-- A slot that gets a new payload gets one that has not been there, without elements. -/
  made : ∀ slot, t = .new slot → answer = .made ∧
    ∃ address, after.held slot = some address ∧ s.store.read? address = none ∧
      after.payload? slot = some []
  /-- A visit answers with the element that is declared, with or without a payload. -/
  visited : ∀ property file slot, t = .visit property file slot →
    answer = .found t.declared? ∧ after.held = s.held ∧
      ∀ name, slot = some name →
        after.payload? name = (s.payload? name).map (Payload.visit property file)
  /-- Processing answers with the payload that is given, whatever it holds and whether or not an element
  is declared; without a payload it answers with a new one that holds the element that is declared, or
  with none. What comes back is kept in the slot. -/
  processed : ∀ property file slot, t = .process property file slot →
    ∃ back, answer = .back back ∧
      (∀ address, t.given? s = some address → back = some address) ∧
      (∀ e, t.given? s = none → t.declared? = some e →
        ∃ address, back = some address ∧ s.store.read? address = none ∧
          after.store.read? address = some [e]) ∧
      (t.given? s = none → t.declared? = none → back = none) ∧
      ∀ name, slot = some name → after.held name = back ∧
        after.payload? name = Payload.process property file (s.payload? name)

namespace Slots

/-! ### Steps -/

section

variable {s : Slots} (h : s.IsSound)

theorem put_some_self (slot : Text) (address : Option Nat) (held : Text → Option Nat) :
    put (some slot) address held slot = address := if_pos rfl

theorem put_of_ne {slot : Option Text} {other : Text} (hne : slot ≠ some other) (address : Option Nat)
    (held : Text → Option Nat) : put slot address held other = held other := if_neg hne

theorem payload?_eq {name : Text} {address : Nat} (hheld : s.held name = some address) :
    s.payload? name = s.store.read? address := by
  rw [payload?, hheld, Option.bind_some]

theorem isSound_empty : empty.IsSound := ⟨nofun, nofun⟩

/-- Slots stay apart if what they hold stays and one of them gets what it held, something new, or
nothing. -/
theorem IsSound.put {s : Slots} (h : s.IsSound) {store : Store} {slot : Option Text}
    {address : Option Nat} (hstore : ∀ a p, s.store.read? a = some p → ∃ p', store.read? a = some p')
    (haddress : ∀ a, address = some a → (∃ p, store.read? a = some p) ∧
      ∀ name, s.held name = some a → slot = some name) :
    IsSound ⟨store, Slots.put slot address s.held⟩ := by
  constructor
  · intro name a hname
    by_cases hslot : slot = some name
    · subst hslot
      exact (haddress a ((put_some_self _ _ _).symm.trans hname)).1
    · obtain ⟨p, hp⟩ := h.holds ((put_of_ne hslot _ _).symm.trans hname)
      exact hstore a p hp
  · intro name name' a hname hname'
    by_cases hslot : slot = some name
    · by_cases hslot' : slot = some name'
      · exact Option.some.inj (hslot.symm.trans hslot')
      · subst hslot
        have ha := (put_some_self _ _ _).symm.trans hname
        exact Option.some.inj ((haddress a ha).2 name' ((put_of_ne hslot' _ _).symm.trans hname'))
    · by_cases hslot' : slot = some name'
      · subst hslot'
        have ha := (put_some_self _ _ _).symm.trans hname'
        exact (Option.some.inj ((haddress a ha).2 name ((put_of_ne hslot _ _).symm.trans hname))).symm
      · exact h.apart ((put_of_ne hslot _ _).symm.trans hname)
          ((put_of_ne hslot' _ _).symm.trans hname')

theorem put_none (address : Option Nat) (held : Text → Option Nat) :
    Slots.put none address held = held := rfl

variable (s) (property : Cursor) (file : SourceFile)

theorem perform_new (slot : Text) :
    s.perform (.new slot) =
      (.made, ⟨s.store.new.2, Slots.put (some slot) (some s.store.next) s.held⟩) := rfl

theorem perform_visit (slot : Option Text) :
    s.perform (.visit property file slot) =
      (.found (Element.ofProperty? property file),
        ⟨(s.store.visit property file (slot.bind s.held)).2, s.held⟩) := by
  rw [← Store.visit_fst property file s.store (slot.bind s.held)]
  rfl

theorem perform_process (slot : Option Text) :
    s.perform (.process property file slot) =
      (.back (s.store.process property file (slot.bind s.held)).1,
        ⟨(s.store.process property file (slot.bind s.held)).2,
          Slots.put slot (s.store.process property file (slot.bind s.held)).1 s.held⟩) := rfl

variable {s}

include h in
/-- Slots stay apart in a step. -/
theorem isSound_perform (t : Step) : (s.perform t).2.IsSound := by
  have hold : ∀ {address p}, s.store.read? address = some p → address ≠ s.store.next :=
    fun hp => Nat.ne_of_lt (Store.lt_next_of_read? hp)
  have hfresh : ∀ name, s.held name ≠ some s.store.next := by
    intro name hname
    obtain ⟨p, hp⟩ := h.holds hname
    exact hold hp rfl
  cases t with
  | new slot =>
      rw [perform_new]
      refine h.put (fun a p hp => ⟨p, ?_⟩) ?_
      · rw [Store.read?_new, if_neg (hold hp), hp]
      · rintro a ha
        obtain rfl : s.store.next = a := Option.some.inj ha
        exact ⟨⟨_, Store.read?_new_next _⟩, fun name hname => absurd hname (hfresh name)⟩
  | visit property file slot =>
      rw [perform_visit, ← put_none none s.held]
      refine h.put (fun a p hp => ?_) nofun
      rw [Store.read?_visit, hp]
      exact ⟨_, rfl⟩
  | process property file slot =>
      have hstore : ∀ a p, s.store.read? a = some p →
          ∃ p', (s.store.process property file (slot.bind s.held)).2.read? a = some p' :=
        fun a p hp => ⟨_, Store.read?_process _ _ _ _ hp⟩
      rw [perform_process]
      refine h.put hstore ?_
      intro a ha
      rw [Store.process_fst, Option.or_eq_some_iff] at ha
      rcases ha with ha | ⟨hnone, ha⟩
      · obtain ⟨slot, rfl, hheld⟩ := Option.bind_eq_some_iff.1 ha
        obtain ⟨p, hp⟩ := h.holds hheld
        exact ⟨hstore a p hp, fun name hname => congrArg some (h.apart hheld hname)⟩
      · obtain ⟨e, he, rfl⟩ := Option.map_eq_some_iff.1 ha
        refine ⟨?_, fun name hname => absurd hname (hfresh name)⟩
        rw [hnone]
        exact ⟨_, Store.read?_process_next _ _ _⟩

/-- In a step the payload that is given grows by the element that is declared, and all others stay. -/
theorem read?_perform (t : Step) {address : Nat} {p : Payload} (hp : s.store.read? address = some p) :
    (s.perform t).2.store.read? address =
      some (if t.given? s = some address then p ++ t.declared?.toList else p) := by
  cases t with
  | new slot =>
      have hne : address ≠ s.store.next := Nat.ne_of_lt (Store.lt_next_of_read? hp)
      rw [perform_new, Store.read?_new, if_neg hne, hp]
      rfl
  | visit property file slot =>
      rw [perform_visit, Store.read?_visit, hp]
      rfl
  | process property file slot =>
      rw [perform_process, Store.read?_process _ _ _ _ hp]
      rfl

/-- A slot that a step does not name keeps its payload. -/
theorem held_perform_of_ne {t : Step} {slot : Text} (hslot : t.slot? ≠ some slot) :
    (s.perform t).2.held slot = s.held slot := by
  cases t with
  | new name => exact put_of_ne hslot _ _
  | visit property file name => rfl
  | process property file name => exact put_of_ne hslot _ _

theorem exists_slot_of_given? {t : Step} {address : Nat} (hgiven : t.given? s = some address) :
    ∃ slot, t.slot? = some slot ∧ s.held slot = some address := by
  cases t with
  | new slot => cases hgiven
  | visit property file slot => exact Option.bind_eq_some_iff.1 hgiven
  | process property file slot => exact Option.bind_eq_some_iff.1 hgiven

/-- A payload in a slot is visited as any payload is. -/
theorem payload?_perform_visit (slot : Text) :
    (s.perform (.visit property file (some slot))).2.payload? slot =
      (s.payload? slot).map (Payload.visit property file) := by
  rw [perform_visit, payload?, payload?]
  dsimp only
  cases hheld : s.held slot with
  | none => rfl
  | some address =>
      rw [Option.bind_some, Option.bind_some, Option.bind_some, hheld, Store.read?_visit]
      simp only [if_true]
      rfl

include h

/-- What a slot holds that a step does not name stays as it was: the payload that grows is that of
another slot. -/
theorem payload?_perform_of_ne {t : Step} {slot : Text} (hslot : t.slot? ≠ some slot) :
    (s.perform t).2.payload? slot = s.payload? slot := by
  rw [payload?, payload?, held_perform_of_ne hslot]
  cases hheld : s.held slot with
  | none => rfl
  | some address =>
      obtain ⟨p, hp⟩ := h.holds hheld
      have hother : t.given? s ≠ some address := by
        intro hgiven
        obtain ⟨name, hname, hheld'⟩ := exists_slot_of_given? hgiven
        exact hslot (h.apart hheld hheld' ▸ hname)
      rw [Option.bind_some, Option.bind_some, read?_perform t hp, if_neg hother, hp]

/-- A slot holds after a property has been processed what processing makes of what it held. -/
theorem payload?_perform_process (slot : Text) :
    (s.perform (.process property file (some slot))).2.payload? slot =
      Payload.process property file (s.payload? slot) := by
  rw [perform_process, payload?, payload?, Option.bind_some]
  dsimp only
  rw [put_some_self]
  cases hheld : s.held slot with
  | none =>
      rw [Option.bind_none, Store.process_fst, Option.none_or, Payload.process]
      cases he : Element.ofProperty? property file with
      | none => rfl
      | some e =>
          rw [Option.map_some, Option.bind_some, Store.read?_process_next, he]
          rfl
  | some address =>
      obtain ⟨p, hp⟩ := h.holds hheld
      rw [Store.process_fst, Option.some_or, Option.bind_some, Option.bind_some,
        Store.read?_process _ _ _ _ hp, if_pos rfl, hp]
      rfl

/-- What a step does and what it answers. -/
theorem appends_perform (t : Step) : t.Appends s (s.perform t).1 (s.perform t).2 where
  grows _ _ hp := read?_perform t hp
  others _ hslot := ⟨held_perform_of_ne hslot, payload?_perform_of_ne h hslot⟩
  made := by
    rintro slot rfl
    have hheld := put_some_self slot (some s.store.next) s.held
    exact ⟨rfl, s.store.next, hheld, Store.read?_next _,
      (payload?_eq hheld).trans (Store.read?_new_next _)⟩
  visited := by
    rintro property file slot rfl
    refine ⟨congrArg Prod.fst (perform_visit s property file slot), rfl, ?_⟩
    rintro name rfl
    exact payload?_perform_visit property file name
  processed := by
    rintro property file slot rfl
    rw [perform_process]
    refine ⟨_, rfl, fun address hgiven => ?_, fun e hgiven he => ?_, fun hgiven he => ?_, ?_⟩
    · rw [Store.process_fst, show slot.bind s.held = some address from hgiven, Option.some_or]
    · have he : Element.ofProperty? property file = some e := he
      rw [show slot.bind s.held = none from hgiven]
      refine ⟨s.store.next, ?_, Store.read?_next _, ?_⟩
      · rw [Store.process_fst, he]
        rfl
      · rw [Store.read?_process_next, he]
        rfl
    · have he : Element.ofProperty? property file = none := he
      rw [Store.process_fst, show slot.bind s.held = none from hgiven, he]
      rfl
    · rintro name rfl
      exact ⟨put_some_self _ _ _, payload?_perform_process h property file name⟩

end

/-! ### Runs -/

theorem run_concat (steps : List Step) (t : Step) :
    run (steps ++ [t]) = ((run steps).perform t).2 := List.foldl_append

/-- Slots are apart after any steps. -/
theorem isSound_run (steps : List Step) : (run steps).IsSound := by
  induction steps using List.reverseRecOn with
  | nil => exact isSound_empty
  | append_singleton steps t ih =>
      rw [run_concat]
      exact isSound_perform ih t

/-- What a payload holds is the beginning of what it holds after further steps. -/
theorem prefix_of_run (steps more : List Step) {address : Nat} {p : Payload}
    (hp : (run steps).store.read? address = some p) :
    ∃ p', (run (steps ++ more)).store.read? address = some p' ∧ p <+: p' := by
  induction more using List.reverseRecOn with
  | nil => exact ⟨p, by rwa [List.append_nil], List.prefix_refl _⟩
  | append_singleton more t ih =>
      obtain ⟨p', hp', hprefix⟩ := ih
      rw [← List.append_assoc, run_concat]
      refine ⟨_, read?_perform t hp', hprefix.trans ?_⟩
      split
      · exact List.prefix_append _ _
      · exact List.prefix_refl _

/-- **Payloads only grow.** After any steps no two slots hold the same payload. In a further step the
payload that it is given grows by the element that its property declares, if there is one, and nothing
else does; a visit answers with that element, and processing with the payload that it was given, with a
new one that holds the element, or with none. Whatever is done later, what a payload holds stays the
beginning of what it holds. -/
theorem run_appends (steps : List Step) :
    (run steps).IsSound ∧
      (∀ t : Step, t.Appends (run steps) ((run steps).perform t).1 ((run steps).perform t).2 ∧
        run (steps ++ [t]) = ((run steps).perform t).2) ∧
      ∀ more address p, (run steps).store.read? address = some p →
        ∃ p', (run (steps ++ more)).store.read? address = some p' ∧ p <+: p' :=
  ⟨isSound_run steps, fun t => ⟨appends_perform (isSound_run steps) t, run_concat steps t⟩,
    fun more _ _ hp => prefix_of_run steps more hp⟩

/-- A script that makes an instance. -/
def makingFile : SourceFile := .ofScript "a.js" "new Vue(\x7bel: 'b'\x7d)".toUTF8.toList

/-- The property of the script that makes an instance. -/
def makingProperty : Cursor := makingFile.root.allProperties.head?.getD (Cursor.root default)

theorem run_appends_twoSlots :
    ∃ e, e.name = Text.ofString "b" ∧
      let s := run [.new "c", .new "d"]
      let after := s.perform (.process makingProperty makingFile (some "c"))
      s.payload? "c" = some [] ∧ after.1 = .back (s.held "c") ∧ after.2.payload? "c" = some [e] ∧
        after.2.payload? "d" = some [] := by
  obtain ⟨e, he, hname⟩ : ∃ e, Element.ofProperty? makingProperty makingFile = some e ∧
      e.name = Text.ofString "b" := by
    have hsome : (Element.ofProperty? makingProperty makingFile).map Element.name =
        some (Text.ofString "b") := by decide +kernel
    exact Option.map_eq_some_iff.1 hsome
  obtain ⟨-, hstep, -⟩ := run_appends [.new "c", .new "d"]
  obtain ⟨hdoes, -⟩ := hstep (.process makingProperty makingFile (some "c"))
  obtain ⟨back, hback, hgiven, -, -, hkept⟩ := hdoes.processed _ _ _ rfl
  have hheld : (run [.new "c", .new "d"]).held "c" = some 0 := by decide
  have hempty : (run [.new "c", .new "d"]).payload? "c" = some [] := by rfl
  refine ⟨e, hname, hempty, ?_, ?_, ?_⟩
  · rw [hback, hgiven 0 hheld, hheld]
  · rw [(hkept "c" rfl).2, hempty, Payload.process, Payload.visit, he]
    rfl
  · rw [(hdoes.others "d" (by decide)).2]
    rfl

end Slots

end ComponentIndex.Payload
