/-
**Registration of handlers.**

Handlers are registered one attempt after the other.  An attempt is refused if an earlier one was made
under the same name, and then everything stays as it was.  So the handlers that are there after any
attempts, refused or not, are the first ones of each name in the order of their attempts, and the
registry of a later handler of a name is never asked.

Main definitions:

* `ComponentIndex.ExtensionPoint.attempt`, `ComponentIndex.ExtensionPoint.attemptAll` — an attempt to
  register a handler, and a list of attempts;
* `ComponentIndex.ExtensionPoint.IsFirst` — a handler is the first one of its name;
* `ComponentIndex.ExtensionPoint.KeepsFirst` — the first handlers of each name, by their positions.

Main results:

* `ComponentIndex.ExtensionPoint.attempt_of_taken`, `ComponentIndex.ExtensionPoint.attempt_of_free` — an
  attempt;
* `ComponentIndex.ExtensionPoint.keepsFirst_attemptAll` — what is kept;
* `ComponentIndex.ExtensionPoint.attemptAll_first` — **the first handler of a name stays**.
-/

import ComponentIndex.Index.Extension
import Mathlib.Data.List.Induction

set_option relaxedAutoImplicit false
set_option autoImplicit false

namespace ComponentIndex.ExtensionPoint

/-! ### Attempts -/

/-- An attempt to register a handler, and the extension point after it. -/
def attempt (x : ExtensionPoint) (h : Handler) : Option RegistrationError × ExtensionPoint :=
  match x.register h with
  | .ok x => (none, x)
  | .error e => (some e, x)

/-- An extension point without handlers after some attempts to register one. -/
def attemptAll (hs : List Handler) : ExtensionPoint := hs.foldl (fun x h => (x.attempt h).2) empty

section

variable {x : ExtensionPoint} {h : Handler}

theorem attempt_of_taken (htaken : h.name ∈ x.names) :
    x.attempt h = (some (.alreadyRegistered h.name), x) := by
  have hany : (x.handlers.any fun g => g.name = h.name) = true := by
    simpa [names] using htaken
  rw [attempt, register, if_pos hany]

theorem attempt_of_free (hfree : h.name ∉ x.names) : x.attempt h = (none, ⟨x.handlers ++ [h]⟩) := by
  have hany : ¬(x.handlers.any fun g => g.name = h.name) = true := by
    simpa [names] using hfree
  rw [attempt, register, if_neg hany]

/-- After an attempt the name of the handler is taken. -/
theorem mem_names_attempt {name : Text} :
    name ∈ (x.attempt h).2.names ↔ name ∈ x.names ∨ name = h.name := by
  by_cases htaken : h.name ∈ x.names
  · rw [attempt_of_taken htaken]
    refine ⟨Or.inl, ?_⟩
    rintro (hmem | rfl)
    · exact hmem
    · exact htaken
  · rw [attempt_of_free htaken]
    simp [names, eq_comm]

theorem nodup_names_attempt (hnodup : x.names.Nodup) : (x.attempt h).2.names.Nodup := by
  by_cases htaken : h.name ∈ x.names
  · rwa [attempt_of_taken htaken]
  · rw [attempt_of_free htaken, names, List.map_append, List.nodup_append]
    refine ⟨hnodup, List.pairwise_singleton _ _, fun name hname other hother => ?_⟩
    rintro rfl
    exact htaken (List.mem_singleton.1 hother ▸ hname)

end

theorem attemptAll_append (hs more : List Handler) :
    attemptAll (hs ++ more) = more.foldl (fun x h => (x.attempt h).2) (attemptAll hs) :=
  List.foldl_append

theorem attemptAll_concat (hs : List Handler) (h : Handler) :
    attemptAll (hs ++ [h]) = ((attemptAll hs).attempt h).2 := attemptAll_append hs [h]

/-- The names that are taken are those of all attempts. -/
theorem mem_names_attemptAll {hs : List Handler} {name : Text} :
    name ∈ (attemptAll hs).names ↔ ∃ h ∈ hs, h.name = name := by
  induction hs using List.reverseRecOn with
  | nil => simp [attemptAll, empty, names]
  | append_singleton hs h ih =>
      rw [attemptAll_concat, mem_names_attempt, ih]
      simp [or_and_right, exists_or, eq_comm]

theorem nodup_names_attemptAll (hs : List Handler) : (attemptAll hs).names.Nodup := by
  induction hs using List.reverseRecOn with
  | nil => exact .nil
  | append_singleton hs h ih =>
      rw [attemptAll_concat]
      exact nodup_names_attempt ih

/-! ### The first handler of each name -/

/-- The handler of an attempt is the first one of its name. -/
structure IsFirst (hs : List Handler) (i : Nat) (h : Handler) : Prop where
  /-- It is the handler of the attempt. -/
  attempted : hs[i]? = some h
  /-- No attempt before was made under its name. -/
  first : ∀ j < i, ∀ g, hs[j]? = some g → g.name ≠ h.name

/-- Handlers are the first ones of each name, in the order of their attempts. -/
structure KeepsFirst (hs kept : List Handler) (positions : List Nat) : Prop where
  /-- The attempts are in order. -/
  ascending : positions.Pairwise (· < ·)
  /-- They are those that are the first ones of their name. -/
  mem_iff : ∀ i, i ∈ positions ↔ ∃ h, IsFirst hs i h
  /-- The handlers are those of these attempts. -/
  kept_eq : kept.map some = positions.map (hs[·]?)

/-- The last attempt is the first one of its name if the name is new; all others stay what they are. -/
theorem isFirst_concat_iff {hs : List Handler} {h g : Handler} {i : Nat} :
    IsFirst (hs ++ [h]) i g ↔
      IsFirst hs i g ∨ i = hs.length ∧ g = h ∧ ∀ f ∈ hs, f.name ≠ h.name := by
  have hbefore : ∀ j < hs.length, (hs ++ [h])[j]? = hs[j]? := fun j hj =>
    List.getElem?_append_left hj
  constructor
  · rintro ⟨hat, hfirst⟩
    rcases Nat.lt_trichotomy i hs.length with hi | rfl | hi
    · refine Or.inl ⟨hbefore i hi ▸ hat, fun j hj f hf => hfirst j hj f ?_⟩
      rwa [hbefore j (Nat.lt_trans hj hi)]
    · rw [List.getElem?_concat_length] at hat
      obtain rfl := Option.some.inj hat
      refine Or.inr ⟨rfl, rfl, fun f hf => ?_⟩
      obtain ⟨j, hj, rfl⟩ := List.mem_iff_getElem.1 hf
      exact hfirst j hj _ (by rw [hbefore j hj, List.getElem?_eq_getElem hj])
    · rw [List.getElem?_eq_none (by simpa [Nat.succ_le_iff] using hi)] at hat
      cases hat
  · rintro (⟨hat, hfirst⟩ | ⟨rfl, rfl, hfree⟩)
    · have hi : i < hs.length := (List.getElem?_eq_some_iff.1 hat).1
      refine ⟨hbefore i hi ▸ hat, fun j hj f hf => hfirst j hj f ?_⟩
      rwa [hbefore j (Nat.lt_trans hj hi)] at hf
    · refine ⟨List.getElem?_concat_length, fun j hj f hf => hfree f ?_⟩
      rw [hbefore j hj] at hf
      exact List.mem_of_getElem? hf

theorem IsFirst.lt_length {hs : List Handler} {h : Handler} {i : Nat} (hfirst : IsFirst hs i h) :
    i < hs.length := (List.getElem?_eq_some_iff.1 hfirst.attempted).1

namespace KeepsFirst

variable {hs kept : List Handler} {positions : List Nat} (hkeeps : KeepsFirst hs kept positions)
  (h : Handler)
include hkeeps

theorem lt_length {i : Nat} (hi : i ∈ positions) : i < hs.length := by
  obtain ⟨g, hg⟩ := (hkeeps.mem_iff i).1 hi
  exact hg.lt_length

theorem map_some_eq : kept.map some = positions.map ((hs ++ [h])[·]?) := by
  rw [hkeeps.kept_eq]
  refine List.map_congr_left fun i hi => ?_
  exact (List.getElem?_append_left (hkeeps.lt_length hi)).symm

/-- A handler whose name is taken is not kept. -/
theorem concat_of_taken (htaken : ∃ g ∈ hs, g.name = h.name) :
    KeepsFirst (hs ++ [h]) kept positions where
  ascending := hkeeps.ascending
  mem_iff i := by
    rw [hkeeps.mem_iff]
    refine exists_congr fun g => ?_
    rw [isFirst_concat_iff]
    refine ⟨Or.inl, ?_⟩
    rintro (hfirst | ⟨-, -, hfree⟩)
    · exact hfirst
    · obtain ⟨f, hf, hname⟩ := htaken
      exact absurd hname (hfree f hf)
  kept_eq := hkeeps.map_some_eq h

/-- A handler with a new name is kept behind all others. -/
theorem concat_of_free (hfree : ∀ g ∈ hs, g.name ≠ h.name) :
    KeepsFirst (hs ++ [h]) (kept ++ [h]) (positions ++ [hs.length]) where
  ascending := by
    rw [List.pairwise_append]
    refine ⟨hkeeps.ascending, List.pairwise_singleton _ _, fun i hi j hj => ?_⟩
    obtain rfl := List.mem_singleton.1 hj
    exact hkeeps.lt_length hi
  mem_iff i := by
    rw [List.mem_append, hkeeps.mem_iff, List.mem_singleton]
    simp only [isFirst_concat_iff, exists_or]
    refine or_congr_right ⟨fun hi => ⟨h, hi, rfl, hfree⟩, ?_⟩
    rintro ⟨g, hi, -⟩
    exact hi
  kept_eq := by
    rw [List.map_append, List.map_append, hkeeps.map_some_eq h]
    exact congrArg _ (congrArg (fun o => [o]) List.getElem?_concat_length.symm)

end KeepsFirst

/-- After any attempts the first handler of each name is there. -/
theorem keepsFirst_attemptAll (hs : List Handler) :
    ∃ positions, KeepsFirst hs (attemptAll hs).handlers positions := by
  induction hs using List.reverseRecOn with
  | nil =>
      refine ⟨[], .nil, fun i => ⟨nofun, ?_⟩, rfl⟩
      rintro ⟨h, hfirst⟩
      exact absurd hfirst.lt_length (Nat.not_lt_zero i)
  | append_singleton hs h ih =>
      obtain ⟨positions, hkeeps⟩ := ih
      rw [attemptAll_concat]
      by_cases htaken : h.name ∈ (attemptAll hs).names
      · rw [attempt_of_taken htaken]
        exact ⟨positions, hkeeps.concat_of_taken h (mem_names_attemptAll.1 htaken)⟩
      · rw [attempt_of_free htaken]
        refine ⟨positions ++ [hs.length], hkeeps.concat_of_free h fun g hg hname => htaken ?_⟩
        exact mem_names_attemptAll.2 ⟨g, hg, hname⟩

/-- What is read off the handlers that are kept is read off the attempts that are the first ones. -/
theorem KeepsFirst.map_eq {hs kept : List Handler} {positions : List Nat}
    (hkeeps : KeepsFirst hs kept positions) {α : Type} (f : Handler → Option α) :
    kept.map f = positions.map fun i => hs[i]?.bind f := by
  calc kept.map f
      = (kept.map some).map (Option.bind · f) := by
        rw [List.map_map]
        rfl
    _ = positions.map fun i => hs[i]?.bind f := by
        rw [hkeeps.kept_eq, List.map_map]
        rfl

/-- **The first handler of a name stays.** After any attempts the handlers are the first ones of each
name, in the order of their attempts, and no two have the same name; an element is answered by their
registries alone. A further attempt is refused exactly if an earlier one was made under the same name,
and then leaves everything as it was, as if it had not been made. -/
theorem attemptAll_first (hs : List Handler) :
    (∃ positions, KeepsFirst hs (attemptAll hs).handlers positions ∧
      ∀ e, (attemptAll hs).allOccurrences e =
        positions.map fun i => hs[i]?.bind fun h =>
          (h.registry.lookup? e.key).map fun index => (index, e.name)) ∧
      (attemptAll hs).names.Nodup ∧
      (∀ h, (((attemptAll hs).attempt h).1 = some (.alreadyRegistered h.name) ↔
          ∃ g ∈ hs, g.name = h.name) ∧
        (((attemptAll hs).attempt h).1 = none ↔ ∀ g ∈ hs, g.name ≠ h.name)) ∧
      ∀ h, (∃ g ∈ hs, g.name = h.name) → ((attemptAll hs).attempt h).2 = attemptAll hs ∧
        ∀ later, attemptAll (hs ++ h :: later) = attemptAll (hs ++ later) := by
  refine ⟨?_, nodup_names_attemptAll hs, fun h => ?_, fun h htaken => ?_⟩
  · obtain ⟨positions, hkeeps⟩ := keepsFirst_attemptAll hs
    exact ⟨positions, hkeeps, fun e => hkeeps.map_eq _⟩
  · have hnames : h.name ∈ (attemptAll hs).names ↔ ∃ g ∈ hs, g.name = h.name :=
      mem_names_attemptAll
    by_cases htaken : h.name ∈ (attemptAll hs).names
    · obtain ⟨g, hg, hname⟩ := hnames.1 htaken
      rw [attempt_of_taken htaken]
      exact ⟨iff_of_true rfl ⟨g, hg, hname⟩, iff_of_false nofun fun hfree => hfree g hg hname⟩
    · rw [attempt_of_free htaken]
      rw [hnames] at htaken
      exact ⟨iff_of_false nofun htaken, iff_of_true rfl fun g hg hname => htaken ⟨g, hg, hname⟩⟩
  · have hstays : ((attemptAll hs).attempt h).2 = attemptAll hs :=
      congrArg Prod.snd (attempt_of_taken (mem_names_attemptAll.2 htaken))
    refine ⟨hstays, fun later => ?_⟩
    rw [attemptAll_append, attemptAll_append, List.foldl_cons, hstays]

/-- Handlers of two names, the first one of which knows the key of options. -/
def namedHandlers : List Handler :=
  [⟨"a", .ofList [("vueo", "a.options")]⟩, ⟨"b", .ofList [("vuec", "b.components")]⟩]

/-- Another handler of the first name, which knows the key of components. -/
def laterHandler : Handler := ⟨"a", .ofList [("vuec", "a.components")]⟩

theorem attemptAll_first_later :
    (∃ h ∈ namedHandlers, h.name = laterHandler.name) ∧
      ((attemptAll namedHandlers).attempt laterHandler).1 = some (.alreadyRegistered "a") ∧
      attemptAll (namedHandlers ++ [laterHandler]) = attemptAll namedHandlers ∧
      ∀ property, (attemptAll (namedHandlers ++ [laterHandler])).allOccurrences ⟨"c", "vuec", property⟩ =
        [none, some (Text.ofString "b.components", Text.ofString "c")] := by
  obtain ⟨-, -, hrefused, hlater⟩ := attemptAll_first namedHandlers
  have htaken : ∃ h ∈ namedHandlers, h.name = laterHandler.name := by decide
  have hsame : attemptAll (namedHandlers ++ [laterHandler]) = attemptAll namedHandlers :=
    ((hlater laterHandler htaken).2 []).trans (by rw [List.append_nil])
  refine ⟨htaken, (hrefused laterHandler).1.2 htaken, hsame, fun property => ?_⟩
  rw [hsame]
  rfl

end ComponentIndex.ExtensionPoint
