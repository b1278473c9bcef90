/-
**The form in which extensions are kept.**

Extensions are put into a normal form when settings are read: lower case, with a dot before them.  The
form is that of the value itself once it has been read, so that reading it again, or looking for lower
case again, changes nothing; and a list of values is refused exactly if one of them has no normal form.

Main definitions:

* `ComponentIndex.Settings.IsNormal` — an extension in normal form;
* `ComponentIndex.Settings.IsNormalFormOf` — an extension is the normal form of a text;
* `ComponentIndex.Settings.IsExtension` — a value that has a normal form.

Main results:

* `ComponentIndex.Settings.IsNormal.normalExtension_eq` — the normal form of a normal form;
* `ComponentIndex.Settings.extensionsOf_eq_error_iff` — the value for which a list is refused;
* `ComponentIndex.Settings.isNormal_of_mem_extensions` — the extensions of settings that are accepted;
* `ComponentIndex.Settings.extensions_areFixed` — **normal forms are fixed**.
-/

import ComponentIndex.Project.Discovery
import ComponentIndex.Proofs.Settings.Validation
import ComponentIndex.Proofs.Text.LowerCase
import Mathlib.Data.List.Forall2

set_option relaxedAutoImplicit false
set_option autoImplicit false

namespace ComponentIndex.Settings

/-! ### Normal forms -/

/-- The text is an extension in normal form. -/
structure IsNormal (ext : Text) : Prop where
  /-- A dot opens it. -/
  dotted : ext.head? = some ('.' : CodePoint)
  /-- It holds something beside dots. -/
  named : ∃ c ∈ ext, c ≠ ('.' : CodePoint)
  /-- It is its own lower case. -/
  lowered : ext.lower = ext

instance (ext : Text) : Decidable (IsNormal ext) :=
  decidable_of_iff
    (ext.head? = some ('.' : CodePoint) ∧ (∃ c ∈ ext, c ≠ ('.' : CodePoint)) ∧ ext.lower = ext)
    ⟨fun h => ⟨h.1, h.2.1, h.2.2⟩, fun h => ⟨h.dotted, h.named, h.lowered⟩⟩

/-- The extension is a text in lower case, with a dot put before it if none opens the text. -/
def IsNormalFormOf (t ext : Text) : Prop :=
  if t.head? = some ('.' : CodePoint) then ext = t.lower else ext = ('.' : CodePoint) :: t.lower

theorem isNormalFormOf_iff {t ext : Text} : IsNormalFormOf t ext ↔ ext = normalExtension t := by
  rw [IsNormalFormOf, normalExtension]
  by_cases hdot : t.head? = some ('.' : CodePoint)
  · rw [if_pos hdot, if_pos (Text.head?_lower_eq_dot_iff.2 hdot)]
  · rw [if_neg hdot, if_neg (mt Text.head?_lower_eq_dot_iff.1 hdot)]

theorem isNormal_normalExtension {t : Text} (h : ∃ c ∈ t, c ≠ ('.' : CodePoint)) :
    IsNormal (normalExtension t) := by
  obtain ⟨c, hc, hne⟩ := Text.exists_ne_dot_lower h
  rw [normalExtension]
  split
  next hdot => exact ⟨hdot, ⟨c, hc, hne⟩, Text.lower_lower t⟩
  · refine ⟨rfl, ⟨c, List.mem_cons_of_mem _ hc, hne⟩, ?_⟩
    rw [Text.lower_dot_cons (Text.sigma_not_mem_lower t), Text.lower_lower]

/-- **The normal form of a normal form** is that form itself. -/
theorem IsNormal.normalExtension_eq {ext : Text} (h : IsNormal ext) : normalExtension ext = ext := by
  rw [normalExtension, h.lowered, if_pos h.dotted]

/-! ### Lists of values -/

/-- The value is a text that holds something beside dots. -/
def IsExtension (d : Data) : Prop := ∃ t, d = .text t ∧ ∃ c ∈ t, c ≠ ('.' : CodePoint)

theorem isExtension_text {t : Text} : IsExtension (.text t) ↔ ∃ c ∈ t, c ≠ ('.' : CodePoint) := by
  constructor
  · rintro ⟨t', ht, h⟩
    obtain rfl := Data.text.inj ht
    exact h
  · intro h
    exact ⟨t, rfl, h⟩

instance : DecidablePred IsExtension
  | .text _ => decidable_of_iff _ isExtension_text.symm
  | .null | .bool _ | .int _ | .float _ | .moment _ | .list _ | .table _ => isFalse nofun

/-- A list is refused for the first of its values that has no normal form. -/
theorem extensionsOf_eq_error_iff {items : List Data} {d : Data} :
    extensionsOf items = .error d ↔ items.find? (fun item => ¬IsExtension item) = some d := by
  fun_induction extensionsOf items with
  | case1 => simp
  | case2 t items hnames ih =>
      have hitem : IsExtension (.text t) := isExtension_text.2 (namesExtension_iff.1 hnames)
      rw [List.find?_cons_of_neg (by simpa using hitem), ← ih]
      cases extensionsOf items with
      | ok extensions => simp [Except.map]
      | error d => simp [Except.map]
  | case3 t items hnames =>
      have hitem : ¬IsExtension (.text t) := mt (namesExtension_iff.2 ∘ isExtension_text.1) hnames
      rw [List.find?_cons_of_pos (by simpa using hitem)]
      simp
  | case4 d items hno =>
      have hitem : ¬IsExtension d := by
        rintro ⟨t, rfl, -⟩
        exact hno t rfl
      rw [List.find?_cons_of_pos (by simpa using hitem)]
      simp

/-- A list of extensions is read as their normal forms, one for each. -/
theorem extensionsOf_of_isExtension {items : List Data} (h : ∀ item ∈ items, IsExtension item) :
    ∃ extensions, extensionsOf items = .ok extensions ∧
      List.Forall₂ (fun item ext => ∃ t, item = .text t ∧ IsNormalFormOf t ext) items extensions ∧
      ∀ ext ∈ extensions, IsNormal ext := by
  induction items with
  | nil => exact ⟨[], rfl, .nil, List.forall_mem_nil _⟩
  | cons item items ih =>
      rw [List.forall_mem_cons] at h
      obtain ⟨⟨t, rfl, ht⟩, hitems⟩ := h
      obtain ⟨extensions, hread, hforms, hnormal⟩ := ih hitems
      refine ⟨normalExtension t :: extensions, ?_, .cons ⟨t, rfl, ?_⟩ hforms, ?_⟩
      · rw [extensionsOf, if_pos (namesExtension_iff.2 ht), hread]
        rfl
      · exact isNormalFormOf_iff.2 rfl
      · exact List.forall_mem_cons.2 ⟨isNormal_normalExtension ht, hnormal⟩

/-- Extensions in normal form are read as they are. -/
theorem extensionsOf_map_text {extensions : List Text} (h : ∀ ext ∈ extensions, IsNormal ext) :
    extensionsOf (extensions.map .text) = .ok extensions := by
  rw [extensionsOf_eq_ok_iff]
  refine ⟨extensions, rfl, fun ext hext => (h ext hext).named, ?_⟩
  rw [List.map_congr_left fun ext hext => (h ext hext).normalExtension_eq, List.map_id']

/-! ### Settings that are accepted -/

theorem isNormal_of_namesExtensions {d : Data} {extensions : List Text}
    (h : NamesExtensions d extensions) : ∀ ext ∈ extensions, IsNormal ext := by
  cases h with
  | nothing => exact List.forall_mem_nil _
  | names hnames =>
      intro ext hext
      obtain ⟨t, ht, rfl⟩ := List.mem_map.1 hext
      exact isNormal_normalExtension (hnames t ht)

theorem isNormal_of_under {key : Text} {missing : List Text} {entries : List (Text × Data)}
    {extensions : List Text} (hmissing : ∀ ext ∈ missing, IsNormal ext)
    (h : Under NamesExtensions key missing entries extensions) :
    ∀ ext ∈ extensions, IsNormal ext := by
  rcases h with ⟨d, -, h⟩ | ⟨-, rfl⟩
  · exact isNormal_of_namesExtensions h
  · exact hmissing

/-- The extensions of settings that are accepted are in normal form. -/
theorem isNormal_of_mem_extensions {d : Data} {s : Settings} (h : ofData d = .ok s) :
    ∀ ext ∈ s.extensions, IsNormal ext := by
  have hscripts : ∀ ext ∈ defaultScriptExtensions, IsNormal ext := by decide +kernel
  have hcomponents : ∀ ext ∈ defaultComponentExtensions, IsNormal ext := by decide +kernel
  rw [ofData.eq_def] at h
  split at h
  next entries =>
    have hspells := ofEntries_eq_ok_iff.1 h
    intro ext hext
    rcases List.mem_append.1 (mem_distinct.1 hext) with hext | hext
    · exact isNormal_of_under hscripts hspells.scripts ext hext
    · exact isNormal_of_under hcomponents hspells.components ext hext
  · cases h

/-- A dot opens each extension of settings that are accepted. -/
theorem head?_of_mem_extensions {d : Data} {s : Settings} (h : ofData d = .ok s) {ext : Text}
    (hext : ext ∈ s.extensions) : ext.head? = some ('.' : CodePoint) :=
  (isNormal_of_mem_extensions h ext hext).dotted

/-- The extensions of settings that are accepted are their own lower case. -/
theorem map_lower_extensions {d : Data} {s : Settings} (h : ofData d = .ok s) :
    s.extensions.map Text.lower = s.extensions := by
  rw [List.map_congr_left fun ext hext => (isNormal_of_mem_extensions h ext hext).lowered,
    List.map_id']

/-- Source files are sought by the extensions as they are kept. -/
theorem filterIn_ofSettings_of_ofData {d : Data} {s : Settings} (h : ofData d = .ok s)
    (root : Project.Entry) :
    (Project.Search.ofSettings s).filterIn root =
      (Project.matchers s.nestedIgnore root).map fun ms =>
        ⟨s.extensions, s.includes, s.excludes, ms⟩ := by
  rw [Project.Search.filterIn, Project.Search.ofSettings, map_lower_extensions h]
  cases Project.matchers s.nestedIgnore root with
  | error e => rfl
  | ok ms => rfl

/-- **Normal forms are fixed.** A list of values is refused exactly if one of them is no extension, and
for the first such value.  Else it is read as the normal forms of its values, one for each, and these are
read as they are.  The extensions of settings that are accepted are those of both lists, each once and in
the order of their appearance, and looking for files in lower case looks for the same extensions. -/
theorem extensions_areFixed (location : List Step) (items : List Data) :
    ((∃ bad, readExtensions location (.list items) =
          .ok (.wrong [] location (.badExtension bad))) ↔ ∃ item ∈ items, ¬IsExtension item) ∧
      (∀ bad, readExtensions location (.list items) = .ok (.wrong [] location (.badExtension bad)) ↔
        items.find? (fun item => ¬IsExtension item) = some bad) ∧
      ((∀ item ∈ items, IsExtension item) →
        ∃ extensions, readExtensions location (.list items) = .ok (.sound extensions) ∧
          extensions.length = items.length ∧
          List.Forall₂ (fun item ext => ∃ t, item = .text t ∧ IsNormalFormOf t ext) items
            extensions ∧
          (∀ ext ∈ extensions, IsNormal ext) ∧
          readExtensions location (.list (extensions.map .text)) = .ok (.sound extensions)) ∧
      ∀ d s, ofData d = .ok s →
        NamesOnce (s.scriptExtensions ++ s.componentExtensions) s.extensions ∧
          s.extensions.map Text.lower = s.extensions ∧
          ∀ root, (Project.Search.ofSettings s).filterIn root =
            (Project.matchers s.nestedIgnore root).map fun ms =>
              ⟨s.extensions, s.includes, s.excludes, ms⟩ := by
  have hrefused : ∀ bad, readExtensions location (.list items) =
      .ok (.wrong [] location (.badExtension bad)) ↔
        items.find? (fun item => ¬IsExtension item) = some bad := by
    intro bad
    rw [← extensionsOf_eq_error_iff, readExtensions]
    cases extensionsOf items with
    | ok extensions => simp [Checked.sound, Checked.wrong]
    | error item => simp [Checked.wrong]
  refine ⟨?_, hrefused, fun hitems => ?_, fun d s h => ?_⟩
  · simp only [hrefused]
    rw [← Option.isSome_iff_exists, List.find?_isSome]
    simp only [decide_eq_true_eq]
  · obtain ⟨extensions, hread, hforms, hnormal⟩ := extensionsOf_of_isExtension hitems
    refine ⟨extensions, ?_, hforms.length_eq.symm, hforms, hnormal, ?_⟩
    · rw [readExtensions, hread]
    · rw [readExtensions, extensionsOf_map_text hnormal]
  · exact ⟨namesOnce_distinct _, map_lower_extensions h, filterIn_ofSettings_of_ofData h⟩

/-- Extensions as they may be written: with several dots, in any case, in any script. -/
def writtenExtensions : List Data := [.text "..Tar.GZ", .text "VUE", .text ".ΑΣ"]

/-- Settings with these extensions of scripts, some of which are extensions of components too. -/
def writtenData : Data :=
  .table [("script_extensions", .list writtenExtensions),
    ("sfc_extensions", .list [.text "page.vue", .text ".Vue"])]

theorem extensions_areFixed_written :
    (∀ item ∈ writtenExtensions, IsExtension item) ∧
      (∃ extensions, readExtensions [] (.list writtenExtensions) = .ok (.sound extensions) ∧
        readExtensions [] (.list (extensions.map .text)) = .ok (.sound extensions)) ∧
      ∃ s, ofData writtenData = .ok s ∧
        s.extensions = ["..tar.gz", ".vue", ".ας", ".page.vue"].map Text.ofString ∧
        s.extensions.map Text.lower = s.extensions := by
  obtain ⟨-, -, hread, hsettings⟩ := extensions_areFixed [] writtenExtensions
  have hitems : ∀ item ∈ writtenExtensions, IsExtension item := by decide
  obtain ⟨forms, hforms, -, -, -, hagain⟩ := hread hitems
  have hdata : (ofData writtenData).toOption.map Settings.extensions =
      some (["..tar.gz", ".vue", ".ας", ".page.vue"].map Text.ofString) := by
    decide +kernel
  refine ⟨hitems, ⟨forms, hforms, hagain⟩, ?_⟩
  cases h : ofData writtenData with
  | error p =>
      rw [h] at hdata
      cases hdata
  | ok s =>
      rw [h] at hdata
      exact ⟨s, rfl, Option.some.inj hdata, (hsettings _ s h).2.1⟩

end ComponentIndex.Settings
