/-
**Which settings are accepted.**

Settings are accepted if their keys are known and each value is of its kind: lists of texts, something
that stands for a truth value, lists of names of extensions, and a table about the framework.  Everything
else is refused.  Reading looks for what is wrong; here is told what is right, and the two are the same.

Main definitions:

* `ComponentIndex.Settings.StandsFor`, `ComponentIndex.Settings.NamesExtensions`,
  `ComponentIndex.Settings.Activates` — the kinds of values, with what they spell;
* `ComponentIndex.Settings.Spells` — the entries of a table spell settings;
* `ComponentIndex.Settings.IsRefused` — why a text is refused.

Main results:

* `ComponentIndex.Settings.ofEntries_eq_ok_iff` — **the settings that are accepted**;
* `ComponentIndex.Settings.ofText_eq_ok_iff`, `ComponentIndex.Settings.isRefused_of_ofText` — the texts
  that are accepted, and why the others are refused.
-/

import ComponentIndex.Proofs.Failure
import ComponentIndex.Proofs.Text.Order
import ComponentIndex.Settings.Reader

set_option relaxedAutoImplicit false
set_option autoImplicit false

namespace ComponentIndex.Settings

/-! ### What values spell -/

/-- A value is a list of texts. -/
def ListsTexts (d : Data) (ts : List Text) : Prop := d = .list (ts.map .text)

/-- A value is a truth value, or a number or a word in any case that stands for one. -/
inductive StandsFor : Data → Bool → Prop
  | truth (b : Bool) : StandsFor (.bool b) b
  | zero : StandsFor (.int 0) false
  | one : StandsFor (.int 1) true
  | zeroFloat {x : Binary64} (h : x.isZero = true) : StandsFor (.float x) false
  | oneFloat {x : Binary64} (h : x.isOne = true) : StandsFor (.float x) true
  | word {t : Text} {b : Bool} (h : truthOfWord? t = some b) : StandsFor (.text t) b

/-- A value is null, or a list of texts each of which holds something beside dots, with the extensions
they name. -/
inductive NamesExtensions : Data → List Text → Prop
  | nothing : NamesExtensions .null []
  | names {ts : List Text} (h : ∀ t ∈ ts, ∃ c ∈ t, c ≠ ('.' : CodePoint)) :
      NamesExtensions (.list (ts.map .text)) (ts.map normalExtension)

/-- The value of a key is of a kind and spells something; where the key is missing, this is what stands
there. -/
def Under {α : Type} (kind : Data → α → Prop) (key : Text) (missing : α)
    (entries : List (Text × Data)) (v : α) : Prop :=
  (∃ d, entries.lookup key = some d ∧ kind d v) ∨ entries.lookup key = none ∧ v = missing

/-- A value is null or stands for a truth value. -/
def MayStandFor (d : Data) (v : Option Bool) : Prop :=
  d = .null ∧ v = none ∨ ∃ b, StandsFor d b ∧ v = some b

/-- A value is a table that says whether the framework is active, and nothing else. -/
def Activates (d : Data) (v : Option Bool) : Prop :=
  ∃ entries, d = .table entries ∧ (∀ key ∈ entries.map Prod.fst, key = Text.ofString "enabled") ∧
    Under MayStandFor "enabled" none entries v

/-- The entries of a table spell settings. -/
structure Spells (entries : List (Text × Data)) (s : Settings) : Prop where
  /-- All keys are known. -/
  known : ∀ key ∈ entries.map Prod.fst, key ∈ knownKeys
  /-- The patterns of files that belong to the project. -/
  includes : Under ListsTexts "include" [] entries s.includes
  /-- The patterns of files that do not. -/
  excludes : Under ListsTexts "exclude" [] entries s.excludes
  /-- Whether the rules files of all directories count. -/
  nested : Under StandsFor "nested_gitignore" false entries s.nestedIgnore
  /-- The extensions of scripts. -/
  scripts : Under NamesExtensions "script_extensions" defaultScriptExtensions entries
    s.scriptExtensions
  /-- The extensions of components. -/
  components : Under NamesExtensions "sfc_extensions" defaultComponentExtensions entries
    s.componentExtensions
  /-- Whether the framework is active. -/
  framework : Under Activates "framework" none entries s.enabled

/-! ### Single values -/

/-- Nothing wrong was found on the way to a value. -/
structure Checked.Gives {α : Type} (c : Checked α) (v : α) : Prop where
  /-- Nothing was found. -/
  sound : c.findings = []
  /-- This is the value. -/
  value : c.value = v

theorem Checked.gives_sound_iff {α : Type} {x v : α} : (Checked.sound x).Gives v ↔ v = x := by
  constructor
  · rintro ⟨-, rfl⟩
    rfl
  · rintro rfl
    exact ⟨rfl, rfl⟩

theorem Checked.not_gives_wrong {α : Type} {x v : α} {location : List Step} {fault : Fault} :
    ¬(Checked.wrong x location fault).Gives v := by
  rintro ⟨h, -⟩
  cases h

/-- Reading finds nothing wrong with the values of a kind only, and gives what they spell. -/
def Accepts {α : Type} (read : List Step → Data → Checked α) (kind : Data → α → Prop) : Prop :=
  ∀ location d v, (read location d).Gives v ↔ kind d v

theorem textsOf_map_text (ts : List Text) : textsOf (ts.map .text) = ts := by
  rw [textsOf, List.filterMap_map]
  exact List.filterMap_some

theorem textFindings_eq_nil_iff {location : List Step} {index : Nat} {items : List Data} :
    textFindings location index items = [] ↔ ∃ ts : List Text, items = ts.map .text := by
  fun_induction textFindings location index items with
  | case1 =>
      constructor
      · intro _
        exact ⟨[], rfl⟩
      · intro _
        rfl
  | case2 index t items ih =>
      rw [ih]
      constructor
      · rintro ⟨ts, rfl⟩
        exact ⟨t :: ts, rfl⟩
      · rintro ⟨ts, hts⟩
        cases ts with
        | nil => cases hts
        | cons t' ts => exact ⟨ts, (List.cons.inj hts).2⟩
  | case3 index d items hno ih =>
      constructor
      · intro h
        cases h
      · rintro ⟨ts, hts⟩
        cases ts with
        | nil => cases hts
        | cons t ts => exact absurd (List.cons.inj hts).1 (hno t)

theorem accepts_readTexts : Accepts readTexts ListsTexts := by
  intro location d ts
  rw [ListsTexts]
  cases d with
  | list items =>
      rw [readTexts]
      constructor
      · rintro ⟨hsound, hvalue⟩
        obtain ⟨ts', rfl⟩ := textFindings_eq_nil_iff.1 hsound
        rw [← hvalue]
        dsimp only
        rw [textsOf_map_text]
      · intro h
        obtain rfl : items = ts.map .text := Data.list.inj h
        exact ⟨textFindings_eq_nil_iff.2 ⟨ts, rfl⟩, textsOf_map_text ts⟩
  | _ => simp [readTexts, Checked.not_gives_wrong]

theorem not_isZero_of_isOne {x : Binary64} (h : x.isOne = true) : x.isZero = false := by
  obtain rfl : x = Binary64.ofRatio false 1 1 := of_decide_eq_true h
  decide +kernel

theorem standsFor_of_readTruth_gives {location : List Step} {d : Data} {b : Bool}
    (h : (readTruth location d).Gives b) : StandsFor d b := by
  cases d with
  | bool x =>
      obtain rfl := Checked.gives_sound_iff.1 h
      exact .truth _
  | int n =>
      rw [readTruth] at h
      split at h
      next hzero =>
        obtain rfl := Checked.gives_sound_iff.1 h
        rw [hzero]
        exact .zero
      · split at h
        next hone =>
          obtain rfl := Checked.gives_sound_iff.1 h
          rw [hone]
          exact .one
        · exact absurd h Checked.not_gives_wrong
  | float x =>
      rw [readTruth] at h
      split at h
      next hzero =>
        obtain rfl := Checked.gives_sound_iff.1 h
        exact .zeroFloat hzero
      · split at h
        next hone =>
          obtain rfl := Checked.gives_sound_iff.1 h
          exact .oneFloat hone
        · exact absurd h Checked.not_gives_wrong
  | text t =>
      rw [readTruth] at h
      split at h
      next hword =>
        obtain rfl := Checked.gives_sound_iff.1 h
        exact .word hword
      · exact absurd h Checked.not_gives_wrong
  | _ => exact absurd h Checked.not_gives_wrong

theorem accepts_readTruth : Accepts readTruth StandsFor := by
  intro location d b
  refine ⟨standsFor_of_readTruth_gives, fun h => ?_⟩
  cases h with
  | truth => exact ⟨rfl, rfl⟩
  | zero => exact ⟨rfl, rfl⟩
  | one => exact ⟨rfl, rfl⟩
  | zeroFloat hzero =>
      rw [readTruth, if_pos hzero]
      exact ⟨rfl, rfl⟩
  | oneFloat hone =>
      rw [readTruth, if_neg (Bool.eq_false_iff.1 (not_isZero_of_isOne hone)), if_pos hone]
      exact ⟨rfl, rfl⟩
  | word hword =>
      rw [readTruth]
      simp only [hword]
      exact ⟨rfl, rfl⟩

theorem accepts_readEnabled : Accepts readEnabled MayStandFor := by
  intro location d v
  rw [readEnabled.eq_def]
  split
  · rw [Checked.gives_sound_iff]
    constructor
    · rintro rfl
      exact .inl ⟨rfl, rfl⟩
    · rintro (⟨-, rfl⟩ | ⟨b, hb, -⟩)
      · rfl
      · cases hb
  next hnull =>
    constructor
    · rintro ⟨hsound, rfl⟩
      exact .inr ⟨_, (accepts_readTruth _ _ _).1 ⟨hsound, rfl⟩, rfl⟩
    · rintro (⟨hd, -⟩ | ⟨b, hb, rfl⟩)
      · exact absurd hd hnull
      · obtain ⟨hsound, hvalue⟩ := (accepts_readTruth _ _ _).2 hb
        exact ⟨hsound, congrArg some hvalue⟩

/-! ### Tables -/

theorem unknownKeys_eq_nil_iff {location : List Step} {known : List Text}
    {entries : List (Text × Data)} :
    unknownKeys location known entries = [] ↔ ∀ key ∈ entries.map Prod.fst, key ∈ known := by
  simp only [unknownKeys, List.map_eq_nil_iff, List.filter_eq_nil_iff, List.forall_mem_map,
    Bool.not_eq_true', Bool.not_eq_false, List.contains_iff_mem]

theorem readKey_gives_iff {α : Type} {read : List Step → Data → Checked α} {kind : Data → α → Prop}
    (hread : Accepts read kind) (location : List Step) {key : Text} {missing : α}
    {entries : List (Text × Data)} {v : α} :
    (readKey read location key missing entries).Gives v ↔ Under kind key missing entries v := by
  rw [readKey, Under]
  cases entries.lookup key with
  | some d => simp [hread _ d v]
  | none => simp [Checked.gives_sound_iff]

theorem accepts_readFramework : Accepts readFramework Activates := by
  intro location d v
  cases d with
  | table entries =>
      rw [readFramework, Activates]
      constructor
      · rintro ⟨hsound, hvalue⟩
        obtain ⟨henabled, hknown⟩ := List.append_eq_nil_iff.1 hsound
        refine ⟨entries, rfl, fun key hkey => ?_, ?_⟩
        · exact List.mem_singleton.1 (unknownKeys_eq_nil_iff.1 hknown key hkey)
        · exact (readKey_gives_iff accepts_readEnabled _).1 ⟨henabled, hvalue⟩
      · rintro ⟨entries', hentries, hknown, hunder⟩
        obtain rfl := Data.table.inj hentries
        obtain ⟨henabled, hvalue⟩ := (readKey_gives_iff accepts_readEnabled _).2 hunder
        refine ⟨List.append_eq_nil_iff.2 ⟨henabled, unknownKeys_eq_nil_iff.2 ?_⟩, hvalue⟩
        exact fun key hkey => List.mem_singleton.2 (hknown key hkey)
  | _ => simp [readFramework, Activates, Checked.not_gives_wrong]

/-! ### Lists of extensions -/

theorem namesExtension_iff {t : Text} :
    namesExtension t = true ↔ ∃ c ∈ t, c ≠ ('.' : CodePoint) := by
  simp only [namesExtension, List.any_eq_true, decide_eq_true_eq]

theorem extensionsOf_eq_ok_iff {items : List Data} {extensions : List Text} :
    extensionsOf items = .ok extensions ↔
      ∃ ts : List Text, items = ts.map .text ∧
        (∀ t ∈ ts, ∃ c ∈ t, c ≠ ('.' : CodePoint)) ∧ extensions = ts.map normalExtension := by
  fun_induction extensionsOf items generalizing extensions with
  | case1 =>
      constructor
      · intro h
        exact ⟨[], rfl, List.forall_mem_nil _, (Except.ok.inj h).symm⟩
      · rintro ⟨ts, hts, -, rfl⟩
        obtain rfl := List.map_eq_nil_iff.1 hts.symm
        rfl
  | case2 t items hnames ih =>
      constructor
      · intro h
        cases hitems : extensionsOf items with
        | error d => simp [hitems, Except.map] at h
        | ok found =>
            rw [hitems] at h
            obtain rfl : normalExtension t :: found = extensions := Except.ok.inj h
            obtain ⟨ts, rfl, hall, rfl⟩ := ih.1 hitems
            exact ⟨t :: ts, rfl, List.forall_mem_cons.2 ⟨namesExtension_iff.1 hnames, hall⟩, rfl⟩
      · rintro ⟨ts, hts, hall, rfl⟩
        cases ts with
        | nil => cases hts
        | cons t' ts =>
            obtain ⟨ht, rfl⟩ := List.cons.inj hts
            obtain rfl := Data.text.inj ht
            rw [ih.2 ⟨ts, rfl, fun t ht => hall t (List.mem_cons_of_mem _ ht), rfl⟩]
            rfl
  | case3 t items hnames =>
      constructor
      · intro h
        cases h
      · rintro ⟨ts, hts, hall, -⟩
        cases ts with
        | nil => cases hts
        | cons t' ts =>
            obtain rfl := Data.text.inj (List.cons.inj hts).1
            exact absurd (namesExtension_iff.2 (hall t List.mem_cons_self)) hnames
  | case4 d items hno =>
      constructor
      · intro h
        cases h
      · rintro ⟨ts, hts, -, -⟩
        cases ts with
        | nil => cases hts
        | cons t ts => exact absurd (List.cons.inj hts).1 (hno t)

/-- Extensions are read with nothing wrong. -/
def GivesExtensions (r : Except Problem (Checked (List Text))) (v : List Text) : Prop :=
  ∃ c, r = .ok c ∧ c.Gives v

theorem readExtensions_gives_iff {location : List Step} {d : Data} {v : List Text} :
    GivesExtensions (readExtensions location d) v ↔ NamesExtensions d v := by
  cases d with
  | null =>
      constructor
      · rintro ⟨c, hc, hgives⟩
        obtain rfl := Except.ok.inj hc
        obtain rfl := Checked.gives_sound_iff.1 hgives
        exact .nothing
      · rintro ⟨⟩
        exact ⟨_, rfl, rfl, rfl⟩
  | list items =>
      constructor
      · rintro ⟨c, hc, hgives⟩
        rw [readExtensions] at hc
        split at hc
        next hitems =>
          obtain rfl := Except.ok.inj hc
          obtain rfl := Checked.gives_sound_iff.1 hgives
          obtain ⟨ts, rfl, hall, rfl⟩ := extensionsOf_eq_ok_iff.1 hitems
          exact .names hall
        · obtain rfl := Except.ok.inj hc
          exact absurd hgives Checked.not_gives_wrong
      · intro h
        cases h with
        | names hall =>
            refine ⟨_, ?_, Checked.gives_sound_iff.2 rfl⟩
            rw [readExtensions, extensionsOf_eq_ok_iff.2 ⟨_, rfl, hall, rfl⟩]
  | _ =>
      constructor
      · rintro ⟨c, hc, -⟩
        cases hc
      · rintro ⟨⟩

theorem readExtensionsKey_gives_iff {key : Text} {missing : List Text}
    {entries : List (Text × Data)} {v : List Text} :
    GivesExtensions (readExtensionsKey key missing entries) v ↔
      Under NamesExtensions key missing entries v := by
  rw [readExtensionsKey, Under]
  cases entries.lookup key with
  | some d => simp [readExtensions_gives_iff]
  | none => simp [GivesExtensions, Checked.gives_sound_iff]

/-- The value of a key is neither null nor a list. -/
def HoldsNoList (key : Text) (entries : List (Text × Data)) : Prop :=
  ∃ d, entries.lookup key = some d ∧ d ≠ .null ∧ ∀ items, d ≠ .list items

theorem readExtensionsKey_eq_error_iff {key : Text} {missing : List Text}
    {entries : List (Text × Data)} {p : Problem} :
    readExtensionsKey key missing entries = .error p ↔
      p = .extensionsNoList ∧ HoldsNoList key entries := by
  rw [readExtensionsKey, HoldsNoList]
  cases entries.lookup key with
  | none => simp
  | some d =>
      cases d with
      | list items =>
          dsimp only
          rw [readExtensions]
          split <;> simp
      | _ => simp [readExtensions, eq_comm]

/-! ### Settings -/

/-- **The settings that are accepted** are those that the entries spell. -/
theorem ofEntries_eq_ok_iff {entries : List (Text × Data)} {s : Settings} :
    ofEntries entries = .ok s ↔ Spells entries s := by
  constructor
  · intro h
    rw [ofEntries] at h
    obtain ⟨scripts, hscripts, h⟩ := bind_eq_ok_iff.1 h
    obtain ⟨components, hcomponents, h⟩ := bind_eq_ok_iff.1 h
    dsimp only at h
    split at h
    next hempty =>
      obtain rfl := Except.ok.inj h
      have hnil := List.isEmpty_iff.1 hempty
      simp only [List.append_eq_nil_iff] at hnil
      obtain ⟨⟨⟨⟨⟨⟨hi, he⟩, hn⟩, hs⟩, hc⟩, hf⟩, hk⟩ := hnil
      exact
        { known := unknownKeys_eq_nil_iff.1 hk
          includes := (readKey_gives_iff accepts_readTexts _).1 ⟨hi, rfl⟩
          excludes := (readKey_gives_iff accepts_readTexts _).1 ⟨he, rfl⟩
          nested := (readKey_gives_iff accepts_readTruth _).1 ⟨hn, rfl⟩
          scripts := readExtensionsKey_gives_iff.1 ⟨scripts, hscripts, hs, rfl⟩
          components := readExtensionsKey_gives_iff.1 ⟨components, hcomponents, hc, rfl⟩
          framework := (readKey_gives_iff accepts_readFramework _).1 ⟨hf, rfl⟩ }
    · cases h
  · intro h
    obtain ⟨hi, hiv⟩ := (readKey_gives_iff accepts_readTexts []).2 h.includes
    obtain ⟨he, hev⟩ := (readKey_gives_iff accepts_readTexts []).2 h.excludes
    obtain ⟨hn, hnv⟩ := (readKey_gives_iff accepts_readTruth []).2 h.nested
    obtain ⟨scripts, hscripts, hs, hsv⟩ := readExtensionsKey_gives_iff.2 h.scripts
    obtain ⟨components, hcomponents, hc, hcv⟩ := readExtensionsKey_gives_iff.2 h.components
    obtain ⟨hf, hfv⟩ := (readKey_gives_iff accepts_readFramework []).2 h.framework
    have hk : unknownKeys [] knownKeys entries = [] := unknownKeys_eq_nil_iff.2 h.known
    rw [ofEntries]
    refine bind_eq_ok_iff.2 ⟨scripts, hscripts, bind_eq_ok_iff.2 ⟨components, hcomponents, ?_⟩⟩
    simp only [hi, he, hn, hs, hc, hf, hk, hiv, hev, hnv, hsv, hcv, hfv]
    rfl

/-- Why entries that spell no settings are refused: a value that is no list comes before all else. -/
theorem problem_of_ofEntries {entries : List (Text × Data)} {p : Problem}
    (h : ofEntries entries = .error p) :
    p = .extensionsNoList ∧
        (HoldsNoList "script_extensions" entries ∨ HoldsNoList "sfc_extensions" entries) ∨
      (∃ findings, p = .invalid findings) ∧
        ¬HoldsNoList "script_extensions" entries ∧ ¬HoldsNoList "sfc_extensions" entries := by
  rw [ofEntries] at h
  rcases bind_eq_error_iff.1 h with hscripts | ⟨scripts, hscripts, h⟩
  · obtain ⟨hp, hholds⟩ := readExtensionsKey_eq_error_iff.1 hscripts
    exact .inl ⟨hp, .inl hholds⟩
  · rcases bind_eq_error_iff.1 h with hcomponents | ⟨components, hcomponents, h⟩
    · obtain ⟨hp, hholds⟩ := readExtensionsKey_eq_error_iff.1 hcomponents
      exact .inl ⟨hp, .inr hholds⟩
    · have hno : ∀ {key missing checked},
          readExtensionsKey key missing entries = .ok checked → ¬HoldsNoList key entries := by
        intro key missing checked hok hholds
        rw [readExtensionsKey_eq_error_iff.2 ⟨rfl, hholds⟩] at hok
        cases hok
      dsimp only at h
      split at h
      · cases h
      · exact .inr ⟨⟨_, (Except.error.inj h).symm⟩, hno hscripts, hno hcomponents⟩

/-- A text spells a table, or nothing. -/
theorem table_of_parse? {t : Text} {d : Data} (h : Toml.parse? t = some d) :
    ∃ entries, d = .table entries := by
  rw [Toml.parse?] at h
  obtain ⟨statements, -, h⟩ := Option.bind_eq_some_iff.1 h
  obtain ⟨document, -, h⟩ := Option.bind_eq_some_iff.1 h
  exact ⟨_, (Option.some.inj h).symm⟩

theorem ofText_of_parse? {t : Text} {entries : List (Text × Data)}
    (h : Toml.parse? t = some (.table entries)) : ofText t = ofEntries entries := by
  delta ofText
  simp only [h, ofData]

theorem ofText_of_not_parse? {t : Text} (h : Toml.parse? t = none) :
    ofText t = .error .notReadable := by
  delta ofText
  simp only [h]

/-- A text spells settings if it spells a table the entries of which do. -/
theorem ofText_eq_ok_iff {t : Text} {s : Settings} :
    ofText t = .ok s ↔ ∃ entries, Toml.parse? t = some (.table entries) ∧ Spells entries s := by
  cases hparse : Toml.parse? t with
  | none => simp [ofText_of_not_parse? hparse]
  | some d =>
      obtain ⟨entries, rfl⟩ := table_of_parse? hparse
      simp [ofText_of_parse? hparse, ofEntries_eq_ok_iff]

/-- Why a text is refused: it spells no table, or one with a value that should list extensions and is no
list, or one that has something else wrong. -/
inductive IsRefused (t : Text) : Problem → Prop
  | notReadable (h : Toml.parse? t = none) : IsRefused t .notReadable
  | extensionsNoList {entries : List (Text × Data)} (h : Toml.parse? t = some (.table entries))
      (hholds : HoldsNoList "script_extensions" entries ∨ HoldsNoList "sfc_extensions" entries) :
      IsRefused t .extensionsNoList
  | invalid {entries : List (Text × Data)} {findings : List Finding}
      (h : Toml.parse? t = some (.table entries)) (hspells : ∀ s, ¬Spells entries s)
      (hscripts : ¬HoldsNoList "script_extensions" entries)
      (hcomponents : ¬HoldsNoList "sfc_extensions" entries) : IsRefused t (.invalid findings)

theorem isRefused_of_ofText {t : Text} {p : Problem} (h : ofText t = .error p) : IsRefused t p := by
  cases hparse : Toml.parse? t with
  | none =>
      rw [ofText_of_not_parse? hparse] at h
      obtain rfl := Except.error.inj h
      exact .notReadable hparse
  | some d =>
      obtain ⟨entries, rfl⟩ := table_of_parse? hparse
      rw [ofText_of_parse? hparse] at h
      rcases problem_of_ofEntries h with ⟨rfl, hholds⟩ | ⟨⟨findings, rfl⟩, hscripts, hcomponents⟩
      · exact .extensionsNoList hparse hholds
      · refine .invalid hparse (fun s hs => ?_) hscripts hcomponents
        rw [ofEntries_eq_ok_iff.2 hs] at h
        cases h

end ComponentIndex.Settings
