/-
**The components of a project.**

Whether a file is a component is decided twice.  A scan looks at the end of its path in lower case;
the search for loops looks for the suffix of its name in the list of extensions.  The two agree on
extensions with a single dot, but for a capital sigma, whose lower-case form depends on what stands
before it.  An extension with a further dot, such as `.page.vue`, can be the end of a path but is
never the suffix of a name, so a file that only such an extension makes a component is scanned as
one and its loops are not sought.

Main results:

* `ComponentIndex.Project.exists_extensionOf` — the path of a source file ends with its suffix;
* `ComponentIndex.Project.mem_componentFiles_iff` — the files whose loops are sought;
* `ComponentIndex.Project.fileType_eq_component_iff` — **the files that are scanned as components**
  are those, and those with an extension of several dots.
-/

import ComponentIndex.Proofs.FileName
import ComponentIndex.Proofs.Project.Files
import ComponentIndex.Proofs.Settings.Extension
import ComponentIndex.Proofs.SourceFile
import ComponentIndex.Proofs.Text.LowerCase

set_option relaxedAutoImplicit false
set_option autoImplicit false

namespace ComponentIndex

/-- A file is a component if its path in lower case ends with an extension of components. -/
theorem FileType.ofPath_eq_component_iff {path : Text} {extensions : List Text} :
    ofPath path extensions = .component ↔ ∃ ext ∈ extensions, ext <:+ path.lower := by
  simp [ofPath]

namespace Project

variable {d : Data} {s : Settings} {root : Entry} {files comps : List (Path × List UInt8)}
  {f : Path × List UInt8}

/-! ### Source files -/

/-- The extension of a source file is one of those that are sought. -/
theorem lower_extensionOf_mem (hfiles : sourceFiles s root = .ok files) (hf : f ∈ files) :
    (extensionOf f.1).lower ∈ s.extensions.map Text.lower := by
  obtain ⟨filter, hfilter, hrun⟩ := bind_eq_ok_iff.1 hfiles
  obtain ⟨found, hfound, hsorted⟩ := bind_eq_ok_iff.1 hrun
  obtain ⟨matchers, -, hmade⟩ := bind_eq_ok_iff.1 hfilter
  obtain rfl := Except.ok.inj hmade
  obtain rfl : byPath found = files := Except.ok.inj hsorted
  have hmem : f ∈ found := (sortBy_perm found).mem_iff.1 hf
  rw [eq_filter_of_filterM hfound, List.mem_filter] at hmem
  -- A path whose name is not allowed is refused before anything else is looked at.
  have haccepts := hmem.2
  dsimp only at haccepts
  rw [Filter.accepts] at haccepts
  split at haccepts
  · cases haccepts
  next hname =>
    simp only [Filter.allowsName, Bool.not_eq_true', Bool.not_eq_false, Bool.and_eq_true] at hname
    exact List.contains_iff_mem.1 hname.1

/-- The path of a source file ends with the suffix of its name, which is a dot with an extension
behind it that holds no further dot. -/
theorem exists_extensionOf (hs : Settings.ofData d = .ok s)
    (hfiles : sourceFiles s root = .ok files) (hf : f ∈ files) :
    ∃ before extension : Text, ('.' : CodePoint) ∉ extension ∧
      f.1.toText = before ++ ('.' : CodePoint) :: extension ∧
        extensionOf f.1 = ('.' : CodePoint) :: extension := by
  obtain ⟨ext, hext, hlower⟩ := List.mem_map.1 (lower_extensionOf_mem hfiles hf)
  have hne : extensionOf f.1 ≠ [] := by
    intro hnil
    rw [hnil, Text.lower_eq_nil_iff.2 rfl, Text.lower_eq_nil_iff] at hlower
    have hdot := Settings.head?_of_mem_extensions hs hext
    rw [hlower] at hdot
    cases hdot
  cases hlast : f.1.getLast? with
  | none => exact absurd (by rw [extensionOf, hlast]; rfl) hne
  | some name =>
      have hsuffix : extensionOf f.1 = FileName.suffix name := by rw [extensionOf, hlast]; rfl
      rcases FileName.suffix_eq_nil_or name with hnil | ⟨before, extension, hdot, hname, hext⟩
      · exact absurd (hsuffix.trans hnil) hne
      · obtain ⟨directories, hpath⟩ := Path.getLast_suffix_toText hlast
        refine ⟨directories ++ before, extension, hdot, ?_, hsuffix.trans hext⟩
        rw [← hpath, hname, List.append_assoc]

/-! ### Components -/

/-- The loops of a source file are sought if its suffix in lower case is an extension of
components. -/
theorem mem_componentFiles_iff (hfiles : sourceFiles s root = .ok files)
    (hcomps : componentFiles s root = .ok comps) :
    f ∈ comps ↔ f ∈ files ∧ (extensionOf f.1).lower ∈ s.componentExtensions := by
  rw [componentFiles, hfiles] at hcomps
  obtain rfl := Except.ok.inj hcomps
  rw [List.mem_filter, List.contains_iff_mem]

/-- **The files that are scanned as components** are those whose loops are sought, and those whose
path ends with an extension of several dots, if no capital sigma occurs in the suffix. -/
theorem fileType_eq_component_iff [Parsers] (hs : Settings.ofData d = .ok s)
    (hfiles : sourceFiles s root = .ok files) (hcomps : componentFiles s root = .ok comps)
    (hf : f ∈ files) (hsigma : ('Σ' : CodePoint) ∉ extensionOf f.1) :
    (loadedFile s.componentExtensions f.1.toText f.2).fileType = .component ↔
      f ∈ comps ∨
        ∃ ext ∈ s.componentExtensions, ('.' : CodePoint) ∈ ext.tail ∧
          ext <:+ f.1.toText.lower := by
  obtain ⟨before, extension, hdot, hpath, hsuffix⟩ := exists_extensionOf hs hfiles hf
  have hend : (extensionOf f.1).lower <:+ f.1.toText.lower := by
    rw [hpath, ← hsuffix]
    exact Text.lower_suffix hsigma
  rw [loadedFile, SourceFile.fileType_ofBytes, FileType.ofPath_eq_component_iff,
    mem_componentFiles_iff hfiles hcomps]
  constructor
  · rintro ⟨ext, hext, hends⟩
    by_cases htail : ('.' : CodePoint) ∈ ext.tail
    · exact Or.inr ⟨ext, hext, htail, hends⟩
    · -- Both ends open with the last dot of the path.
      have hhead := Settings.head?_of_mem_extensions hs
        (mem_distinct.2 (List.mem_append_right _ hext))
      obtain ⟨tail, rfl⟩ : ∃ tail, ext = ('.' : CodePoint) :: tail := by
        cases ext with
        | nil => cases hhead
        | cons c tail => exact ⟨tail, by rw [Option.some.inj hhead]⟩
      rw [hsuffix, List.mem_cons, not_or] at hsigma
      rw [hsuffix, Text.lower_dot_cons hsigma.2] at hend ⊢
      have hlast := Text.afterLast_eq_of_suffix htail hends
      rw [Text.afterLast_eq_of_suffix (Text.dot_not_mem_lower hdot) hend] at hlast
      exact Or.inl ⟨hf, hlast ▸ hext⟩
  · rintro (⟨-, hmem⟩ | ⟨ext, hext, -, hends⟩)
    · exact ⟨_, hmem, hend⟩
    · exact ⟨ext, hext, hends⟩

/-- A capital sigma can part the two: at the end of a word its lower-case form is another one than
behind a dot alone. -/
example :
    componentFiles { componentExtensions := [".σ"] } (.directory [("x.Σ", .file [])]) =
        .ok [(["x.Σ"], [])] ∧
      (loadedFile [".σ"] "x.Σ" []).fileType = .script := by
  decide +kernel

/-- Settings with an extension of two dots, whose last part is an extension of scripts. -/
def pageData : Data :=
  .table [("sfc_extensions", .list [.text ".page.vue"]), ("script_extensions", .list [.text "vue"])]

/-- What these settings are. -/
def pageSettings : Settings where
  scriptExtensions := [".vue"]
  componentExtensions := [".page.vue"]

/-- A project with two files of such settings. -/
def pageProject : Entry :=
  .directory [("x.page.vue", .file []), ("a.vue", .file [])]

theorem ofData_pageData : Settings.ofData pageData = .ok pageSettings := rfl

theorem sourceFiles_pageProject :
    sourceFiles pageSettings pageProject = .ok [(["a.vue"], []), (["x.page.vue"], [])] := by
  decide +kernel

theorem componentFiles_pageProject : componentFiles pageSettings pageProject = .ok [] := by
  decide +kernel

theorem fileType_eq_component_iff_page :
    (loadedFile pageSettings.componentExtensions "x.page.vue" []).fileType = .component ∧
      (loadedFile pageSettings.componentExtensions "a.vue" []).fileType ≠ .component := by
  have hpage := fileType_eq_component_iff (f := (["x.page.vue"], [])) ofData_pageData
    sourceFiles_pageProject componentFiles_pageProject (by decide) (by decide)
  have hscript := fileType_eq_component_iff (f := (["a.vue"], [])) ofData_pageData
    sourceFiles_pageProject componentFiles_pageProject (by decide) (by decide)
  refine ⟨hpage.2 (Or.inr ?_), fun h => ?_⟩
  · decide
  · exact absurd (hscript.1 h) (by decide)

/-- Not all files that are scanned as components are searched for loops. -/
theorem not_mem_componentFiles_page :
    ¬∀ (d : Data) (s : Settings) (root : Entry) (files comps : List (Path × List UInt8))
      (f : Path × List UInt8), Settings.ofData d = .ok s → sourceFiles s root = .ok files →
        componentFiles s root = .ok comps → f ∈ files →
          ((loadedFile s.componentExtensions f.1.toText f.2).fileType = .component ↔
            f ∈ comps) := by
  intro h
  have hpage := h _ _ _ _ _ (["x.page.vue"], []) ofData_pageData sourceFiles_pageProject
    componentFiles_pageProject (by decide)
  exact absurd (hpage.1 (by decide +kernel)) (by decide)

end Project

end ComponentIndex
