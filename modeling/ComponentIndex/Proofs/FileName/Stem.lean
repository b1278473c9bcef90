/-
**Names and stems of files.**

A path can be written with slashes and with backslashes, and holds any number of empty parts and of single
dots.  What follows its last separator is the name of the file, if it names something; the stem is looked
for among all parts that name something, and is nevertheless cut off the same name, at its last dot.

Main definitions:

* `ComponentIndex.FileName.isSeparator`, `ComponentIndex.FileName.endsInSeparator` — what stands between
  the parts of a path;
* `ComponentIndex.FileName.IsLastPart` — what follows the last separator of a path;
* `ComponentIndex.FileName.IsStemOf` — a name cut at its last dot.

Main results:

* `ComponentIndex.Text.getLast?_splitOn` — the last part of a text that is split;
* `ComponentIndex.FileName.isLastPart_iff` — the last part of a path, and the one that is computed;
* `ComponentIndex.FileName.baseName_withSlashes` — the two ways to name a file;
* `ComponentIndex.SourceFile.stem_isStemOf_name` — **the stem of a file** is its name cut at its last dot.
-/

import ComponentIndex.Proofs.FileName
import ComponentIndex.Proofs.Text.Join
import ComponentIndex.SourceFile

set_option relaxedAutoImplicit false
set_option autoImplicit false

namespace ComponentIndex

/-! ### The last separator of a text -/

namespace Text

theorem afterLast_of_not_mem {sep : CodePoint} {t : Text} (h : sep ∉ t) : t.afterLast sep = t := by
  rcases afterLast_eq_self_or sep t with heq | ⟨before, heq⟩
  · exact heq
  · exact absurd (heq ▸ List.mem_append_right _ List.mem_cons_self) h

/-- The last part of a text is what follows the last separator. -/
theorem getLast?_splitOn (sep : CodePoint) (t : Text) :
    (t.splitOn sep).getLast? = some (t.afterLast sep) := by
  have hlast : List.splitOn sep (t.afterLast sep) = [t.afterLast sep] :=
    List.splitOn_eq_singleton (not_mem_afterLast sep t)
  have hsplit := afterLast_eq_self_or sep t
  rw [splitOn_eq]
  generalize t.afterLast sep = last at hlast hsplit ⊢
  rcases hsplit with rfl | ⟨before, rfl⟩
  · rw [hlast, List.getLast?_singleton]
  · rw [List.splitOn_append_cons_self, hlast, List.getLast?_concat]

theorem beforeLast?_of_not_mem {sep : CodePoint} {t : Text} (h : sep ∉ t) :
    t.beforeLast? sep = none := by
  rw [beforeLast?, List.dropWhile_eq_nil_iff.2 (ne_of_mem_reverse h)]

theorem beforeLast?_append {sep : CodePoint} {before last : Text} (h : sep ∉ last) :
    (before ++ sep :: last).beforeLast? sep = some before := by
  rw [beforeLast?, List.reverse_append, List.reverse_cons, List.append_assoc,
    List.dropWhile_append_of_pos (ne_of_mem_reverse h), List.singleton_append,
    List.dropWhile_cons_of_neg (by simp)]
  simp

end Text

namespace FileName

/-! ### The last part of a path -/

/-- A slash or a backslash. -/
def isSeparator (c : CodePoint) : Bool := c = '/' || c = '\\'

/-- The text is empty, or a separator is its last character: a part of a path can follow. -/
def endsInSeparator (t : Text) : Bool := t.getLast?.all isSeparator

/-- The name is what follows the last separator of a path. -/
def IsLastPart (path name : Text) : Prop :=
  ∃ directories, endsInSeparator directories = true ∧ (∀ c ∈ name, isSeparator c = false) ∧
    path = directories ++ name

section

variable {path name directories : Text}

theorem slash_not_mem (h : ∀ c ∈ name, isSeparator c = false) : ('/' : CodePoint) ∉ name := by
  intro hmem
  have hno := h _ hmem
  simp [isSeparator] at hno

theorem withSlashes_append (s t : Text) : withSlashes (s ++ t) = withSlashes s ++ withSlashes t :=
  List.map_append

theorem withSlashes_of_no_separator (h : ∀ c ∈ name, isSeparator c = false) :
    withSlashes name = name := by
  rw [withSlashes, Text.replace]
  refine (List.map_congr_left fun c hc => ?_).trans (List.map_id' name)
  have hno := h c hc
  rw [isSeparator, Bool.or_eq_false_iff, decide_eq_false_iff_not, decide_eq_false_iff_not] at hno
  rw [if_neg hno.2]

/-- A separator is written as a slash. -/
theorem withSlashes_separator {c : CodePoint} (h : isSeparator c = true) :
    withSlashes [c] = [('/' : CodePoint)] := by
  rw [isSeparator, Bool.or_eq_true, decide_eq_true_eq, decide_eq_true_eq] at h
  rcases h with rfl | rfl
  · rfl
  · rfl

/-- What is computed follows the last separator, whatever stands before that. -/
theorem afterLastSlash_append (hends : endsInSeparator directories = true)
    (hname : ∀ c ∈ name, isSeparator c = false) : afterLastSlash (directories ++ name) = name := by
  rw [afterLastSlash, withSlashes_append, withSlashes_of_no_separator hname]
  cases hlast : directories.getLast? with
  | none =>
      rw [List.getLast?_eq_none_iff.1 hlast]
      exact Text.afterLast_of_not_mem (slash_not_mem hname)
  | some c =>
      obtain ⟨before, hbefore⟩ := List.getLast?_eq_some_iff.1 hlast
      rw [endsInSeparator, hlast, Option.all_some] at hends
      rw [hbefore, withSlashes_append, withSlashes_separator hends, List.append_assoc]
      exact Text.afterLast_eq_of_suffix (slash_not_mem hname) (List.suffix_append _ _)

/-- Each path has a last part. -/
theorem exists_isLastPart (path : Text) : ∃ name, IsLastPart path name := by
  refine ⟨(path.reverse.takeWhile fun c => !isSeparator c).reverse,
    (path.reverse.dropWhile fun c => !isSeparator c).reverse, ?_, fun c hc => ?_, ?_⟩
  · rw [endsInSeparator, List.getLast?_reverse]
    have hhead := List.head?_dropWhile_not (fun c => !isSeparator c) path.reverse
    cases hdrop : (path.reverse.dropWhile fun c => !isSeparator c).head? with
    | none => rfl
    | some c => simpa [hdrop] using hhead
  · simpa using List.mem_takeWhile_imp (List.mem_reverse.1 hc)
  · rw [← List.reverse_append, List.takeWhile_append_dropWhile, List.reverse_reverse]

/-- The last part of a path is the one that is computed. -/
theorem isLastPart_iff : IsLastPart path name ↔ name = afterLastSlash path := by
  have heq : ∀ {name}, IsLastPart path name → name = afterLastSlash path := by
    rintro name ⟨directories, hends, hname, rfl⟩
    exact (afterLastSlash_append hends hname).symm
  constructor
  · exact heq
  · rintro rfl
    obtain ⟨name, hname⟩ := exists_isLastPart path
    exact heq hname ▸ hname

end

/-- The base name of a path is what follows the last separator, if that names something. -/
theorem baseName_withSlashes {path : Text} (hne : afterLastSlash path ≠ [])
    (hdot : afterLastSlash path ≠ Text.ofString ".") :
    baseName (withSlashes path) = afterLastSlash path := by
  obtain ⟨parts, hparts⟩ := List.getLast?_eq_some_iff.1
    (Text.getLast?_splitOn '/' (withSlashes path))
  -- The last part passes the test of the parts that name something, so it is the last of these too.
  have hnames : [afterLastSlash path].filter (fun part => part != [] && part != Text.ofString ".") =
      [afterLastSlash path] := by
    simp [hne, hdot]
  rw [baseName, components, hparts, List.filter_append, ← afterLastSlash, hnames,
    List.getLast?_concat, Option.getD_some]

/-! ### The stem of a name -/

/-- A name is cut at its last dot: the stem stands before it, and the tail begins with it.  A name without
a dot is all stem. -/
inductive IsStemOf (name : Text) : Text → Text → Prop
  | whole (hdot : ('.' : CodePoint) ∉ name) : IsStemOf name name []
  | cut {stem extension : Text} (hname : name = stem ++ ('.' : CodePoint) :: extension)
      (hdot : ('.' : CodePoint) ∉ extension) : IsStemOf name stem (('.' : CodePoint) :: extension)

theorem IsStemOf.append_eq {name stem tail : Text} (h : IsStemOf name stem tail) :
    stem ++ tail = name := by
  cases h with
  | whole => exact List.append_nil _
  | cut hname => exact hname.symm

theorem exists_isStemOf (name : Text) :
    ∃ tail, IsStemOf name ((name.beforeLast? '.').getD name) tail := by
  have hlast := Text.not_mem_afterLast '.' name
  rcases Text.afterLast_eq_self_or '.' name with heq | ⟨before, heq⟩
  · rw [heq] at hlast
    rw [Text.beforeLast?_of_not_mem hlast]
    exact ⟨[], .whole hlast⟩
  · have hbefore : name.beforeLast? '.' = some before := by
      rw [heq]
      exact Text.beforeLast?_append hlast
    rw [hbefore]
    exact ⟨_, .cut heq hlast⟩

end FileName

/-! ### The stem of a file -/

namespace SourceFile

open FileName

/-- **The stem of a file** is its name cut at its last dot, for every path on which something is named
behind the last separator.  The name is what stands there, and the stem depends on nothing else: whatever
directories are written before the name, with separators of either kind, empty parts and dots, the stem is
the same.  No separator occurs in it, and the name is the stem with what has been cut off. -/
theorem stem_isStemOf_name (f : SourceFile) (hne : f.name ≠ [])
    (hdot : f.name ≠ Text.ofString ".") :
    (∀ name, IsLastPart f.path name ↔ name = f.name) ∧
      (∃ tail, IsStemOf f.name f.stem tail ∧ f.stem ++ tail = f.name) ∧
      (∀ c ∈ f.stem, isSeparator c = false) ∧
      ∀ directories, endsInSeparator directories = true →
        FileName.stem (directories ++ f.name) = f.stem := by
  have hstem : ∀ path, afterLastSlash path = f.name →
      FileName.stem path = (f.name.beforeLast? '.').getD f.name := by
    intro path hpath
    rw [FileName.stem, baseName_withSlashes (hpath ▸ hne) (hpath ▸ hdot), hpath]
  have hself : f.stem = (f.name.beforeLast? '.').getD f.name := hstem f.path rfl
  obtain ⟨tail, htail⟩ := exists_isStemOf f.name
  rw [← hself] at htail
  obtain ⟨-, -, hname, -⟩ : IsLastPart f.path f.name := isLastPart_iff.2 rfl
  refine ⟨fun name => isLastPart_iff, ⟨tail, htail, htail.append_eq⟩, fun c hc => ?_, ?_⟩
  · exact hname c (htail.append_eq ▸ List.mem_append_left tail hc)
  · intro directories hends
    rw [hself]
    exact hstem _ (afterLastSlash_append hends hname)

/-- A path with separators of both kinds, empty parts and dots. -/
def mixedPath : Text := "src\\.//ui.d/.\\./app.component.vue"

theorem stem_isStemOf_name_mixedPath :
    (ofScript mixedPath []).name ≠ [] ∧ (ofScript mixedPath []).name ≠ Text.ofString "." ∧
      IsLastPart mixedPath "app.component.vue" ∧
      (∃ tail, IsStemOf "app.component.vue" (ofScript mixedPath []).stem tail) ∧
      (ofScript mixedPath []).stem = Text.ofString "app.component" ∧
      FileName.stem (Text.ofString "C:\\..\\/" ++ Text.ofString "app.component.vue") =
        (ofScript mixedPath []).stem := by
  have hname : (ofScript mixedPath []).name = Text.ofString "app.component.vue" := by
    decide +kernel
  have hne : (ofScript mixedPath []).name ≠ [] := by decide +kernel
  have hdot : (ofScript mixedPath []).name ≠ Text.ofString "." := by decide +kernel
  obtain ⟨hlast, ⟨tail, htail, -⟩, -, hdirectories⟩ :=
    stem_isStemOf_name (ofScript mixedPath []) hne hdot
  have hagain := hdirectories (Text.ofString "C:\\..\\/") (by decide +kernel)
  rw [hname] at htail hagain
  exact ⟨hne, hdot, (hlast _).2 hname.symm, ⟨tail, htail⟩, by decide +kernel, hagain⟩

example :
    (ofScript "src/a.vue/" []).name = [] ∧ (ofScript "src/a.vue/" []).stem = Text.ofString "a" := by
  decide +kernel

end SourceFile

end ComponentIndex
