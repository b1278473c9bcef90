/-
**The files of a project.**

In a tree whose directories name each entry once, no two files have the same path, and paths that
differ are spelled differently.  The source files of a project are therefore strictly in the order
of their paths, whatever the order in which directories list their entries.

Main definitions:

* `ComponentIndex.Project.Entry.IsWellNamed` — the names in each directory differ and hold no slash.

Main results:

* `ComponentIndex.Project.Path.toText_injective` — a path is determined by its text;
* `ComponentIndex.Project.Path.getLast_suffix_toText` — its text ends with its last name;
* `ComponentIndex.Project.Entry.pairwise_sourceFiles` — no two files have the same path;
* `ComponentIndex.Project.pairwise_sourceFiles` — **the source files are strictly sorted**;
* `ComponentIndex.Project.settingsOf_of_absent` — the settings of a project that says nothing.
-/

import ComponentIndex.Project.Scan
import ComponentIndex.Proofs.Failure
import ComponentIndex.Proofs.Text.Join
import ComponentIndex.Proofs.Text.Order

set_option relaxedAutoImplicit false
set_option autoImplicit false

namespace ComponentIndex

namespace Project

/-! ### Paths as texts -/

/-- A path whose names hold no slash is determined by its text. -/
theorem Path.toText_injective {p q : Path} (hp : p ≠ []) (hq : q ≠ [])
    (hp' : ∀ name ∈ p, ('/' : CodePoint) ∉ name) (hq' : ∀ name ∈ q, ('/' : CodePoint) ∉ name)
    (h : p.toText = q.toText) : p = q := by
  have hsplit := congrArg (Text.splitOn '/') h
  rwa [toText, toText, show Text.ofString "/" = [('/' : CodePoint)] from rfl,
    Text.splitOn_join hp hp', Text.splitOn_join hq hq'] at hsplit

/-- The text of a path ends with its last name. -/
theorem Path.getLast_suffix_toText {path : Path} {name : Text} (h : path.getLast? = some name) :
    name <:+ path.toText := by
  induction path with
  | nil => cases h
  | cons first path ih =>
      cases path with
      | nil =>
          obtain rfl : first = name := Option.some.inj h
          have htext : toText [first] = first := Text.join_singleton _ first
          exact htext.symm ▸ List.suffix_rfl
      | cons second path =>
          rw [List.getLast?_cons_cons] at h
          rw [toText, Text.join_cons_cons]
          exact ((ih h).trans (List.suffix_append _ _)).trans (List.suffix_append _ _)

namespace Entry

/-! ### The files of a tree -/

mutual

/-- The names in each directory differ from each other and hold no slash. -/
def IsWellNamed : Entry → Prop
  | .file _ => True
  | .link _ => True
  | .directory entries => (entries.map Prod.fst).Nodup ∧ AreWellNamed entries

/-- The names of some entries hold no slash, and so on below them. -/
def AreWellNamed : List (Text × Entry) → Prop
  | [] => True
  | (name, e) :: entries => ('/' : CodePoint) ∉ name ∧ e.IsWellNamed ∧ AreWellNamed entries

end

mutual

/-- The path of a file below an entry goes on from that of the entry. -/
theorem path_of_mem_filesBelow (path : Path) :
    ∀ {e : Entry}, e.IsWellNamed → ∀ {f}, f ∈ filesBelow path e →
      ∃ rest, f.1 = path ++ rest ∧ ∀ name ∈ rest, ('/' : CodePoint) ∉ name
  | .file bytes, _, f, hf => by
    rw [filesBelow, List.mem_singleton] at hf
    exact ⟨[], by rw [hf, List.append_nil], by simp⟩
  | .link target, _, f, hf => by
    rw [filesBelow] at hf
    cases hf
  | .directory entries, he, f, hf => by
    rw [filesBelow] at hf
    rw [IsWellNamed] at he
    obtain ⟨name, -, rest, hpath, hslash⟩ := path_of_mem_filesAmong path he.2 hf
    exact ⟨name :: rest, hpath, hslash⟩

/-- The path of a file below some entries of a directory goes on with the name of one of them. -/
theorem path_of_mem_filesAmong (path : Path) :
    ∀ {entries : List (Text × Entry)}, AreWellNamed entries → ∀ {f}, f ∈ filesAmong path entries →
      ∃ name ∈ entries.map Prod.fst, ∃ rest, f.1 = path ++ name :: rest ∧
        ∀ n ∈ name :: rest, ('/' : CodePoint) ∉ n
  | [], _, f, hf => by
    rw [filesAmong] at hf
    cases hf
  | (name, e) :: entries, hentries, f, hf => by
    rw [filesAmong] at hf
    rw [AreWellNamed] at hentries
    obtain ⟨hname, he, hentries⟩ := hentries
    rcases List.mem_append.1 hf with hf | hf
    · split at hf
      · cases hf
      · obtain ⟨rest, hpath, hslash⟩ := path_of_mem_filesBelow (path ++ [name]) he hf
        refine ⟨name, List.mem_cons_self, rest, by rw [hpath, List.append_assoc]; rfl, ?_⟩
        rw [List.forall_mem_cons]
        exact ⟨hname, hslash⟩
    · obtain ⟨name', hmem, rest, hpath, hslash⟩ := path_of_mem_filesAmong path hentries hf
      exact ⟨name', List.mem_cons_of_mem _ hmem, rest, hpath, hslash⟩

end

mutual

theorem pairwise_filesBelow (path : Path) :
    ∀ {e : Entry}, e.IsWellNamed → (filesBelow path e).Pairwise fun f g => f.1 ≠ g.1
  | .file bytes, _ => by
    rw [filesBelow]
    exact List.pairwise_singleton _ _
  | .link target, _ => by
    rw [filesBelow]
    exact .nil
  | .directory entries, he => by
    rw [IsWellNamed] at he
    rw [filesBelow]
    exact pairwise_filesAmong path he.1 he.2

theorem pairwise_filesAmong (path : Path) :
    ∀ {entries : List (Text × Entry)}, (entries.map Prod.fst).Nodup → AreWellNamed entries →
      (filesAmong path entries).Pairwise fun f g => f.1 ≠ g.1
  | [], _, _ => by
    rw [filesAmong]
    exact .nil
  | (name, e) :: entries, hnames, hentries => by
    rw [List.map_cons, List.nodup_cons] at hnames
    rw [AreWellNamed] at hentries
    obtain ⟨-, he, hentries⟩ := hentries
    rw [filesAmong, List.pairwise_append]
    refine ⟨?_, pairwise_filesAmong path hnames.2 hentries, ?_⟩
    · split
      · exact .nil
      · exact pairwise_filesBelow (path ++ [name]) he
    · -- The two paths part at the name of the entry.
      intro f hf g hg hfg
      split at hf
      · cases hf
      · obtain ⟨rest, hpath, -⟩ := path_of_mem_filesBelow (path ++ [name]) he hf
        obtain ⟨name', hmem, rest', hpath', -⟩ := path_of_mem_filesAmong path hentries hg
        rw [hpath, hpath', List.append_assoc, List.append_cancel_left_eq] at hfg
        obtain ⟨rfl, -⟩ := List.cons.inj hfg
        exact hnames.1 hmem

end

/-- No two files of a tree have the same path, not even as texts. -/
theorem pairwise_sourceFiles {root : Entry} (h : root.IsWellNamed) :
    root.sourceFiles.Pairwise fun f g => f.1.toText ≠ g.1.toText := by
  cases root with
  | file bytes => exact .nil
  | link target => exact .nil
  | directory entries =>
      rw [IsWellNamed] at h
      refine (pairwise_filesAmong [] h.1 h.2).imp_of_mem ?_
      intro f g hf hg hfg
      obtain ⟨name, -, rest, hpath, hslash⟩ := path_of_mem_filesAmong [] h.2 hf
      obtain ⟨name', -, rest', hpath', hslash'⟩ := path_of_mem_filesAmong [] h.2 hg
      rw [List.nil_append] at hpath hpath'
      exact mt (Path.toText_injective (by simp [hpath]) (by simp [hpath']) (hpath ▸ hslash)
        (hpath' ▸ hslash')) hfg

end Entry

/-! ### The search -/

/-- Files whose paths differ are strictly sorted by their paths. -/
theorem pairwise_byPath {α : Type} {files : List (Path × α)}
    (h : files.Pairwise fun f g => f.1.toText ≠ g.1.toText) :
    (byPath files).Pairwise fun f g => f.1.toText.less g.1.toText :=
  pairwise_sortBy_of_comparable (Text.isStrict_less.comap fun f : Path × α => f.1.toText)
    (h.imp Text.less_or_less)

/-- **The source files of a project are strictly sorted** by their paths. -/
theorem pairwise_sourceFiles {s : Settings} {root : Entry} {files : List (Path × List UInt8)}
    (hnames : root.IsWellNamed) (h : sourceFiles s root = .ok files) :
    files.Pairwise fun f g => f.1.toText.less g.1.toText := by
  obtain ⟨f, -, h⟩ := bind_eq_ok_iff.1 h
  obtain ⟨found, hfound, h⟩ := bind_eq_ok_iff.1 h
  obtain rfl : byPath found = files := Except.ok.inj h
  rw [eq_filter_of_filterM hfound]
  exact pairwise_byPath ((Entry.pairwise_sourceFiles hnames).filter _)

/-! ### Files of the root -/

/-- A file of the root that is reached by no link is read where it is found. -/
theorem Entry.readFile?_of_not_link {root : Entry} {name : Text} (hempty : name ≠ [])
    (hdot : name ≠ ".") (hdots : name ≠ "..")
    (hlink : ∀ target, root.at? [name] ≠ some (.link target)) :
    root.readFile? [name] = (root.at? [name]).bind bytes? := by
  have hreal : root.realPath? [name] = some [name] := by
    -- As `hlink` says, no link is followed on the only step.
    rw [realPath?, realPathFrom?.eq_def]
    simp only [hempty, hdot, hdots, decide_false, Bool.or_self, Bool.false_eq_true, if_false,
      List.reverse_nil, List.nil_append]
    rw [realPathFrom?]
    rfl
  rw [readFile?, follow?, hreal, Option.bind_some]

/-- A file of the root that is missing is not read. -/
theorem Entry.readFile?_of_absent {root : Entry} {name : Text} (hempty : name ≠ [])
    (hdot : name ≠ ".") (hdots : name ≠ "..") (h : root.children.lookup name = none) :
    root.readFile? [name] = none := by
  have hat : root.at? [name] = none := by rw [at?, h, Option.bind_none]
  rw [readFile?_of_not_link hempty hdot hdots (by rw [hat]; nofun), hat, Option.bind_none]

/-- A project without a settings file has the standard settings. -/
theorem settingsOf_of_absent {root : Entry} (h : root.children.lookup settingsFile = none) :
    settingsOf root = .ok (.ok .standard) := by
  rw [settingsOf, Entry.readFile?_of_absent (by decide) (by decide) (by decide) h]
  rfl

/-- A project without a manifest declares no dependency. -/
theorem manifestDeclares_of_absent {root : Entry} (h : root.children.lookup manifestFile = none) :
    manifestDeclares root = false := by
  rw [manifestDeclares, Entry.readFile?_of_absent (by decide) (by decide) (by decide) h]
  rfl

end Project

end ComponentIndex
