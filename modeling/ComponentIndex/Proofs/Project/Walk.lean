/-
**Walking through a project.**

The entries of a project are found at their paths.  A walk that enters every directory meets each of
them once, and the walk that leaves out the directories that are skipped meets the files whose paths
pass through none of those.  Both depend on what is found at which path only, and so not on the order
in which directories list their entries.

Main definitions:

* `ComponentIndex.Project.Entry.walk` — all entries of a project with their paths;
* `ComponentIndex.Project.Entry.HasRealNames` — no name of a directory stands for another place;
* `ComponentIndex.Project.Entry.SameEntries` — the same entries at the same paths.

Main results:

* `ComponentIndex.Project.Entry.mem_walk_iff` — **the walk meets what is found at a path**;
* `ComponentIndex.Project.Entry.sourceFiles_eq_filterMap` — **leaving out directories** leaves out
  the files with paths through them;
* `ComponentIndex.Project.Entry.lookup?_of_at?` — an entry is looked up where it is found;
* `ComponentIndex.Project.Entry.SameEntries.sourceFiles_perm` — the files of a project do not depend
  on the order of its entries.
-/

import ComponentIndex.Project.Discovery
import ComponentIndex.Proofs.Project.Files
import Mathlib.Data.List.Nodup

set_option relaxedAutoImplicit false
set_option autoImplicit false

namespace ComponentIndex.Project

namespace Entry

/-! ### Entries at their paths -/

@[simp] theorem at?_nil (e : Entry) : e.at? [] = some e := rfl

theorem at?_cons (name : Text) (path : Path) (e : Entry) :
    e.at? (name :: path) = (e.children.lookup name).bind (at? path) := rfl

theorem at?_singleton (name : Text) (e : Entry) : e.at? [name] = e.children.lookup name := by
  rw [at?_cons]
  cases e.children.lookup name with
  | none => rfl
  | some d => rfl

theorem at?_append (p q : Path) (e : Entry) :
    e.at? (p ++ q) = (e.at? p).bind (at? q) := by
  induction p generalizing e with
  | nil => rfl
  | cons name p ih =>
      rw [List.cons_append, at?_cons, at?_cons]
      cases e.children.lookup name with
      | none => rfl
      | some d => exact ih d

/-- Only a directory has anything below it. -/
theorem isDirectory_of_at?_cons {name : Text} {path : Path} {e d : Entry}
    (h : e.at? (name :: path) = some d) : e.isDirectory = true := by
  cases e with
  | file bytes => simp [at?_cons, children] at h
  | link target => simp [at?_cons, children] at h
  | directory entries => rfl

/-- The entries on the way to a directory are directories. -/
theorem isDirectory_of_at?_append {p q : Path} {root d e : Entry}
    (h : root.at? (p ++ q) = some d) (hd : d.isDirectory = true) (hp : root.at? p = some e) :
    e.isDirectory = true := by
  rw [at?_append, hp, Option.bind_some] at h
  cases q with
  | nil =>
      rw [at?_nil, Option.some.injEq] at h
      rwa [h]
  | cons name q => exact isDirectory_of_at?_cons h

/-! ### The walk that enters every directory -/

mutual

/-- The entries below one that is reached by the given names. -/
def walkBelow (path : Path) : Entry → List (Path × Entry)
  | .file _ => []
  | .link _ => []
  | .directory entries => walkAmong path entries

/-- Some entries of the directory at a path, each with those below it. -/
def walkAmong (path : Path) : List (Text × Entry) → List (Path × Entry)
  | [] => []
  | (name, e) :: entries =>
    (path ++ [name], e) :: walkBelow (path ++ [name]) e ++ walkAmong path entries

end

/-- All entries of a project with their paths; links are not followed. -/
def walk (root : Entry) : List (Path × Entry) := walkBelow [] root

mutual

theorem mem_walkBelow_iff (path : Path) :
    ∀ {e : Entry}, e.IsWellNamed → ∀ {x : Path × Entry}, x ∈ walkBelow path e ↔
      ∃ name rest, x.1 = path ++ name :: rest ∧ e.at? (name :: rest) = some x.2
  | .file bytes, _, x => by
    rw [walkBelow]
    simp [at?_cons, children]
  | .link target, _, x => by
    rw [walkBelow]
    simp [at?_cons, children]
  | .directory entries, he, x => by
    rw [IsWellNamed] at he
    rw [walkBelow, mem_walkAmong_iff path he.2]
    refine exists_congr fun name => ⟨?_, ?_⟩
    · rintro ⟨e, rest, hmem, hpath, hat⟩
      refine ⟨rest, hpath, ?_⟩
      rw [at?_cons, children, (lookup_eq_some_iff_mem he.1).2 hmem, Option.bind_some, hat]
    · rintro ⟨rest, hpath, hat⟩
      rw [at?_cons, children] at hat
      obtain ⟨e, hlookup, hat⟩ := Option.bind_eq_some_iff.1 hat
      exact ⟨e, rest, (lookup_eq_some_iff_mem he.1).1 hlookup, hpath, hat⟩

theorem mem_walkAmong_iff (path : Path) :
    ∀ {entries : List (Text × Entry)}, AreWellNamed entries → ∀ {x : Path × Entry},
      x ∈ walkAmong path entries ↔
        ∃ name e rest, (name, e) ∈ entries ∧ x.1 = path ++ name :: rest ∧ e.at? rest = some x.2
  | [], _, x => by
    rw [walkAmong]
    simp
  | (name, e) :: entries, hentries, x => by
    rw [AreWellNamed] at hentries
    obtain ⟨-, he, hentries⟩ := hentries
    rw [walkAmong, List.cons_append, List.mem_cons, List.mem_append, mem_walkBelow_iff _ he,
      mem_walkAmong_iff path hentries]
    constructor
    · rintro (rfl | ⟨next, rest, hpath, hat⟩ | ⟨name', e', rest, hmem, hpath, hat⟩)
      · exact ⟨name, e, [], List.mem_cons_self, rfl, rfl⟩
      · refine ⟨name, e, next :: rest, List.mem_cons_self, ?_, hat⟩
        rw [hpath, List.append_assoc]
        rfl
      · exact ⟨name', e', rest, List.mem_cons_of_mem _ hmem, hpath, hat⟩
    · rintro ⟨name', e', rest, hmem, hpath, hat⟩
      rcases List.mem_cons.1 hmem with heq | hmem
      · obtain ⟨rfl, rfl⟩ := Prod.mk.inj heq
        cases rest with
        | nil =>
            rw [at?_nil, Option.some.injEq] at hat
            exact Or.inl (Prod.ext hpath hat.symm)
        | cons next rest =>
            refine Or.inr (Or.inl ⟨next, rest, ?_, hat⟩)
            rw [hpath, List.append_assoc]
            rfl
      · exact Or.inr (Or.inr ⟨name', e', rest, hmem, hpath, hat⟩)

end

/-- **The walk meets what is found at a path** below the root. -/
theorem mem_walk_iff {root : Entry} (h : root.IsWellNamed) {x : Path × Entry} :
    x ∈ root.walk ↔ x.1 ≠ [] ∧ root.at? x.1 = some x.2 := by
  rw [walk, mem_walkBelow_iff [] h]
  obtain ⟨path, e⟩ := x
  constructor
  · rintro ⟨name, rest, hpath, hat⟩
    rw [List.nil_append] at hpath
    subst hpath
    exact ⟨List.cons_ne_nil _ _, hat⟩
  · rintro ⟨hne, hat⟩
    obtain ⟨name, rest, rfl⟩ := List.exists_cons_of_ne_nil hne
    exact ⟨name, rest, rfl, hat⟩

/-! ### The walk that leaves out some directories -/

/-- What the walk that leaves out some directories keeps of an entry: a file whose path passes
through none of them. -/
def keptFile? : Path × Entry → Option (Path × List UInt8)
  | (path, .file bytes) => if passesSkipped path then none else some (path, bytes)
  | _ => none

mutual

/-- The paths of all entries below one go on from its own. -/
theorem prefix_of_mem_walkBelow (path : Path) :
    ∀ {e : Entry} {x : Path × Entry}, x ∈ walkBelow path e →
      ∃ name rest, x.1 = path ++ name :: rest
  | .file bytes, x, hx => by
    rw [walkBelow] at hx
    cases hx
  | .link target, x, hx => by
    rw [walkBelow] at hx
    cases hx
  | .directory entries, x, hx => by
    rw [walkBelow] at hx
    exact prefix_of_mem_walkAmong path hx

theorem prefix_of_mem_walkAmong (path : Path) :
    ∀ {entries : List (Text × Entry)} {x : Path × Entry}, x ∈ walkAmong path entries →
      ∃ name rest, x.1 = path ++ name :: rest
  | [], x, hx => by
    rw [walkAmong] at hx
    cases hx
  | (name, e) :: entries, x, hx => by
    rw [walkAmong, List.cons_append, List.mem_cons, List.mem_append] at hx
    rcases hx with rfl | hx | hx
    · exact ⟨name, [], rfl⟩
    · obtain ⟨next, rest, hpath⟩ := prefix_of_mem_walkBelow (path ++ [name]) hx
      refine ⟨name, next :: rest, ?_⟩
      rw [hpath, List.append_assoc]
      rfl
    · exact prefix_of_mem_walkAmong path hx

end

/-- Nothing is kept below a directory that is skipped. -/
theorem filterMap_keptFile?_of_skipped {path : Path} {name : Text}
    (hname : skippedDirectories.contains name = true) (e : Entry) :
    (walkBelow (path ++ [name]) e).filterMap keptFile? = [] := by
  rw [List.filterMap_eq_nil_iff]
  rintro ⟨p, d⟩ hx
  obtain ⟨next, rest, rfl⟩ := prefix_of_mem_walkBelow (path ++ [name]) hx
  have hpasses : passesSkipped ((path ++ [name]) ++ next :: rest) = true := by
    rw [passesSkipped, List.dropLast_append_of_ne_nil (List.cons_ne_nil _ _), List.any_append,
      List.any_append, List.any_cons, hname]
    simp
  cases d with
  | file bytes => rw [keptFile?, if_pos hpasses]
  | link target => rfl
  | directory entries => rfl

mutual

theorem filesBelow_eq_filterMap (path : Path)
    (hpath : path.any skippedDirectories.contains = false) :
    ∀ e : Entry, e.isDirectory = true →
      filesBelow path e = (walkBelow path e).filterMap keptFile?
  | .file bytes, he => by cases he
  | .link target, he => by cases he
  | .directory entries, _ => by
    rw [filesBelow, walkBelow, filesAmong_eq_filterMap path hpath entries]

theorem filesAmong_eq_filterMap (path : Path)
    (hpath : path.any skippedDirectories.contains = false) :
    ∀ entries : List (Text × Entry),
      filesAmong path entries = (walkAmong path entries).filterMap keptFile?
  | [] => by
    rw [filesAmong, walkAmong, List.filterMap_nil]
  | (name, e) :: entries => by
    rw [filesAmong, walkAmong, List.cons_append, List.filterMap_cons, List.filterMap_append,
      filesAmong_eq_filterMap path hpath entries]
    cases e with
    | file bytes =>
        -- The name of a file itself does not matter.
        have hkept : keptFile? (path ++ [name], .file bytes) = some (path ++ [name], bytes) := by
          rw [keptFile?, passesSkipped, List.dropLast_concat, hpath]
          rfl
        rw [hkept, filesBelow, walkBelow]
        rfl
    | link target =>
        rw [filesBelow, walkBelow]
        rfl
    | directory below =>
        have hkept : keptFile? (path ++ [name], .directory below) = none := rfl
        rw [hkept, isSkipped, isDirectory, Bool.true_and]
        cases hname : skippedDirectories.contains name with
        | true => rw [filterMap_keptFile?_of_skipped hname, if_pos rfl]
        | false =>
            have hpath' : (path ++ [name]).any skippedDirectories.contains = false := by
              rw [List.any_append, hpath, List.any_cons, hname]
              rfl
            rw [filesBelow_eq_filterMap (path ++ [name]) hpath' (.directory below) rfl]
            rfl

end

/-- **Leaving out directories** leaves out the files whose paths pass through them. -/
theorem sourceFiles_eq_filterMap (root : Entry) :
    root.sourceFiles = root.walk.filterMap keptFile? := by
  rw [sourceFiles, filesAmong_eq_filterMap [] rfl, walk]
  cases root with
  | file bytes => rfl
  | link target => rfl
  | directory entries => rw [walkBelow, children]

/-- The files of a project are those that are found at a path through no skipped directory. -/
theorem mem_sourceFiles_iff {root : Entry} (h : root.IsWellNamed) {f : Path × List UInt8} :
    f ∈ root.sourceFiles ↔
      f.1 ≠ [] ∧ root.at? f.1 = some (.file f.2) ∧ passesSkipped f.1 = false := by
  obtain ⟨path, bytes⟩ := f
  rw [sourceFiles_eq_filterMap, List.mem_filterMap]
  constructor
  · rintro ⟨⟨p, e⟩, hmem, hkept⟩
    obtain ⟨hne, hat⟩ := (mem_walk_iff h).1 hmem
    cases e with
    | file bytes' =>
        rw [keptFile?] at hkept
        split at hkept
        · cases hkept
        next hpasses =>
          obtain ⟨rfl, rfl⟩ := Prod.mk.inj (Option.some.inj hkept)
          exact ⟨hne, hat, Bool.eq_false_iff.2 hpasses⟩
    | link target => cases hkept
    | directory entries => cases hkept
  · rintro ⟨hne, hat, hpasses⟩
    refine ⟨(path, .file bytes), (mem_walk_iff h).2 ⟨hne, hat⟩, ?_⟩
    rw [keptFile?, hpasses]
    rfl

/-! ### Looking an entry up -/

/-- The names of directories that a path cannot tell from another place. -/
def placeNames : List Text := ["", ".", ".."]

/-- No name in a project is empty, or made of one or two dots alone. -/
def HasRealNames (root : Entry) : Prop := ∀ x ∈ root.walk, ∀ name ∈ x.1, name ∉ placeNames

instance (root : Entry) : Decidable root.HasRealNames :=
  inferInstanceAs (Decidable (∀ x ∈ root.walk, ∀ name ∈ x.1, name ∉ placeNames))

/-- A path through directories is its own path with all links followed. -/
theorem realPathFrom?_of_at? {root d : Entry} {links : Nat} {inside path : Path}
    (hnames : ∀ name ∈ path, name ∉ placeNames)
    (hat : root.at? (inside.reverse ++ path) = some d) (hd : d.isDirectory = true) :
    realPathFrom? root links inside path = some (inside.reverse ++ path) := by
  induction path generalizing inside with
  | nil => rw [realPathFrom?, List.append_nil]
  | cons name path ih =>
      rw [List.forall_mem_cons] at hnames
      obtain ⟨hname, hnames⟩ := hnames
      simp only [placeNames, List.mem_cons, List.not_mem_nil, or_false, not_or] at hname
      have hempty : name ≠ [] := hname.1
      have hreverse : (name :: inside).reverse ++ path = inside.reverse ++ name :: path := by simp
      have hnext : realPathFrom? root links (name :: inside) path =
          some (inside.reverse ++ name :: path) := by
        rw [ih hnames (by rw [hreverse]; exact hat), hreverse]
      -- The entry of that name is a directory, so no link is followed here.
      have hdirectory : ∀ e, root.at? (inside.reverse ++ [name]) = some e →
          e.isDirectory = true := by
        intro e he
        refine isDirectory_of_at?_append (q := path) ?_ hd he
        rwa [List.append_assoc, List.singleton_append]
      rw [realPathFrom?.eq_def]
      simp only [hempty, show name ≠ Text.ofString "." from hname.2.1,
        show name ≠ Text.ofString ".." from hname.2.2, decide_false, Bool.or_self,
        Bool.false_eq_true, if_false]
      cases he : root.at? (inside.reverse ++ [name]) with
      | none => exact hnext
      | some e =>
          cases e with
          | file bytes => exact hnext
          | link target => cases hdirectory _ he
          | directory entries => exact hnext

/-- An entry is looked up where it is found. -/
theorem lookup?_of_at? {root e : Entry} {path : Path} (hne : path ≠ [])
    (hnames : ∀ name ∈ path, name ∉ placeNames) (hat : root.at? path = some e) :
    root.lookup? path = some e := by
  obtain ⟨directories, name, rfl⟩ := (List.eq_nil_or_concat' path).resolve_left hne
  rw [at?_append] at hat
  obtain ⟨d, hd, hat⟩ := Option.bind_eq_some_iff.1 hat
  have hdirectory : d.isDirectory = true := isDirectory_of_at?_cons hat
  have hinside : root.at? (([] : Path).reverse ++ directories) = some d := hd
  have hreal : root.realPath? directories = some directories :=
    realPathFrom?_of_at? (fun n hn => hnames n (List.mem_append_left _ hn)) hinside hdirectory
  rw [at?_cons] at hat
  obtain ⟨e', hlookup, hat⟩ := Option.bind_eq_some_iff.1 hat
  rw [at?_nil, Option.some.injEq] at hat
  subst hat
  rw [lookup?, List.getLast?_concat, List.dropLast_concat, follow?, hreal, Option.bind_some, hd]
  exact hlookup

/-! ### Other orders of the entries -/

/-- What an entry is, without what is below it. -/
def outline : Entry → Entry
  | directory _ => directory []
  | e => e

/-- The same entries are found at the same paths: the two projects differ at most in the order in
which their directories list them. -/
def SameEntries (a b : Entry) : Prop := ∀ path, (a.at? path).map outline = (b.at? path).map outline

theorem SameEntries.symm {a b : Entry} (h : SameEntries a b) : SameEntries b a :=
  fun path => (h path).symm

theorem SameEntries.at?_file {a b : Entry} (h : SameEntries a b) {path : Path}
    {bytes : List UInt8} (hat : a.at? path = some (.file bytes)) :
    b.at? path = some (.file bytes) := by
  have hpath := h path
  rw [hat, Option.map_some, show outline (.file bytes) = .file bytes from rfl] at hpath
  obtain ⟨e, he, houtline⟩ := Option.map_eq_some_iff.1 hpath.symm
  rw [he]
  cases e with
  | file bytes' => exact congrArg some houtline
  | link target => cases houtline
  | directory entries => cases houtline

theorem nodup_sourceFiles {root : Entry} (h : root.IsWellNamed) : root.sourceFiles.Nodup :=
  (pairwise_sourceFiles h).imp fun hne heq => hne (by rw [heq])

/-- The files of a project do not depend on the order in which directories list their entries. -/
theorem SameEntries.sourceFiles_perm {a b : Entry} (h : SameEntries a b) (ha : a.IsWellNamed)
    (hb : b.IsWellNamed) : a.sourceFiles.Perm b.sourceFiles := by
  rw [List.perm_ext_iff_of_nodup (nodup_sourceFiles ha) (nodup_sourceFiles hb)]
  intro f
  rw [mem_sourceFiles_iff ha, mem_sourceFiles_iff hb]
  constructor
  · rintro ⟨hne, hat, hpasses⟩
    exact ⟨hne, h.at?_file hat, hpasses⟩
  · rintro ⟨hne, hat, hpasses⟩
    exact ⟨hne, h.symm.at?_file hat, hpasses⟩

/-- Entries in another order are the same entries. -/
theorem sameEntries_of_perm {entries entries' : List (Text × Entry)} (h : entries.Perm entries')
    (hnames : (entries.map Prod.fst).Nodup) :
    SameEntries (.directory entries) (.directory entries') := by
  intro path
  cases path with
  | nil => rfl
  | cons name path =>
      have hnames' : (entries'.map Prod.fst).Nodup := (h.map Prod.fst).nodup_iff.1 hnames
      have hlookup : entries.lookup name = entries'.lookup name := by
        refine Option.ext fun e => ?_
        rw [lookup_eq_some_iff_mem hnames, lookup_eq_some_iff_mem hnames', h.mem_iff]
      rw [at?_cons, at?_cons, children, children, hlookup]

end Entry

end ComponentIndex.Project
