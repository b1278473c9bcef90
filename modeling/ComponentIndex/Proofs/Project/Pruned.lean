/-
**Skipped directories do not interfere.**

A project holds directories of dependencies and of the products of a build, in which there may be
sources, rules files and manifests of their own.  None of them bears on what a command prints, logs or
fails with: two projects that are the same once everything below such directories is taken out have the
same outcome.  A command reads the settings file and the manifest at the root of a project and searches
its files; these three are the same in both.

Main definitions:

* `ComponentIndex.Project.Entry.pruned` — a project without what lies below skipped directories.

Main results:

* `ComponentIndex.Project.Entry.sourceFiles_pruned` — the files of a project without it;
* `ComponentIndex.Command.run_congr` — what the outcome of a command depends on;
* `ComponentIndex.Command.run_eq_of_pruned` — **skipped directories do not interfere**.
-/

import ComponentIndex.Command.Run
import ComponentIndex.Proofs.Project.Search

set_option relaxedAutoImplicit false
set_option autoImplicit false

namespace ComponentIndex

namespace Project

namespace Entry

/-! ### Taking out what is skipped -/

mutual

/-- An entry without what lies below skipped directories. -/
def pruned : Entry → Entry
  | .file bytes => .file bytes
  | .link target => .link target
  | .directory entries => .directory (prunedAll entries)

/-- The entries of a directory without what lies below skipped directories; these themselves stay. -/
def prunedAll : List (Text × Entry) → List (Text × Entry)
  | [] => []
  | (name, e) :: entries =>
    (name, if isSkipped name e then .directory [] else e.pruned) :: prunedAll entries

end

theorem isDirectory_pruned (e : Entry) : e.pruned.isDirectory = e.isDirectory := by
  cases e with
  | file bytes => rw [pruned]
  | link target => rw [pruned]
  | directory entries =>
      rw [pruned]
      rfl

theorem isSkipped_pruned (name : Text) (e : Entry) :
    isSkipped name e.pruned = isSkipped name e := by
  rw [isSkipped, isSkipped, isDirectory_pruned]

theorem children_pruned (e : Entry) : e.pruned.children = prunedAll e.children := by
  cases e with
  | file bytes => simp [pruned, prunedAll, children]
  | link target => simp [pruned, prunedAll, children]
  | directory entries => simp [pruned, children]

mutual

theorem filesBelow_pruned (path : Path) :
    ∀ e : Entry, filesBelow path e.pruned = filesBelow path e
  | .file bytes => by rw [pruned]
  | .link target => by rw [pruned]
  | .directory entries => by rw [pruned, filesBelow, filesBelow, filesAmong_prunedAll path entries]

theorem filesAmong_prunedAll (path : Path) :
    ∀ entries : List (Text × Entry), filesAmong path (prunedAll entries) = filesAmong path entries
  | [] => by rw [prunedAll]
  | (name, e) :: entries => by
    rw [prunedAll, filesAmong, filesAmong, filesAmong_prunedAll path entries]
    by_cases hskipped : isSkipped name e = true
    · have hempty : isSkipped name (.directory []) = true := by
        rw [isSkipped, Bool.and_eq_true] at hskipped
        rw [isSkipped, hskipped.2]
        rfl
      rw [if_pos hskipped, if_pos hskipped, if_pos hempty]
    · rw [if_neg hskipped, if_neg hskipped, isSkipped_pruned, if_neg hskipped,
        filesBelow_pruned (path ++ [name]) e]

end

/-- Taking out what lies below skipped directories takes away no source file. -/
theorem sourceFiles_pruned (root : Entry) : root.pruned.sourceFiles = root.sourceFiles := by
  rw [sourceFiles, sourceFiles, children_pruned, filesAmong_prunedAll]

theorem map_fst_prunedAll (entries : List (Text × Entry)) :
    (prunedAll entries).map Prod.fst = entries.map Prod.fst := by
  induction entries with
  | nil => rw [prunedAll]
  | cons entry entries ih =>
      obtain ⟨name, e⟩ := entry
      rw [prunedAll, List.map_cons, List.map_cons, ih]

mutual

theorem IsWellNamed.pruned : ∀ {e : Entry}, e.IsWellNamed → e.pruned.IsWellNamed
  | .file bytes, h => by rwa [Entry.pruned]
  | .link target, h => by rwa [Entry.pruned]
  | .directory entries, h => by
    rw [IsWellNamed] at h
    rw [Entry.pruned, IsWellNamed, map_fst_prunedAll]
    exact ⟨h.1, h.2.prunedAll⟩

theorem AreWellNamed.prunedAll :
    ∀ {entries : List (Text × Entry)}, AreWellNamed entries → AreWellNamed (prunedAll entries)
  | [], h => by rwa [Entry.prunedAll]
  | (name, e) :: entries, h => by
    rw [AreWellNamed] at h
    obtain ⟨hname, he, hentries⟩ := h
    rw [Entry.prunedAll, AreWellNamed]
    refine ⟨hname, ?_, hentries.prunedAll⟩
    split
    · rw [IsWellNamed, AreWellNamed]
      exact ⟨List.nodup_nil, trivial⟩
    · exact he.pruned

end

/-! ### Files at the root -/

theorem outline_pruned (e : Entry) : outline e.pruned = outline e := by
  cases e with
  | file bytes => rw [pruned]
  | link target => rw [pruned]
  | directory entries =>
      rw [pruned]
      rfl

/-- What stands at the root under a name is no other kind of entry than before. -/
theorem map_outline_lookup_prunedAll (name : Text) (entries : List (Text × Entry)) :
    ((prunedAll entries).lookup name).map outline = (entries.lookup name).map outline := by
  induction entries with
  | nil => rw [prunedAll]
  | cons entry entries ih =>
      obtain ⟨name', e⟩ := entry
      rw [prunedAll, List.lookup_cons, List.lookup_cons]
      cases name == name' with
      | false => exact ih
      | true =>
          dsimp only [Option.map_some]
          split
          next hskipped =>
            cases e with
            | file bytes => cases hskipped
            | link target => cases hskipped
            | directory entries => rfl
          · rw [outline_pruned]

theorem bytes?_outline (e : Entry) : (outline e).bytes? = e.bytes? := by
  cases e with
  | file bytes => rfl
  | link target => rfl
  | directory entries => rfl

section

variable {a b : Entry} (hsame : a.pruned.SameEntries b.pruned)

include hsame

theorem SameEntries.map_outline_root (name : Text) :
    (a.at? [name]).map outline = (b.at? [name]).map outline := by
  have h := hsame [name]
  rwa [at?_singleton, at?_singleton, children_pruned, children_pruned,
    map_outline_lookup_prunedAll, map_outline_lookup_prunedAll, ← at?_singleton,
    ← at?_singleton] at h

/-- A file at the root that is reached by no link is read alike in both projects. -/
theorem SameEntries.readFile?_root {name : Text} (hempty : name ≠ []) (hdot : name ≠ ".")
    (hdots : name ≠ "..") (hlink : ∀ target, a.at? [name] ≠ some (.link target)) :
    a.readFile? [name] = b.readFile? [name] := by
  have hbytes : ∀ e : Option Entry, e.bind bytes? = (e.map outline).bind bytes? := by
    intro e
    rw [Option.bind_map]
    exact Option.bind_congr fun e _ => (bytes?_outline e).symm
  have houtline := hsame.map_outline_root name
  have hlink' : ∀ target, b.at? [name] ≠ some (.link target) := by
    intro target hb
    rw [hb] at houtline
    obtain ⟨e, he, hlinked⟩ := Option.map_eq_some_iff.1 houtline
    cases e with
    | file bytes => cases hlinked
    | link target' => exact hlink target' he
    | directory entries => cases hlinked
  rw [readFile?_of_not_link hempty hdot hdots hlink, readFile?_of_not_link hempty hdot hdots hlink',
    hbytes, houtline, ← hbytes]

end

end Entry

/-- A search has the same outcome in projects that are the same without what is skipped. -/
theorem Search.run_pruned (s : Search) (root : Entry) : s.run root.pruned = s.run root := by
  rw [run, run, filterIn, filterIn, matchers, matchers, rulesFiles, rulesFiles,
    Entry.sourceFiles_pruned]

end Project

/-! ### The outcome of a command -/

namespace Command

open Project

/-- The outcome of a command depends on the settings file, on the manifest and on what searches find in
the project. -/
theorem run_congr [Parsers] {a b : Entry}
    (hsettings : a.readFile? [settingsFile] = b.readFile? [settingsFile])
    (hmanifest : a.readFile? [manifestFile] = b.readFile? [manifestFile])
    (hsearch : ∀ s : Search, s.run a = s.run b) (name : Text) (verbose : Bool) (c : Command) :
    c.run ⟨name, a⟩ verbose = c.run ⟨name, b⟩ verbose := by
  have hfiles : ∀ s, sourceFiles s a = sourceFiles s b := fun s => hsearch _
  have hcomponents : ∀ s, componentFiles s a = componentFiles s b := fun s => by
    rw [componentFiles, componentFiles, hfiles]
  have hactive : ∀ s, isActive s a = isActive s b := fun s => by
    rw [isActive, isActive, manifestDeclares, manifestDeclares, hmanifest, hasComponents,
      hasComponents, hsearch]
  have hloops : ∀ x s active, scanLoops x s active a = scanLoops x s active b := fun x s active => by
    rw [scanLoops, scanLoops, hcomponents]
  have hrecords : ∀ x s, c.records x s a = c.records x s b := fun x s => by
    cases c with
    | scan => rw [records, records, Project.scan, Project.scan, hfiles]
    | stubs => rw [records, records, Project.scan, Project.scan, hfiles]
    | loops => simp only [records, hactive, hloops]
  have hnotices : ∀ x s, c.notices x s ⟨name, a⟩ = c.notices x s ⟨name, b⟩ := fun x s => by
    cases c with
    | scan => rw [notices, notices, hfiles]
    | stubs => rw [notices, notices, hfiles]
    | loops =>
        rw [notices, notices, hactive, hcomponents, Notice.ofManifest, Notice.ofManifest, hmanifest]
  have hrun : ∀ s, c.runWith s ⟨name, a⟩ verbose = c.runWith s ⟨name, b⟩ verbose := fun s => by
    rw [runWith, runWith, hrecords, hnotices]
  rw [run, run, settingsOf, settingsOf, hsettings]
  simp only [hrun]
  rfl

/-- **Skipped directories do not interfere**: two projects that are the same once everything below
directories that are skipped is taken out have the same outcome, whatever is asked for, if their
settings file and their manifest are no links. -/
theorem run_eq_of_pruned [Parsers] {a b : Entry} (ha : a.IsWellNamed) (hb : b.IsWellNamed)
    (hsame : a.pruned.SameEntries b.pruned)
    (hsettings : ∀ target, a.at? [settingsFile] ≠ some (.link target))
    (hmanifest : ∀ target, a.at? [manifestFile] ≠ some (.link target))
    (name : Text) (verbose : Bool) (c : Command) :
    c.run ⟨name, a⟩ verbose = c.run ⟨name, b⟩ verbose := by
  have hsearch : ∀ s : Search, s.run a = s.run b := by
    intro s
    rw [← s.run_pruned a, ← s.run_pruned b]
    exact (Search.run_eq_of_sameEntries ha.pruned hb.pruned hsame).symm
  exact run_congr (hsame.readFile?_root (by decide) (by decide) (by decide) hsettings)
    (hsame.readFile?_root (by decide) (by decide) (by decide) hmanifest) hsearch name verbose c

/-- The entries of a project that lets the rules of all directories count, with a directory of
dependencies in one of its directories. There are a component, a manifest that declares the framework,
and a rules file that is no text. -/
def crowdedEntries : List (Text × Entry) :=
  [("vueindex.toml", .file "nested_gitignore = true\n".toUTF8.toList),
    ("a.js", .file "new Vue(\x7bel: 'x'\x7d)".toUTF8.toList),
    ("lib", .directory
      [("node_modules", .directory
        [(".gitignore", .file [0xFF]), ("b.vue", .file []),
          ("package.json",
            .file "\x7b\"dependencies\": \x7b\"vue\": \"3\"\x7d\x7d".toUTF8.toList)])])]

/-- The entries of that project in another order, without those dependencies. -/
def sparseEntries : List (Text × Entry) :=
  [("lib", .directory [("node_modules", .directory [])]),
    ("a.js", .file "new Vue(\x7bel: 'x'\x7d)".toUTF8.toList),
    ("vueindex.toml", .file "nested_gitignore = true\n".toUTF8.toList)]

theorem settingsOf_sparseEntries :
    settingsOf (.directory sparseEntries) = .ok (.ok { nestedIgnore := true }) := by
  have hat : (Entry.directory sparseEntries).at? [settingsFile] =
      some (.file "nested_gitignore = true\n".toUTF8.toList) := rfl
  have hread : (match Settings.ofBytes "nested_gitignore = true\n".toUTF8.toList with
      | .ok (.ok s) => decide (s = { nestedIgnore := true })
      | _ => false) = true := by decide +kernel
  rw [settingsOf, Entry.readFile?_of_not_link (by decide) (by decide) (by decide)
    (by rw [hat]; rintro target ⟨⟩), hat]
  change Settings.ofBytes "nested_gitignore = true\n".toUTF8.toList = _
  split at hread
  next heq =>
    rw [heq, of_decide_eq_true hread]
  · cases hread

theorem run_eq_of_pruned_crowded :
    (Entry.directory crowdedEntries).IsWellNamed ∧ (Entry.directory sparseEntries).IsWellNamed ∧
      (Entry.directory crowdedEntries).pruned.SameEntries (Entry.directory sparseEntries).pruned ∧
      loops.run ⟨"p", .directory crowdedEntries⟩ true =
        loops.run ⟨"p", .directory sparseEntries⟩ true ∧
      scan.run ⟨"p", .directory crowdedEntries⟩ false =
        .ok ⟨0, [Json.write (Occurrence.record ⟨"a.js", "vue.options", "x", 1, 10⟩)], []⟩ := by
  have hcrowded : (Entry.directory crowdedEntries).IsWellNamed := by
    simp [crowdedEntries, Entry.IsWellNamed, Entry.AreWellNamed]
    decide
  have hsparse : (Entry.directory sparseEntries).IsWellNamed := by
    simp [sparseEntries, Entry.IsWellNamed, Entry.AreWellNamed]
    decide
  have hreverse : Entry.prunedAll crowdedEntries = (Entry.prunedAll sparseEntries).reverse := rfl
  have hsame : (Entry.directory crowdedEntries).pruned.SameEntries
      (Entry.directory sparseEntries).pruned :=
    Entry.sameEntries_of_perm (hreverse ▸ List.reverse_perm _) (by decide)
  have hrun := run_eq_of_pruned hcrowded hsparse hsame nofun nofun "p"
  refine ⟨hcrowded, hsparse, hsame, hrun true loops, ?_⟩
  rw [hrun false scan, run, settingsOf_sparseEntries]
  decide +kernel

end Command

end ComponentIndex
