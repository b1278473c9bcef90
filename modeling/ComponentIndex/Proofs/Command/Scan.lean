/-
**The output of a scan.**

The files of a project are strictly sorted by their paths, and the occurrences of each file by their
positions, so that what a scan prints is strictly sorted by both.  It does not matter which trees the
parsers have for the files, if only these are laid out in their sources.

Main definitions:

* `ComponentIndex.Occurrence.Precedes` — the order of occurrences by path and position.

Main results:

* `ComponentIndex.Command.pairwise_occurrences` — the occurrences of some files in order;
* `ComponentIndex.Command.run_scan` — **what a scan prints is strictly sorted**.
-/

import ComponentIndex.Command.Run
import ComponentIndex.Proofs.Index.Occurrence
import ComponentIndex.Proofs.Project.Files
import Mathlib.Data.List.Perm.Basic

set_option relaxedAutoImplicit false
set_option autoImplicit false

namespace ComponentIndex

/-- The order of occurrences by path, the code points of which are compared, and then by
position. -/
def Occurrence.Precedes (a b : Occurrence) : Prop :=
  a.path.less b.path = true ∨ a.path = b.path ∧ a.position.Before b.position

/-! ### The indexes of a project -/

namespace Project

/-- The indexes of a project are those of its source files, strictly sorted by their paths. -/
theorem pairwise_scan [Parsers] {s : Settings} {root : Entry} {indexes : List FileIndex}
    (hnames : root.IsWellNamed) (h : scan .standard s root = .ok indexes) :
    (∀ i ∈ indexes, i = FileIndex.ofFile .standard i.file) ∧
      indexes.Pairwise fun i j => i.file.path.less j.file.path := by
  obtain ⟨files, hfiles, h⟩ := bind_eq_ok_iff.1 h
  obtain rfl := Except.ok.inj h
  constructor
  · rw [List.forall_mem_map]
    intro f _
    rfl
  · rw [List.pairwise_map]
    refine (pairwise_sourceFiles hnames hfiles).imp fun {f g} hfg => ?_
    have hpath : ∀ f : Path × List UInt8,
        (FileIndex.ofFile .standard (loadedFile s.componentExtensions f.1.toText f.2)).file.path =
          f.1.toText := fun f => SourceFile.path_ofBytes f.1.toText f.2 _
    rw [hpath, hpath]
    exact hfg

end Project

namespace Command

/-- The occurrences of files that are laid out and sorted by their paths are strictly sorted. -/
theorem pairwise_occurrences {indexes : List FileIndex}
    (hindexes : ∀ i ∈ indexes, i = FileIndex.ofFile .standard i.file)
    (hpaths : indexes.Pairwise fun i j => i.file.path.less j.file.path)
    (hlayout : ∀ i ∈ indexes, i.file.IsLaidOut) :
    (occurrences indexes).Pairwise Occurrence.Precedes := by
  have hpath : ∀ i ∈ indexes, ∀ o ∈ i.sortedOccurrences, o.path = i.file.path := by
    intro i hi o ho
    rw [hindexes i hi] at ho
    exact FileIndex.path_of_mem_sortedOccurrences ho
  -- Within a file the positions decide, between files the paths.
  rw [occurrences, List.pairwise_flatMap]
  constructor
  · intro i hi
    have hsorted := FileIndex.pairwise_sortedOccurrences (hlayout i hi)
    rw [← hindexes i hi] at hsorted
    refine hsorted.imp_of_mem fun ha hb hab => Or.inr ⟨?_, hab⟩
    rw [hpath i hi _ ha, hpath i hi _ hb]
  · refine hpaths.imp_of_mem ?_
    intro i j hi hj hij a ha b hb
    rw [Occurrence.Precedes, hpath i hi a ha, hpath j hj b hb]
    exact Or.inl hij

theorem occurrences_perm (indexes : List FileIndex) :
    (occurrences indexes).Perm (indexes.flatMap FileIndex.occurrences) :=
  List.Perm.flatMap_left _ fun _ _ => sortBy_perm _

/-! ### The run of a scan -/

/-- A command that completes with some settings prints the lines of its records; what it logs has no
part in that. -/
theorem printed_of_runWith [Parsers] {s : Settings} {site : Site} {verbose : Bool} {c : Command}
    {outcome : Outcome} (h : c.runWith s site verbose = .ok outcome) :
    ∃ records, c.records .standard s site.entry = .ok records ∧
      lines records = .ok outcome.printed := by
  cases verbose with
  | false =>
      obtain ⟨records, hrecords, h⟩ := bind_eq_ok_iff.1 h
      obtain ⟨printed, hprinted, h⟩ := bind_eq_ok_iff.1 h
      obtain rfl := Except.ok.inj h
      exact ⟨records, hrecords, hprinted⟩
  | true =>
      obtain ⟨records, hrecords, h⟩ := bind_eq_ok_iff.1 h
      obtain ⟨printed, hprinted, h⟩ := bind_eq_ok_iff.1 h
      obtain ⟨logged, -, h⟩ := bind_eq_ok_iff.1 h
      obtain rfl := Except.ok.inj h
      exact ⟨records, hrecords, hprinted⟩

theorem run_eq_runWith [Parsers] {s : Settings} {site : Site}
    (hsettings : Project.settingsOf site.entry = .ok (.ok s)) (verbose : Bool) (c : Command) :
    run site verbose c = c.runWith s site verbose := by
  rw [run, hsettings]
  rfl

/-- **What a scan prints is strictly sorted**: a scan that completes prints all occurrences of the
files of the project, strictly ascending by path and position. -/
theorem run_scan [Parsers] {s : Settings} {site : Site} {verbose : Bool} {outcome : Outcome}
    (hnames : site.entry.IsWellNamed)
    (hlayout : ∀ indexes, Project.scan .standard s site.entry = .ok indexes →
      ∀ i ∈ indexes, i.file.IsLaidOut)
    (hsettings : Project.settingsOf site.entry = .ok (.ok s))
    (hrun : run site verbose scan = .ok outcome) :
    ∃ (indexes : List FileIndex) (printed : List Occurrence),
      Project.scan .standard s site.entry = .ok indexes ∧
      printed.Perm (indexes.flatMap FileIndex.occurrences) ∧
      lines (printed.map Occurrence.record) = .ok outcome.printed ∧
      printed.Pairwise Occurrence.Precedes := by
  rw [run_eq_runWith hsettings] at hrun
  obtain ⟨records, hrecords, hprinted⟩ := printed_of_runWith hrun
  obtain ⟨indexes, hindexes, hrecords⟩ := bind_eq_ok_iff.1 hrecords
  obtain rfl := Except.ok.inj hrecords
  obtain ⟨hfiles, hpaths⟩ := Project.pairwise_scan hnames hindexes
  exact ⟨indexes, occurrences indexes, hindexes, occurrences_perm indexes, hprinted,
    pairwise_occurrences hfiles hpaths (hlayout indexes hindexes)⟩

/-- A project with a script and a component. In the script an instance is made in front of the first
property of the literal that registers a component. -/
def twoFiles : Site where
  name := "p"
  entry := .directory
    [("b.js", .file "Vue.component('b', \x7b...new Vue(\x7bel: 'x'\x7d), a: 1\x7d)".toUTF8.toList),
      ("a.vue", .file "<script>\nexport default \x7ba: 1\x7d\n</script>".toUTF8.toList)]

/-- What a scan of that project prints. -/
def twoFilesOutcome : Outcome where
  exitCode := 0
  printed := ([⟨"a.vue", "vue.components", "a", 2, 17⟩, ⟨"b.js", "vue.options", "x", 1, 33⟩,
    ⟨"b.js", "vue.components", "b", 1, 44⟩] : List Occurrence).map fun o => Json.write o.record
  logged := []

theorem run_scan_twoFiles :
    run twoFiles false scan = .ok twoFilesOutcome ∧
      ∃ (indexes : List FileIndex) (printed : List Occurrence),
        Project.scan .standard .standard twoFiles.entry = .ok indexes ∧
        printed.Perm (indexes.flatMap FileIndex.occurrences) ∧
        lines (printed.map Occurrence.record) = .ok twoFilesOutcome.printed ∧
        printed.Pairwise Occurrence.Precedes := by
  have hnames : twoFiles.entry.IsWellNamed := by
    simp [twoFiles, Project.Entry.IsWellNamed, Project.Entry.AreWellNamed]
    decide
  have hall : (match Project.scan .standard .standard twoFiles.entry with
      | .ok indexes => indexes.all fun i => decide i.file.IsLaidOut
      | .error _ => false) = true := by decide +kernel
  have hlayout : ∀ indexes, Project.scan .standard .standard twoFiles.entry = .ok indexes →
      ∀ i ∈ indexes, i.file.IsLaidOut := by
    intro indexes hindexes i hi
    rw [hindexes] at hall
    exact of_decide_eq_true (List.all_eq_true.1 hall i hi)
  have hsettings : Project.settingsOf twoFiles.entry = .ok (.ok .standard) :=
    Project.settingsOf_of_absent rfl
  have hrun : run twoFiles false scan = .ok twoFilesOutcome := by
    rw [run_eq_runWith hsettings]
    decide +kernel
  exact ⟨hrun, run_scan hnames hlayout hsettings hrun⟩

end Command

end ComponentIndex
