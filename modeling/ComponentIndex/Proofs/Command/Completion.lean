/-
**When a command completes.**

In a project without a settings file, a command has two ways to fail.  The rules file of the root can be
one that is not made out, or the rules one that do not answer; and a record that is to be printed can hold
a surrogate.  An escape brings a surrogate into the name of a descriptor, and only a path holds one beside
that: everything else in a record is cut out of a source, which is UTF-8.  Whatever else the files of a
project hold, its commands complete, and print one line for each record.  This is so with all parsers whose
trees stay within their sources, so it does not matter what becomes of a source that is not well-formed.

Recursion is taken to have no limit.  With one, a command could fail on a dotted name of very many parts
as well.

Main definitions:

* `ComponentIndex.Command.recordsOf` — the records of one file;
* `ComponentIndex.Command.IsPrintable` — no surrogate is in their way;
* `ComponentIndex.Command.Reports` — a command has printed the records of the files of a project.

Main results:

* `ComponentIndex.Command.records_eq` — the records of a project are those of its files;
* `ComponentIndex.Command.isScalar_write_iff` — the files whose records can be written;
* `ComponentIndex.Command.run_completes` — **when a command completes**, and what it prints;
* `ComponentIndex.Command.run_fails` — a project in which one fails.
-/

import ComponentIndex.Proofs.Command.Refusal
import ComponentIndex.Proofs.Json.Writer
import ComponentIndex.Proofs.Loop.Names
import ComponentIndex.Proofs.Project.Completion
import ComponentIndex.Proofs.Script.Faithful

set_option relaxedAutoImplicit false
set_option autoImplicit false

namespace ComponentIndex

/-! ### The texts of records -/

theorem Registry.isScalar_of_lookup?_standard {key index : Text}
    (h : standard.lookup? key = some index) : index.isScalar = true := by
  have hentries : standard.entries = [(Descriptor.Key.components.label, componentsIndex),
      (Descriptor.Key.options.label, optionsIndex)] := rfl
  rw [lookup?, hentries, List.lookup_cons, List.lookup_cons, List.lookup_nil] at h
  split at h
  · obtain rfl := Option.some.inj h
    exact Text.isScalar_ofString _
  split at h
  · obtain rfl := Option.some.inj h
    exact Text.isScalar_ofString _
  · cases h

/-- The tree of a file is that of a source. -/
theorem SourceFile.exists_tree_ofBytes [p : Parsers] (path : Text) (bytes : List UInt8)
    (type : FileType) : ∃ source, (ofBytes path bytes type).tree = p.script source := by
  cases type with
  | script => exact ⟨bytes, rfl⟩
  | component =>
      rw [ofBytes]
      cases Markup.findScript? bytes with
      | none => exact ⟨[], rfl⟩
      | some block => exact ⟨block.source, rfl⟩

namespace FileIndex

/-- No surrogate occurs in the index of an occurrence. -/
theorem isScalar_index_of_mem_occurrences {file : SourceFile} {o : Occurrence}
    (h : o ∈ (ofFile .standard file).occurrences) : o.index.isScalar = true := by
  obtain ⟨e, -, ho⟩ := List.mem_filterMap.1 h
  obtain ⟨_, hp, rfl⟩ := Option.map_eq_some_iff.1 ho
  obtain ⟨handler, hhandler, hknown⟩ := List.exists_of_findSome?_eq_some hp
  obtain rfl := List.mem_singleton.1 hhandler
  obtain ⟨index, hindex, rfl⟩ := Option.map_eq_some_iff.1 hknown
  exact Registry.isScalar_of_lookup?_standard hindex

/-- No surrogate occurs in a literal that a stub keeps. -/
theorem isScalar_text_of_mem_stubs [p : Parsers] (hp : p.StayWithin) {path : Text}
    {bytes : List UInt8} {type : FileType} {s : StubLiteral}
    (h : s ∈ (ofFile .standard (.ofBytes path bytes type)).stubs) : s.text.isScalar = true := by
  obtain ⟨literal, hmem, rfl⟩ := List.mem_map.1 h
  obtain ⟨source, htree⟩ := SourceFile.exists_tree_ofBytes path bytes type
  have hin := (Script.Cursor.isIn_of_mem_literals (List.mem_filter.1 hmem).1).1
  rw [htree] at hin
  exact (hin.startsWithin (hp.script source)).isScalar_text

end FileIndex

namespace Command

open Project

/-! ### The records of one file -/

/-- The index of a file of a project with the standard settings. -/
def indexOf [Parsers] (file : Path × List UInt8) : FileIndex :=
  .ofFile .standard (loadedFile defaultComponentExtensions file.1.toText file.2)

/-- The records that a command prints for one file, with the standard settings. -/
def recordsOf [Parsers] (file : Path × List UInt8) : Command → List Data
  | scan => (indexOf file).sortedOccurrences.map Occurrence.record
  | stubs => (indexOf file).stubs.map StubLiteral.record
  | loops =>
    if defaultComponentExtensions.contains (extensionOf file.1).lower then
      (loopTypes .standard file.1.toText file.2 true).map LoopType.record
    else []

/-- No surrogate is in the way of the records of a file: neither one of its path, if there are records,
nor one of the name of a descriptor, if these are printed. -/
structure IsPrintable [Parsers] (file : Path × List UInt8) (c : Command) : Prop where
  /-- The path. -/
  path : c.recordsOf file ≠ [] → file.1.toText.isScalar = true
  /-- The names of descriptors. -/
  names : c = scan → ∀ o ∈ (indexOf file).occurrences, o.name.isScalar = true

theorem isScalar_write_scan_iff [Parsers] (file : Path × List UInt8) :
    (∀ r ∈ scan.recordsOf file, (Json.write r).isScalar = true) ↔ scan.IsPrintable file := by
  have hmem : ∀ o, o ∈ (indexOf file).sortedOccurrences ↔ o ∈ (indexOf file).occurrences :=
    fun _ => (sortBy_perm _).mem_iff
  have hwritten : ∀ o ∈ (indexOf file).sortedOccurrences,
      ((Json.write o.record).isScalar = true ↔
        file.1.toText.isScalar = true ∧ o.name.isScalar = true) := by
    intro o ho
    have hindex := FileIndex.isScalar_index_of_mem_occurrences ((hmem o).1 ho)
    rw [o.isScalar_write_record, FileIndex.path_of_mem_sortedOccurrences ho, loadedFile,
      SourceFile.path_ofBytes]
    simp only [hindex, true_and]
  rw [recordsOf, List.forall_mem_map]
  constructor
  · intro h
    refine ⟨fun hne => ?_, fun _ o ho => ?_⟩
    · obtain ⟨o, ho⟩ := List.exists_mem_of_ne_nil _ fun hnil => hne (List.map_eq_nil_iff.2 hnil)
      exact ((hwritten o ho).1 (h o ho)).1
    · have ho := (hmem o).2 ho
      exact ((hwritten o ho).1 (h o ho)).2
  · rintro ⟨hpath, hnames⟩ o ho
    have hscalar := hpath (List.ne_nil_of_mem (List.mem_map_of_mem ho))
    exact (hwritten o ho).2 ⟨hscalar, hnames rfl o ((hmem o).1 ho)⟩

/-- Where the records of a file hold a surrogate only if its path does. -/
theorem isScalar_write_iff_of_path [Parsers] {file : Path × List UInt8} {c : Command} (hc : c ≠ scan)
    (hwritten : ∀ r ∈ c.recordsOf file,
      ((Json.write r).isScalar = true ↔ file.1.toText.isScalar = true)) :
    (∀ r ∈ c.recordsOf file, (Json.write r).isScalar = true) ↔ c.IsPrintable file := by
  constructor
  · intro h
    refine ⟨fun hne => ?_, fun hscan => absurd hscan hc⟩
    obtain ⟨r, hr⟩ := List.exists_mem_of_ne_nil _ hne
    exact (hwritten r hr).1 (h r hr)
  · rintro ⟨hpath, -⟩ r hr
    exact (hwritten r hr).2 (hpath (List.ne_nil_of_mem hr))

section

variable [p : Parsers] (hp : p.StayWithin)

include hp

theorem isScalar_write_stub {file : Path × List UInt8} {s : StubLiteral}
    (h : s ∈ (indexOf file).stubs) :
    (Json.write s.record).isScalar = true ↔ file.1.toText.isScalar = true := by
  have htext : s.text.isScalar = true := FileIndex.isScalar_text_of_mem_stubs hp h
  obtain ⟨literal, -, rfl⟩ := List.mem_map.1 h
  rw [StubLiteral.isScalar_write_record, and_iff_left htext, StubLiteral.ofLiteral, loadedFile,
    SourceFile.path_ofBytes]

theorem isScalar_write_loop {path : Text} {bytes : List UInt8} {l : LoopType}
    (h : l ∈ loopTypes .standard path bytes true) :
    (Json.write l.record).isScalar = true ↔ path.isScalar = true := by
  obtain ⟨rfl, hexpression, hname, htype⟩ := LoopType.isSpelledIn_of_mem_loopTypes hp h
  rw [l.isScalar_write_record, and_iff_left ⟨hexpression, hname, htype⟩]

/-- **The files whose records can be written.** -/
theorem isScalar_write_iff (file : Path × List UInt8) (c : Command) :
    (∀ r ∈ c.recordsOf file, (Json.write r).isScalar = true) ↔ c.IsPrintable file := by
  cases c with
  | scan => exact isScalar_write_scan_iff file
  | stubs =>
      refine isScalar_write_iff_of_path nofun ?_
      rw [recordsOf, List.forall_mem_map]
      exact fun s hs => isScalar_write_stub hp hs
  | loops =>
      refine isScalar_write_iff_of_path nofun ?_
      rw [recordsOf]
      split
      · rw [List.forall_mem_map]
        exact fun l hl => isScalar_write_loop hp hl
      · exact nofun

end

/-- Each record is written on one line. -/
theorem isOneLine_write_of_mem [Parsers] {file : Path × List UInt8} {c : Command} {r : Data}
    (h : r ∈ c.recordsOf file) : (Json.write r).IsOneLine := by
  cases c with
  | scan =>
      obtain ⟨o, -, rfl⟩ := List.mem_map.1 h
      exact o.isOneLine_write_record
  | stubs =>
      obtain ⟨s, -, rfl⟩ := List.mem_map.1 h
      exact s.isOneLine_write_record
  | loops =>
      rw [recordsOf] at h
      split at h
      · obtain ⟨l, -, rfl⟩ := List.mem_map.1 h
        exact l.isOneLine_write_record
      · cases h

theorem lines_eq (records : List Data) :
    lines records = records.mapM fun r =>
      if (Json.write r).isScalar then .ok (Json.write r) else .error .unwritable := by
  rw [lines]
  congr
  funext r
  rw [Json.write?]
  cases (Json.write r).isScalar with
  | true => rfl
  | false => rfl

/-- Records are written one a line if no surrogate occurs in any of them. -/
theorem lines_eq_ok_iff {records : List Data} {ls : List Text} :
    lines records = .ok ls ↔
      (∀ r ∈ records, (Json.write r).isScalar = true) ∧ ls = records.map Json.write := by
  have hlines (h : ∀ r ∈ records, (Json.write r).isScalar = true) :
      lines records = .ok (records.map Json.write) := by
    rw [lines_eq, mapM_eq_ok_iff, List.map_map]
    exact List.map_congr_left fun r hr => if_pos (h r hr)
  constructor
  · intro h
    have hall : ∀ r ∈ records, (Json.write r).isScalar = true := by
      intro r hr
      rw [lines_eq] at h
      obtain ⟨line, -, hline⟩ := exists_of_mapM h hr
      split at hline
      · assumption
      · cases hline
    rw [hlines hall] at h
    exact ⟨hall, (Except.ok.inj h).symm⟩
  · rintro ⟨hall, rfl⟩
    exact hlines hall

theorem eq_unwritable_of_lines {records : List Data} {e : Failure}
    (h : lines records = .error e) : e = .unwritable := by
  rw [lines_eq] at h
  obtain ⟨r, -, hr⟩ := exists_of_mapM_error h
  split at hr
  · cases hr
  · exact (Except.error.inj hr).symm

/-! ### The records of a project -/

variable {root : Entry} {files : List (Path × List UInt8)}

theorem componentFiles_eq (h : sourceFiles .standard root = .ok files) :
    componentFiles .standard root = .ok (files.filter fun file =>
      defaultComponentExtensions.contains (extensionOf file.1).lower) := by
  rw [componentFiles, h]
  rfl

/-- The detection does not fail if the source files are found. -/
theorem exists_isActive (h : sourceFiles .standard root = .ok files) :
    ∃ active, isActive .standard root = .ok active := by
  cases hactive : isActive .standard root with
  | ok active => exact ⟨active, rfl⟩
  | error e =>
      rcases exists_error_of_isActive (s := .standard) hactive with ⟨e', he'⟩ | ⟨hnested, -⟩
      · rw [componentFiles_eq h] at he'
        cases he'
      · cases hnested

/-- The records of a project are those of its files, in order. -/
theorem records_eq [Parsers] (h : sourceFiles .standard root = .ok files) (c : Command) :
    c.records .standard .standard root = .ok (files.flatMap fun file => c.recordsOf file) := by
  cases c with
  | scan =>
      rw [records, Project.scan, h]
      change Except.ok ((occurrences (files.map indexOf)).map Occurrence.record) = _
      rw [occurrences, List.flatMap_map, List.map_flatMap]
      rfl
  | stubs =>
      rw [records, Project.scan, h]
      change Except.ok ((stubLiterals (files.map indexOf)).map StubLiteral.record) = _
      rw [stubLiterals, List.flatMap_map, List.map_flatMap]
      rfl
  | loops =>
      obtain ⟨active, hactive⟩ := exists_isActive h
      have hcomps := componentFiles_eq h
      have hrecords : loops.records .standard .standard root = .ok
          ((files.filter fun file =>
            defaultComponentExtensions.contains (extensionOf file.1).lower).flatMap fun file =>
              (loopTypes .standard file.1.toText file.2 active).map LoopType.record) := by
        rw [records, hactive]
        change (componentFiles .standard root >>= _) >>= _ = _
        rw [hcomps, ← List.map_flatMap]
        rfl
      have hfiles : files.flatMap (fun file => loops.recordsOf file) =
          (files.filter fun file =>
            defaultComponentExtensions.contains (extensionOf file.1).lower).flatMap fun file =>
              (loopTypes .standard file.1.toText file.2 true).map LoopType.record :=
        (flatMap_filter _ _ _).symm
      rw [hrecords, hfiles]
      cases active with
      | true => rfl
      | false =>
          -- An inactive project has no components, and no loops either.
          rw [componentFiles_eq_nil (s := .standard) hactive hcomps]
          rfl

/-- Where the source files cannot be found, neither can the records. -/
theorem exists_records_error [Parsers] {e : Failure} (h : sourceFiles .standard root = .error e)
    (c : Command) :
    ∃ e', c.records .standard .standard root = .error e' ∧ e' ≠ .unwritable := by
  have hne : e ≠ .unwritable := Search.ne_unwritable_of_run h
  have hscan : Project.scan .standard .standard root = .error e := by
    rw [Project.scan, h]
    rfl
  cases c with
  | scan => exact ⟨e, by rw [records, hscan]; rfl, hne⟩
  | stubs => exact ⟨e, by rw [records, hscan]; rfl, hne⟩
  | loops =>
      cases hactive : isActive .standard root with
      | ok active =>
          refine ⟨e, ?_, hne⟩
          rw [records, hactive]
          change (componentFiles .standard root >>= _) >>= _ = _
          rw [componentFiles, h]
          rfl
      | error e' =>
          refine ⟨e', by rw [records, hactive]; rfl, ?_⟩
          have hcomponents := hasComponents_of_isActive (s := .standard) hactive (by simp)
          rcases bind_eq_error_iff.1 hcomponents with hrun | ⟨_, -, hrun⟩
          · exact Search.ne_unwritable_of_run hrun
          · cases hrun

/-! ### The run of a command -/

/-- What a command logs has no part in whether it completes. -/
theorem exists_notices [Parsers] {site : Site} (h : sourceFiles .standard site.entry = .ok files)
    (verbose : Bool) (c : Command) :
    ∃ logged, (if verbose then c.notices .standard .standard site else pure []) = .ok logged := by
  cases verbose with
  | false => exact ⟨[], rfl⟩
  | true =>
      rw [if_pos rfl]
      cases c with
      | scan => exact ⟨_, by rw [notices, h]; rfl⟩
      | stubs => exact ⟨_, by rw [notices, h]; rfl⟩
      | loops =>
          obtain ⟨active, hactive⟩ := exists_isActive h
          cases hnotices : loops.notices .standard .standard site with
          | ok logged => exact ⟨logged, rfl⟩
          | error e =>
              rcases bind_eq_error_iff.1 hnotices with he | ⟨_, -, hnotices⟩
              · rw [hactive] at he
                cases he
              · rcases bind_eq_error_iff.1 hnotices with he | ⟨_, -, hnotices⟩
                · rw [componentFiles_eq h] at he
                  cases he
                · cases hnotices

/-- The run of a command that finds the source files. -/
theorem exists_runWith_eq [Parsers] {site : Site} (h : sourceFiles .standard site.entry = .ok files)
    (verbose : Bool) (c : Command) :
    ∃ logged, c.runWith .standard site verbose =
      lines (files.flatMap fun file => c.recordsOf file) >>= fun printed =>
        .ok ⟨0, printed, logged⟩ := by
  obtain ⟨logged, hlogged⟩ := exists_notices h verbose c
  have hrun : c.runWith .standard site verbose =
      c.records .standard .standard site.entry >>= fun records =>
        lines records >>= fun printed =>
          (if verbose then c.notices .standard .standard site else pure []) >>= fun logged =>
            .ok ⟨0, printed, logged.map Notice.line⟩ := by
    cases verbose with
    | false => rfl
    | true => rfl
  rw [hrun, records_eq h, hlogged]
  exact ⟨logged.map Notice.line, rfl⟩

theorem exists_runWith_error [Parsers] {site : Site} {e : Failure}
    (h : sourceFiles .standard site.entry = .error e) (verbose : Bool) (c : Command) :
    ∃ e', c.runWith .standard site verbose = .error e' ∧ e' ≠ .unwritable := by
  obtain ⟨e', he', hne⟩ := exists_records_error h c
  exact ⟨e', bind_eq_error_iff.2 (Or.inl he'), hne⟩

/-- No surrogate is in the way of the records of some files. -/
theorem isScalar_write_flatMap_iff [p : Parsers] (hp : p.StayWithin)
    (files : List (Path × List UInt8)) (c : Command) :
    (∀ r ∈ files.flatMap fun file => c.recordsOf file, (Json.write r).isScalar = true) ↔
      ∀ file ∈ files, c.IsPrintable file := by
  rw [List.forall_mem_flatMap]
  exact forall₂_congr fun file _ => isScalar_write_iff hp file c

/-- The files to which the standard search leads. -/
def Discovers (site : Site) (file : Path × List UInt8) : Prop :=
  (Search.ofSettings .standard).Finds site.entry file.1 file.2

/-- A command has ended well, and has printed the records of some files, one a line. The files are those
of the project, strictly in the order of their paths. -/
structure Reports [Parsers] (site : Site) (files : List (Path × List UInt8)) (outcome : Outcome)
    (c : Command) : Prop where
  /-- The command ended well. -/
  exitCode : outcome.exitCode = 0
  /-- The files are sorted. -/
  sorted : files.Pairwise fun f g => f.1.toText.less g.1.toText
  /-- They are all files of the project. -/
  complete : ∀ file, file ∈ files ↔ Discovers site file
  /-- Their records are printed. -/
  printed : outcome.printed = (files.flatMap fun file => c.recordsOf file).map Json.write
  /-- Each record takes one line. -/
  oneLine : ∀ line ∈ outcome.printed, line.IsOneLine

theorem reports_of_runWith [Parsers] {site : Site} (hnames : site.entry.IsWellNamed)
    (hfiles : sourceFiles .standard site.entry = .ok files) {verbose : Bool} {c : Command}
    {outcome : Outcome} (h : c.runWith .standard site verbose = .ok outcome) :
    c.Reports site files outcome := by
  obtain ⟨logged, hrun⟩ := exists_runWith_eq hfiles verbose c
  rw [hrun] at h
  obtain ⟨printed, hprinted, h⟩ := bind_eq_ok_iff.1 h
  obtain rfl := Except.ok.inj h
  obtain ⟨-, rfl⟩ := lines_eq_ok_iff.1 hprinted
  refine ⟨rfl, Search.pairwise_of_run hnames hfiles, fun file => ?_, rfl, ?_⟩
  · exact Search.mem_iff_of_run hnames hfiles
  · rw [List.forall_mem_map, List.forall_mem_flatMap]
    exact fun file _ r hr => isOneLine_write_of_mem hr

/-- A command that finds the source files completes if no surrogate is in its way. -/
theorem exists_runWith_iff [p : Parsers] (hp : p.StayWithin) {site : Site}
    (hfiles : sourceFiles .standard site.entry = .ok files) (verbose : Bool) (c : Command) :
    (∃ outcome, c.runWith .standard site verbose = .ok outcome) ↔
      ∀ file ∈ files, c.IsPrintable file := by
  obtain ⟨logged, hrun⟩ := exists_runWith_eq hfiles verbose c
  rw [hrun, ← isScalar_write_flatMap_iff hp]
  constructor
  · rintro ⟨outcome, h⟩
    obtain ⟨printed, hprinted, -⟩ := bind_eq_ok_iff.1 h
    exact (lines_eq_ok_iff.1 hprinted).1
  · intro hscalar
    rw [lines_eq_ok_iff.2 ⟨hscalar, rfl⟩]
    exact ⟨_, rfl⟩

/-- A command that finds the source files fails for a surrogate only. -/
theorem eq_unwritable_of_runWith [Parsers] {site : Site} {e : Failure}
    (hfiles : sourceFiles .standard site.entry = .ok files) {verbose : Bool} {c : Command}
    (h : c.runWith .standard site verbose = .error e) : e = .unwritable := by
  obtain ⟨logged, hrun⟩ := exists_runWith_eq hfiles verbose c
  rw [hrun] at h
  rcases bind_eq_error_iff.1 h with hlines | ⟨_, -, hdone⟩
  · exact eq_unwritable_of_lines hlines
  · cases hdone

/-- **When a command completes** in a project without a settings file: exactly if the rules of the root
answer, and no surrogate is in the way of the records of the files that are found. It then ends well and
has printed these records. If it fails although the rules answer, it is for a surrogate.

The parsers can be any whose trees stay within their sources, whatever trees they have for sources that are
not well-formed. Left out is a limit on recursion, which a name of about a thousand parts, joined by dots,
can exceed. -/
theorem run_completes [p : Parsers] (hp : p.StayWithin) {site : Site}
    (hnames : site.entry.IsWellNamed)
    (hsettings : site.entry.readFile? [settingsFile] = none) (verbose : Bool) (c : Command) :
    ((∃ outcome, c.run site verbose = .ok outcome) ↔
        (Search.ofSettings .standard).RulesAnswer site.entry ∧
          ∀ file, Discovers site file → c.IsPrintable file) ∧
      (∀ outcome, c.run site verbose = .ok outcome → ∃ files, c.Reports site files outcome) ∧
      ∀ e, c.run site verbose = .error e →
        (e = .unwritable ↔ (Search.ofSettings .standard).RulesAnswer site.entry) := by
  have hstandard : settingsOf site.entry = .ok (.ok .standard) := by
    rw [settingsOf, hsettings]
    rfl
  rw [run_eq_runWith hstandard]
  cases hfiles : sourceFiles .standard site.entry with
  | error e =>
      have hrules : ¬(Search.ofSettings .standard).RulesAnswer site.entry := by
        intro hrules
        obtain ⟨files, hrun⟩ := (Search.exists_run_iff hnames rfl).2 hrules
        rw [sourceFiles, hrun] at hfiles
        cases hfiles
      obtain ⟨e', he', hne⟩ := exists_runWith_error hfiles verbose c
      rw [he']
      refine ⟨?_, ?_, ?_⟩
      · constructor
        · rintro ⟨_, h⟩
          cases h
        · intro h
          exact absurd h.1 hrules
      · rintro outcome ⟨⟩
      · rintro _ ⟨⟩
        exact iff_of_false hne hrules
  | ok files =>
      have hrules := (Search.exists_run_iff hnames rfl).1 ⟨files, hfiles⟩
      have hmem : ∀ file, file ∈ files ↔ Discovers site file := fun file =>
        Search.mem_iff_of_run hnames hfiles
      refine ⟨?_, fun outcome h => ⟨files, reports_of_runWith hnames hfiles h⟩, fun e h => ?_⟩
      · rw [exists_runWith_iff hp hfiles, and_iff_right hrules]
        exact forall_congr' fun file => imp_congr_left (hmem file)
      · exact iff_of_true (eq_unwritable_of_runWith hfiles h) hrules

/-- A script that names a component. -/
def namedScript (name : String) : List UInt8 :=
  ("new Vue(\x7bel: '" ++ name ++ "'\x7d)").toUTF8.toList

/-- A project in which a name holds a surrogate that stands alone. -/
def surrogateSite : Site where
  name := "p"
  entry := .directory [("a.js", .file (namedScript "\\uD800")), ("b.js", .file (namedScript "b"))]

theorem run_completes_surrogate :
    surrogateSite.entry.IsWellNamed ∧ surrogateSite.entry.readFile? [settingsFile] = none ∧
      (Search.ofSettings .standard).RulesAnswer surrogateSite.entry ∧
      (∃ outcome, stubs.run surrogateSite false = .ok outcome) ∧
      ¬∃ outcome, scan.run surrogateSite false = .ok outcome := by
  have hp := Parsers.ofGrammars_stayWithin
  have hnames : surrogateSite.entry.IsWellNamed := by
    simp [surrogateSite, Entry.IsWellNamed, Entry.AreWellNamed]
    decide
  have hsettings : surrogateSite.entry.readFile? [settingsFile] = none :=
    Entry.readFile?_of_absent (by decide) (by decide) (by decide) rfl
  have hrules : (Search.ofSettings .standard).RulesAnswer surrogateSite.entry := nofun
  have hfiles : sourceFiles .standard surrogateSite.entry =
      .ok [(["a.js"], namedScript "\\uD800"), (["b.js"], namedScript "b")] := by decide +kernel
  have hmem : ∀ file, file ∈ _ ↔ Discovers surrogateSite file := fun file =>
    Search.mem_iff_of_run hnames hfiles
  refine ⟨hnames, hsettings, hrules, ?_, fun hcompletes => ?_⟩
  · refine (run_completes hp hnames hsettings false stubs).1.2
      ⟨hrules, fun file hfile => ⟨?_, nofun⟩⟩
    rw [← hmem, List.mem_cons, List.mem_singleton] at hfile
    rcases hfile with rfl | rfl
    · exact fun _ => by decide
    · exact fun _ => by decide
  · obtain ⟨-, hprintable⟩ := (run_completes hp hnames hsettings false scan).1.1 hcompletes
    have hnamed := (hprintable _ ((hmem _).1 List.mem_cons_self)).names rfl
    have hsurrogate : ((indexOf (["a.js"], namedScript "\\uD800")).occurrences.all fun o =>
        o.name.isScalar) = false := by decide +kernel
    rw [List.all_eq_true.2 hnamed] at hsurrogate
    cases hsurrogate

/-- A project with an ignore rule that takes back nothing. -/
def emptyRuleSite : Site where
  name := "p"
  entry := .directory [(".gitignore", .file "!\n".toUTF8.toList), ("a.js", .file (namedScript "x"))]

/-- **A project in which a command fails**, without a settings file. -/
theorem run_fails :
    ¬∀ (site : Site) (verbose : Bool) (c : Command), site.entry.IsWellNamed →
      site.entry.readFile? [settingsFile] = none → ∃ outcome, c.run site verbose = .ok outcome := by
  intro h
  have hnames : emptyRuleSite.entry.IsWellNamed := by
    simp [emptyRuleSite, Entry.IsWellNamed, Entry.AreWellNamed]
    decide
  have hsettings : emptyRuleSite.entry.readFile? [settingsFile] = none :=
    Entry.readFile?_of_absent (by decide) (by decide) (by decide) rfl
  have hfiles : sourceFiles .standard emptyRuleSite.entry = .error .emptyPattern := by
    decide +kernel
  obtain ⟨outcome, hrun⟩ := h emptyRuleSite false scan hnames hsettings
  obtain ⟨e, he, -⟩ := exists_runWith_error hfiles false scan
  rw [run_eq_runWith (settingsOf_of_absent rfl), he] at hrun
  cases hrun

end Command

end ComponentIndex
