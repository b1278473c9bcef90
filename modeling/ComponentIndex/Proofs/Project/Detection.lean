/-
**Detection never hides a loop.**

Where the settings say nothing, the framework is taken to be active if there is a component among the
files.  That search is wider than the search for source files: it has no patterns, and of the rules
files it asks that of the root alone.  So if it finds nothing, no component belongs to the project
either, and the records are those of a project that is said to be active.

The search is not only wider.  A rule that cannot be read fails when it is asked, and a nested search
may ignore a file by a rules file of its own before it comes to the rules of the root.  The detection
asks these at once, and fails in a project whose records could be printed.

Main results:

* `ComponentIndex.Project.componentFiles_eq_nil` — **an inactive project has no components**;
* `ComponentIndex.Project.exists_error_of_isActive` — how the detection fails;
* `ComponentIndex.Command.records_loops_detected` — **detection** changes no record, but may fail;
* `ComponentIndex.Command.records_loops_nestedRules` — a project where it fails alone.
-/

import ComponentIndex.Command.Run
import ComponentIndex.Proofs.Project.Search
import ComponentIndex.Proofs.Text.LowerCase

set_option relaxedAutoImplicit false
set_option autoImplicit false

namespace ComponentIndex

namespace Project

variable {s : Settings} {root : Entry}

/-! ### The rules of the root -/

theorem mem_rulesFiles_of_root {nested : Bool} {x : Path × List UInt8}
    (h : x ∈ rulesFiles false root) : x ∈ rulesFiles nested root := by
  rw [rulesFiles, byPath, (sortBy_perm _).mem_iff, List.mem_filter] at h ⊢
  simp only [Bool.and_eq_true, Bool.or_eq_true, Bool.false_eq_true, false_or] at h ⊢
  exact ⟨h.1, h.2.1, Or.inr h.2.2⟩

/-- The rules of the root can be made out if those of all directories can, and are among them. -/
theorem exists_matchers_root {nested : Bool} {ms : List Ignore.Matcher}
    (h : matchers nested root = .ok ms) :
    ∃ ms', matchers false root = .ok ms' ∧ ∀ m ∈ ms', m ∈ ms := by
  obtain ⟨ms', hms'⟩ : ∃ ms', matchers false root = .ok ms' := by
    refine exists_mapM_eq_ok fun x hx => ?_
    obtain ⟨m, -, hm⟩ := exists_of_mapM h (mem_rulesFiles_of_root hx)
    exact ⟨m, hm⟩
  refine ⟨ms', hms', fun m hm => ?_⟩
  obtain ⟨x, hx, hm⟩ := (mem_of_mapM hms').1 hm
  exact (mem_of_mapM h).2 ⟨x, mem_rulesFiles_of_root hx, hm⟩

/-! ### The search for components -/

/-- The search for components by which the framework is detected. -/
def componentSearch (s : Settings) : Search := { extensions := s.componentExtensions }

theorem filterIn_componentSearch {ms : List Ignore.Matcher} (h : matchers false root = .ok ms) :
    (componentSearch s).filterIn root =
      .ok { extensions := s.componentExtensions.map Text.lower, matchers := ms } := by
  rw [Search.filterIn, componentSearch, h]
  rfl

theorem filterIn_ofSettings {ms : List Ignore.Matcher} (h : matchers s.nestedIgnore root = .ok ms) :
    (Search.ofSettings s).filterIn root =
      .ok { extensions := s.extensions.map Text.lower, includes := s.includes,
            excludes := s.excludes, matchers := ms } := by
  rw [Search.filterIn, Search.ofSettings, h]
  rfl

theorem exists_matchers_of_filterIn {search : Search} {f : Filter}
    (h : search.filterIn root = .ok f) :
    ∃ ms, matchers search.nestedIgnore root = .ok ms ∧ f.matchers = ms := by
  obtain ⟨ms, hms, h⟩ := bind_eq_ok_iff.1 h
  obtain rfl := Except.ok.inj h
  exact ⟨ms, hms, rfl⟩

/-- The detection accepts a component that any settings accept. -/
theorem accepts_component {f : Filter} {ms : List Ignore.Matcher} {path : Path}
    (hms : ∀ m ∈ ms, m ∈ f.matchers) (haccepts : f.accepts path = .ok true)
    (hextension : (extensionOf path).lower ∈ s.componentExtensions) :
    Filter.accepts { extensions := s.componentExtensions.map Text.lower, matchers := ms } path =
      .ok true := by
  obtain ⟨hname, hignored, -⟩ := Filter.accepts_eq_true_iff.1 haccepts
  obtain ⟨-, hskipped⟩ := Filter.allowsName_iff.1 hname
  refine Filter.accepts_eq_true_iff.2 ⟨?_, fun m hm => hignored m (hms m hm), rfl⟩
  refine Filter.allowsName_iff.2 ⟨List.mem_map.2 ⟨_, hextension, ?_⟩, hskipped⟩
  -- An extension of the settings is compared as it is, one of the detection in lower case.
  exact Text.lower_lower _

/-! ### An inactive project -/

theorem hasComponents_of_isActive {active : Except Failure Bool}
    (h : isActive { s with enabled := none } root = active) (hactive : active ≠ .ok true) :
    hasComponents s.componentExtensions root = active := by
  change (if manifestDeclares root then .ok true else hasComponents s.componentExtensions root) =
    active at h
  split at h
  · exact absurd h.symm hactive
  · exact h

/-- **A project that is found inactive has no components**, whatever the settings say about
patterns, rules files and scripts. -/
theorem componentFiles_eq_nil {comps : List (Path × List UInt8)}
    (hactive : isActive { s with enabled := none } root = .ok false)
    (hcomps : componentFiles s root = .ok comps) : comps = [] := by
  obtain ⟨found, hfound, hempty⟩ := bind_eq_ok_iff.1 (hasComponents_of_isActive hactive (by simp))
  have hnil : found = [] := by simpa using Except.ok.inj hempty
  obtain ⟨files, hfiles, hcomps⟩ := bind_eq_ok_iff.1 hcomps
  obtain rfl := Except.ok.inj hcomps
  rw [List.eq_nil_iff_forall_not_mem]
  intro x hx
  rw [List.mem_filter, List.contains_iff_mem] at hx
  obtain ⟨f, hf, hmem⟩ := Search.exists_filterIn_of_run hfiles
  obtain ⟨hsource, haccepts⟩ := (hmem x).1 hx.1
  obtain ⟨ms, hms, rfl⟩ := exists_matchers_of_filterIn hf
  obtain ⟨ms', hms', hsubset⟩ := exists_matchers_root hms
  obtain ⟨f', hf', hmem'⟩ := Search.exists_filterIn_of_run hfound
  -- The component would have been found.
  have hx' : x ∈ found := by
    rw [hmem']
    refine ⟨hsource, ?_⟩
    obtain rfl := Except.ok.inj ((filterIn_componentSearch (s := s) hms').symm.trans hf')
    exact accepts_component hsubset haccepts hx.2
  rw [hnil] at hx'
  cases hx'

/-! ### A detection that fails -/

/-- A path that the detection cannot test can neither be tested by the settings, if the same rules
are asked. -/
theorem accepts_eq_error {f : Filter} {path : Path} {e : Failure}
    (hextensions : f.extensions = s.extensions.map Text.lower)
    (h : Filter.accepts
      { extensions := s.componentExtensions.map Text.lower, matchers := f.matchers } path =
        .error e) : f.accepts path = .error e := by
  obtain ⟨hname, hignored⟩ := Filter.accepts_eq_error_iff.1 h
  obtain ⟨hextension, hskipped⟩ := Filter.allowsName_iff.1 hname
  obtain ⟨ext, hext, hlower⟩ := List.mem_map.1 hextension
  refine Filter.accepts_eq_error_iff.2 ⟨Filter.allowsName_iff.2 ⟨?_, hskipped⟩, hignored⟩
  rw [hextensions, List.mem_map]
  exact ⟨ext, mem_distinct.2 (List.mem_append_right _ hext), hlower⟩

/-- A search that succeeds has tested the paths of all files. -/
theorem isOk_accepts_of_run {search : Search} {f : Filter} {files : List (Path × List UInt8)}
    (hf : search.filterIn root = .ok f) (hrun : search.run root = .ok files)
    {x : Path × List UInt8} (hx : x ∈ root.sourceFiles) : (f.accepts x.1).isOk = true := by
  rw [Search.run_eq hf] at hrun
  split at hrun
  next hall => exact List.all_eq_true.1 hall x hx
  · cases hrun

/-- **A detection that fails**: either the source files cannot be found, or rules below the root are
to count and a rule of the root cannot be read. -/
theorem exists_error_of_isActive {e : Failure}
    (h : isActive { s with enabled := none } root = .error e) :
    (∃ e', componentFiles s root = .error e') ∨
      s.nestedIgnore = true ∧ e = .malformedPattern := by
  cases hcomps : componentFiles s root with
  | error e' => exact Or.inl ⟨e', rfl⟩
  | ok comps =>
      right
      obtain ⟨files, hfiles, -⟩ := bind_eq_ok_iff.1 hcomps
      obtain ⟨f, hf, -⟩ := Search.exists_filterIn_of_run hfiles
      obtain ⟨ms, hms, hfms⟩ := exists_matchers_of_filterIn hf
      obtain ⟨ms', hms', -⟩ := exists_matchers_root hms
      -- The rules can be made out, so that the detection failed on a path.
      have hrun : (componentSearch s).run root = .error e := by
        rcases bind_eq_error_iff.1 (hasComponents_of_isActive h (by simp)) with hrun | ⟨_, -, hrun⟩
        · exact hrun
        · cases hrun
      rw [Search.run_eq (filterIn_componentSearch hms')] at hrun
      split at hrun
      · cases hrun
      next hall =>
        refine ⟨?_, (Except.error.inj hrun).symm⟩
        by_contra hnested
        -- The rules of the root are all that count, and the settings have asked them of each path.
        have hsame : ms' = f.matchers := by
          change matchers s.nestedIgnore root = .ok ms at hms
          rw [Bool.eq_false_iff.2 hnested, hms'] at hms
          exact (Except.ok.inj hms).trans hfms.symm
        have hextensions : f.extensions = s.extensions.map Text.lower := by
          rw [filterIn_ofSettings hms] at hf
          rw [← Except.ok.inj hf]
        refine hall (List.all_eq_true.2 fun x hx => ?_)
        have htested := isOk_accepts_of_run hf hfiles hx
        rw [hsame]
        cases hx' : Filter.accepts
            { extensions := s.componentExtensions.map Text.lower, matchers := f.matchers } x.1 with
        | ok answer => rfl
        | error e' =>
            rw [accepts_eq_error hextensions hx'] at htested
            cases htested

end Project

/-! ### The records -/

namespace Command

open Project

/-- **Detection changes no record.** Where it says whether the framework is active, the records are
those of the same settings with the framework set active, and no component belongs to a project that
it finds inactive. It fails only where the source files cannot be found either, or where rules below
the root are to count and a rule of the root cannot be read. -/
theorem records_loops_detected [Parsers] (x : ExtensionPoint) (s : Settings) (root : Entry) :
    (∀ active, isActive { s with enabled := none } root = .ok active →
      loops.records x { s with enabled := none } root =
        loops.records x { s with enabled := some true } root) ∧
      (∀ comps, isActive { s with enabled := none } root = .ok false →
        componentFiles s root = .ok comps → comps = []) ∧
      ∀ e, isActive { s with enabled := none } root = .error e →
        (∃ e', loops.records x { s with enabled := some true } root = .error e') ∨
          s.nestedIgnore = true ∧ e = .malformedPattern := by
  -- The component files do not depend on whether the framework is active.
  have hloops (enabled : Option Bool) (active : Bool)
      (hactive : isActive { s with enabled := enabled } root = .ok active) :
      loops.records x { s with enabled := enabled } root =
        componentFiles s root >>= fun comps => .ok ((comps.flatMap fun comp =>
          loopTypes x comp.1.toText comp.2 active).map LoopType.record) := by
    rw [records, hactive]
    change (componentFiles s root >>= _) >>= _ = _
    cases componentFiles s root with
    | error e => rfl
    | ok comps => rfl
  have hset := hloops (some true) true rfl
  refine ⟨fun active hactive => ?_, fun comps hactive => componentFiles_eq_nil hactive,
    fun e hactive => ?_⟩
  · rw [hset, hloops none active hactive]
    cases active with
    | true => rfl
    | false =>
        cases hcomps : componentFiles s root with
        | error e => rfl
        | ok comps =>
            rw [componentFiles_eq_nil hactive hcomps]
            rfl
  · rcases exists_error_of_isActive hactive with ⟨e', hcomps⟩ | hrules
    · rw [hset, hcomps]
      exact Or.inl ⟨e', rfl⟩
    · exact Or.inr hrules

/-- Settings that let the rules of all directories count, and say nothing about the framework. -/
def nestedRulesData : Data := .table [("nested_gitignore", .bool true)]

/-- A project with such settings, with rules in a directory whose name comes before that of the rules
of the root. A range of the latter ends before it begins. -/
def nestedRulesProject : Entry := .directory
  [(".gitignore", .file "[z-a]\n!keep.vue\n".toUTF8.toList),
    ("(a)", .directory
      [(".gitignore", .file "x.vue\n".toUTF8.toList), ("x.vue", .file [])]),
    ("keep.vue", .file "<template><p v-for=\"n in [1]\"></p></template>".toUTF8.toList),
    ("vueindex.toml", .file "nested_gitignore = true\n".toUTF8.toList)]

/-- The type of the loop in that project. -/
def nestedRulesLoop : LoopType where
  path := "keep.vue"
  expression := "n in [1]"
  variableName := "n"
  elementType := "number"
  line := 1
  col := 11

theorem scanLoops_nestedRules :
    scanLoops .standard { nestedIgnore := true, enabled := some true } true nestedRulesProject =
      .ok [nestedRulesLoop] := by
  decide +kernel

theorem isActive_nestedRules :
    isActive { nestedIgnore := true } nestedRulesProject = .error .malformedPattern := by
  have hmanifest : manifestDeclares nestedRulesProject = false := manifestDeclares_of_absent rfl
  change (if manifestDeclares nestedRulesProject then .ok true
    else hasComponents defaultComponentExtensions nestedRulesProject) = _
  rw [hmanifest]
  decide +kernel

/-- **A detection that hides a loop**: in that project it fails, so that nothing is printed, while
the record of the loop is printed if the framework is set active. -/
theorem records_loops_nestedRules :
    ¬∀ (d : Data) (s : Settings) (root : Entry), Settings.ofData d = .ok s → s.enabled = none →
      loops.records .standard s root =
        loops.records .standard { s with enabled := some true } root := by
  intro h
  have hsame := h nestedRulesData { nestedIgnore := true } nestedRulesProject rfl rfl
  have hset : loops.records .standard { nestedIgnore := true, enabled := some true }
      nestedRulesProject = .ok [nestedRulesLoop.record] :=
    bind_eq_ok_iff.2 ⟨true, rfl, bind_eq_ok_iff.2 ⟨_, scanLoops_nestedRules, rfl⟩⟩
  have hdetected : loops.records .standard { nestedIgnore := true } nestedRulesProject =
      .error .malformedPattern := bind_eq_error_iff.2 (Or.inl isActive_nestedRules)
  rw [hset, hdetected] at hsame
  cases hsame

end Command

end ComponentIndex
