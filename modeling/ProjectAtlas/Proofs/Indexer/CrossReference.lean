import ProjectAtlas.Proofs.Indexer.Isolation

/-!
Modules and declarations that name each other. The declarations of an index and the names in its modules
are put together apart from each other, but both from the scans of the modules, in their order; a
project may list a module several times, and then its scans are the same.
-/

namespace ProjectAtlas

namespace Source

/-- The declarations that the files of a module give. -/
def ModuleScan.declarations (s : ModuleScan) : List Declaration :=
  s.outcomes.flatMap (·.declarations)

variable {config : Config} {v : Volume} {root : Path} {m n : ModuleRef} {s : ModuleScan}

theorem name_of_scanModule (h : scanModule config v root m = .ok s) : s.name = m.name := by
  obtain ⟨ms, -, rfl⟩ := exists_met_of_scanModule h
  rfl

/-- Only the name and the path of a module count for its scan. -/
theorem scanModule_congr (hName : m.name = n.name) (hPath : m.path = n.path) :
    scanModule config v root m = scanModule config v root n := by
  simp only [scanModule, hName, hPath]

theorem module_of_mem_fileOutcome {windows : Windows} {module : String} {path : Path}
    {d : Declaration} (h : d ∈ (fileOutcome windows v root module path).declarations) :
    d.module = some module := by
  simp only [fileOutcome] at h
  split at h
  · cases h
  · split at h
    · cases h
    · obtain ⟨r, hr, hSome⟩ := List.mem_filterMap.mp h
      have hFrom := isFrom_of_mem_reflected r hr
      cases r with
      | declaration e =>
          cases hSome
          exact hFrom.2
      | callable c => cases hSome

/-- The declarations of a module name the module. -/
theorem module_of_mem_scanModule (h : scanModule config v root m = .ok s) {d : Declaration}
    (hd : d ∈ s.declarations) : d.module = some m.name := by
  obtain ⟨o, ho, hd⟩ := List.mem_flatMap.mp hd
  obtain ⟨ms, -, rfl⟩ := exists_met_of_scanModule h
  obtain ⟨file, -, rfl⟩ := List.mem_map.mp ho
  exact module_of_mem_fileOutcome hd

end Source

namespace Findings

/-- The declarations of findings, and the names of each module, are those of scans of modules in this
order. -/
structure FromModules (f : Findings) (scans : List Source.ModuleScan) : Prop where
  declarations : f.declarations = scans.flatMap (·.declarations)
  names : ∀ m, f.moduleDeclarations.inModule m =
    (scans.filter (·.name = m)).flatMap fun s => s.declarations.map (·.name)
  distinct : (f.moduleDeclarations.map (·.1)).Nodup

theorem fromModules_nil {f : Findings} (hDeclarations : f.declarations = [])
    (hNames : f.moduleDeclarations = []) : f.FromModules [] where
  declarations := hDeclarations
  names := by simp [hNames, ModuleNames.inModule]
  distinct := by simp [hNames]

theorem fromModules_findings (s : Source.ModuleScan) : s.findings.FromModules [s] where
  declarations := (List.append_nil _).symm
  names := by
    intro m
    have hNames : s.findings.moduleDeclarations = [(s.name, s.declarations.map (·.name))] := rfl
    rw [hNames, ModuleNames.inModule_cons]
    by_cases hName : m = s.name
    · subst hName
      simp
    · have hOther : ¬s.name = m := fun hSame => hName hSame.symm
      simp [hName, hOther, ModuleNames.inModule]
  distinct := List.nodup_singleton _

theorem FromModules.extend {f g : Findings} {scans more : List Source.ModuleScan}
    (hFirst : f.FromModules scans) (hSecond : g.FromModules more) :
    (f.extend g).FromModules (scans ++ more) where
  declarations := by
    rw [List.flatMap_append, ← hFirst.declarations, ← hSecond.declarations]
    rfl
  names := by
    intro m
    rw [List.filter_append, List.flatMap_append, ← hFirst.names, ← hSecond.names]
    exact ModuleNames.inModule_foldl_add hSecond.distinct _ m
  distinct := ModuleNames.nodup_map_fst_foldl_add hFirst.distinct _

theorem fromModules_concat {fs : List Findings} {scans : List (List Source.ModuleScan)}
    (hEach : List.Forall₂ FromModules fs scans) : (concat fs).FromModules scans.flatten := by
  have hRun : ∀ f start, FromModules f start →
      (fs.foldl Findings.extend f).FromModules (start ++ scans.flatten) := by
    induction hEach with
    | nil =>
        intro f start hStart
        rwa [List.flatten_nil, List.append_nil]
    | cons hHead _ ih =>
        intro f start hStart
        rw [List.foldl_cons, List.flatten_cons, ← List.append_assoc]
        exact ih _ _ (hStart.extend hHead)
  exact hRun {} [] (fromModules_nil rfl rfl)

end Findings

namespace Index

/-- The modules and the declarations of an index name each other. -/
structure CrossReferenced (ix : Index) : Prop where
  found : ∀ m ∈ ix.modules, ∀ n ∈ m.declarations,
    ∃ d, ix.findDeclaration n = some d ∧ d.name = n
  owned : ∀ d ∈ ix.declarations none,
    ∃ m ∈ ix.modules, d.module = some m.name ∧ d.name ∈ m.declarations
  distinct : ∀ m ∈ ix.modules, m.declarations.Nodup

variable {p : Project} {f : Findings}

/-- A module of an index is one of the project, with the names that were found in it, each once. -/
theorem mem_modules_build {m : ModuleRef} (hm : m ∈ (Index.build p f).modules) :
    ∃ n ∈ p.modules,
      m = { n with declarations := (f.moduleDeclarations.inModule n.name).eraseDups } := by
  obtain ⟨n, hn, rfl⟩ := List.mem_map.mp (Table.items_ofList_subset _ _ hm)
  refine ⟨n, hn, ?_⟩
  rw [firsts_eq_eraseDups]
  rfl

theorem declarations_of_mem_modules_build {m : ModuleRef} (hm : m ∈ (Index.build p f).modules) :
    m.declarations = (f.moduleDeclarations.inModule m.name).eraseDups := by
  obtain ⟨n, -, rfl⟩ := mem_modules_build hm
  rfl

/-- Every module of a project is listed, by its name. -/
theorem exists_mem_modules_build {n : ModuleRef} (hn : n ∈ p.modules) :
    ∃ m ∈ (Index.build p f).modules, m.name = n.name := by
  let listed := { n with declarations := firsts ((f.moduleDeclarations.lookup n.name).getD []) }
  have hListed : listed ∈ p.modules.map fun m =>
      { m with declarations := firsts ((f.moduleDeclarations.lookup m.name).getD []) } :=
    List.mem_map_of_mem hn
  obtain ⟨m, hFound, hName⟩ :
      ∃ m, (modulesWithNames p.modules f.moduleDeclarations).get? listed.name = some m ∧
        m.name = listed.name :=
    Table.exists_get?_ofList hListed
  exact ⟨m, Table.mem_items_of_get? hFound, hName⟩

/-- In an index over the scans of modules of its project, modules and declarations name each other, if
the declarations of each scan name its module. -/
theorem crossReferenced_build {scans : List Source.ModuleScan} (hFrom : f.FromModules scans)
    (hScans : ∀ s ∈ scans, s.name ∈ p.modules.map (·.name) ∧
      ∀ d ∈ s.declarations, d.module = some s.name) :
    (Index.build p f).CrossReferenced where
  found := by
    intro m hm n hn
    rw [declarations_of_mem_modules_build hm, List.mem_eraseDups, hFrom.names] at hn
    obtain ⟨s, hs, hName⟩ := List.mem_flatMap.mp hn
    obtain ⟨d, hd, rfl⟩ := List.mem_map.mp hName
    have hGiven : d ∈ f.declarations := by
      rw [hFrom.declarations]
      exact List.mem_flatMap.mpr ⟨s, (List.mem_filter.mp hs).1, hd⟩
    exact Table.exists_get?_ofList hGiven
  owned := by
    intro d hd
    have hGiven : d ∈ f.declarations := Table.items_ofList_subset _ _ hd
    rw [hFrom.declarations] at hGiven
    obtain ⟨s, hs, hd⟩ := List.mem_flatMap.mp hGiven
    obtain ⟨hModule, hOwn⟩ := hScans s hs
    obtain ⟨n, hn, hName⟩ := List.mem_map.mp hModule
    obtain ⟨m, hm, hSame⟩ := exists_mem_modules_build (f := f) hn
    refine ⟨m, hm, by rw [hOwn d hd, hSame, hName], ?_⟩
    rw [declarations_of_mem_modules_build hm, List.mem_eraseDups, hFrom.names]
    apply List.mem_flatMap.mpr
    exact ⟨s, List.mem_filter.mpr ⟨hs, by simp [hSame, hName]⟩, List.mem_map_of_mem hd⟩
  distinct := by
    intro m hm
    rw [declarations_of_mem_modules_build hm, ← firsts_eq_eraseDups]
    exact nodup_firsts _

end Index

/-- What the modules of a project give, as far as they can all be scanned. -/
def scansOf (config : Config) (v : Volume) (p : Project) : List Source.ModuleScan :=
  (p.modules.mapM (Source.scanModule config v (Path.ofString p.root))).toOption.getD []

/-- The scanner gives the declarations of these scans, if it gives a report. -/
def Scanner.Yields (v : Volume) (p : Project) (s : Scanner) (scans : List Source.ModuleScan) : Prop :=
  ∀ r, s.analyze v p = .ok r → r.findings.FromModules scans

section Run

variable {config : Config} {v : Volume} {p : Project}

theorem mapM_of_scanProject {r : Report} (h : Source.scanProject config v p = .ok r) :
    p.modules.mapM (Source.scanModule config v (Path.ofString p.root)) = .ok (scansOf config v p) ∧
      r.findings = Findings.concat ((scansOf config v p).map (·.findings)) := by
  obtain ⟨scans, hScans, rfl⟩ := map_eq_ok_iff.mp h
  rw [scansOf, hScans]
  exact ⟨rfl, rfl⟩

theorem yields_sourceScanner : (Source.scanner config).Yields v p (scansOf config v p) := by
  intro r hReport
  obtain ⟨-, hFindings⟩ := mapM_of_scanProject hReport
  have hEach : List.Forall₂ Findings.FromModules ((scansOf config v p).map (·.findings))
      ((scansOf config v p).map fun s => [s]) := by
    rw [List.forall₂_map_left_iff, List.forall₂_map_right_iff, List.forall₂_same]
    exact fun s _ => Findings.fromModules_findings s
  have hAll := Findings.fromModules_concat hEach
  rw [← List.flatMap_def, List.flatMap_singleton'] at hAll
  rwa [hFindings]

theorem yields_pluginScanner : (pluginScanner config).Yields v p [] := by
  intro r hReport
  have hScan : scanPlugins config v p = .ok r := hReport
  unfold scanPlugins at hScan
  cases hList : subdirectories v (pluginRoot config p) with
  | error fault =>
      simp only [hList] at hScan
      cases hScan
      exact Findings.fromModules_nil rfl rfl
  | ok directories =>
      simp only [hList] at hScan
      obtain ⟨outcomes, -, rfl⟩ := map_eq_ok_iff.mp hScan
      exact Findings.fromModules_nil rfl rfl

/-- Only the scanner of source files gives declarations. -/
theorem yields_builtin {b : String × Scanner} (hb : b ∈ builtins config) :
    b.2.Yields v p (if b.1 = "source" then scansOf config v p else []) := by
  simp only [builtins, List.mem_cons, List.not_mem_nil, or_false] at hb
  rcases hb with rfl | rfl | rfl
  · exact yields_sourceScanner
  · intro r hReport
    obtain ⟨ms, -, rfl⟩ := map_eq_ok_iff.mp hReport
    exact Findings.fromModules_nil rfl rfl
  · exact yields_pluginScanner

theorem fromModules_runScanners {scanners : List Scanner} {scans : List (List Source.ModuleScan)}
    (hYields : List.Forall₂ (Scanner.Yields v p) scanners scans) {report : Report}
    (h : runScanners v p scanners = .ok report) : report.findings.FromModules scans.flatten := by
  obtain ⟨reports, hReports, rfl⟩ := map_eq_ok_iff.mp h
  apply Findings.fromModules_concat
  rw [List.forall₂_map_left_iff]
  clear h
  induction hYields generalizing reports with
  | nil =>
      cases hReports
      exact .nil
  | cons hHead _ ih =>
      obtain ⟨r, rest, hFirst, hRest, rfl⟩ := mapM_cons_eq_ok_iff.mp hReports
      obtain ⟨own, hOwn, hFindings⟩ := findings_of_titledReport hFirst
      exact .cons (hFindings ▸ hHead own hOwn) (ih rest hRest)

theorem runningScanners_eq_map :
    runningScanners config v p =
      ((builtins config).filter fun b => b.2.runsOn v p && config.uses b.1).map (·.2) := by
  rw [runningScanners, usedScanners, List.filter_map, List.filter_filter]
  rfl

theorem scansOf_eq_nil (hModules : p.modules = []) : scansOf config v p = [] := by
  rw [scansOf, hModules]
  rfl

/-- The scanner of source files gives what there is of modules, whether or not it runs on a project that
has none. -/
theorem flatten_scansOf_running :
    (((builtins config).filter fun b => b.2.runsOn v p && config.uses b.1).map fun b =>
        if b.1 = "source" then scansOf config v p else []).flatten =
      if config.uses "source" then scansOf config v p else [] := by
  let others := [("assets", assetScanner config), ("plugins", pluginScanner config)]
  have hOthers (q : String × Scanner → Bool) :
      ((others.filter q).map fun b => if b.1 = "source" then scansOf config v p else []).flatten =
        [] := by
    rw [List.flatten_eq_nil_iff]
    intro scans hScans
    obtain ⟨b, hb, rfl⟩ := List.mem_map.mp hScans
    have hMem := List.mem_of_mem_filter hb
    simp only [others, List.mem_cons, List.not_mem_nil, or_false] at hMem
    rcases hMem with rfl | rfl <;> rfl
  have hBuiltins : builtins config = ("source", Source.scanner config) :: others := rfl
  have hRuns : (Source.scanner config).runsOn v p = !p.modules.isEmpty := by
    cases hNone : p.modules.isEmpty <;>
      simp [Scanner.runsOn, Source.scanner, hNone, Except.toOption]
  rw [hBuiltins, List.filter_cons, hRuns]
  cases hUses : config.uses "source" with
  | false =>
      rw [Bool.and_false, if_neg Bool.false_ne_true, if_neg Bool.false_ne_true]
      exact hOthers _
  | true =>
      by_cases hModules : p.modules = []
      · simp [hModules, scansOf_eq_nil hModules]
      · have hSome : p.modules.isEmpty = false := by simpa using hModules
        rw [hSome, Bool.not_false, Bool.and_true, if_pos rfl, if_pos rfl, List.map_cons, if_pos rfl,
          List.flatten_cons, hOthers, List.append_nil]

/-- The declarations of a run come from the scans of the modules, or there are none. -/
theorem fromModules_of_runningScanners {report : Report}
    (h : runScanners v p (runningScanners config v p) = .ok report) :
    report.findings.FromModules (if config.uses "source" then scansOf config v p else []) := by
  rw [runningScanners_eq_map] at h
  rw [← flatten_scansOf_running]
  apply fromModules_runScanners _ h
  rw [List.forall₂_map_left_iff, List.forall₂_map_right_iff, List.forall₂_same]
  exact fun b hb => yields_builtin (List.mem_filter.mp hb).1

theorem exists_module_of_mem_scansOf {s : Source.ModuleScan} (hs : s ∈ scansOf config v p) :
    ∃ m ∈ p.modules, Source.scanModule config v (Path.ofString p.root) m = .ok s := by
  unfold scansOf at hs
  cases hScans : p.modules.mapM (Source.scanModule config v (Path.ofString p.root)) with
  | error stop =>
      rw [hScans] at hs
      cases hs
  | ok scans =>
      rw [hScans] at hs
      exact exists_of_mem_mapM hScans s hs

/-- If the source files are asked for and there is a report then every module was scanned. -/
theorem exists_mem_scansOf {report : Report}
    (h : runScanners v p (runningScanners config v p) = .ok report)
    (hUses : config.uses "source" = true) {m : ModuleRef} (hm : m ∈ p.modules) :
    ∃ s ∈ scansOf config v p, Source.scanModule config v (Path.ofString p.root) m = .ok s := by
  have hSome : p.modules.isEmpty = false := by
    simpa using List.ne_nil_of_mem hm
  have hSupports : (Source.scanner config).supports v p = .ok true := by
    simp only [Source.scanner, hSome, Bool.not_false]
  have hRunning : Source.scanner config ∈ runningScanners config v p :=
    mem_runningScanners.mpr ⟨"source", by simp [builtins], hUses, hSupports⟩
  obtain ⟨r, hReport, -⟩ := within_runScanners h hRunning
  exact exists_mem_of_mapM (mapM_of_scanProject hReport).1 m hm

/-- The names in the scans of one module, which may be listed several times. -/
theorem eraseDups_flatMap_of_eq {α β : Type} [BEq β] [LawfulBEq β] {s : α} {scans : List α}
    (hSome : s ∈ scans) (hSame : ∀ t ∈ scans, t = s) (names : α → List β) :
    (scans.flatMap names).eraseDups = (names s).eraseDups := by
  cases scans with
  | nil => cases hSome
  | cons t rest =>
      obtain ⟨rfl, hRest⟩ := List.forall_mem_cons.mp hSame
      have hNothing : (rest.flatMap names).removeAll (names t) = [] := by
        rw [List.removeAll, List.filter_eq_nil_iff]
        intro n hn
        obtain ⟨u, hu, hn⟩ := List.mem_flatMap.mp hn
        rw [hRest u hu] at hn
        simpa using hn
      rw [List.flatMap_cons, List.eraseDups_append, hNothing, List.eraseDups_nil, List.append_nil]

/-- The names in a listed module are those of its scan, in the order in which they first appear. -/
theorem declarations_eq_of_scansOf {f : Findings} (hFrom : f.FromModules (scansOf config v p))
    (hPaths : ∀ m ∈ p.modules, ∀ n ∈ p.modules, m.name = n.name → m.path = n.path)
    (hAll : ∀ m ∈ p.modules, ∃ s ∈ scansOf config v p,
      Source.scanModule config v (Path.ofString p.root) m = .ok s)
    {m : ModuleRef} (hm : m ∈ (Index.build p f).modules) :
    ∃ s, Source.scanModule config v (Path.ofString p.root) m = .ok s ∧
      m.declarations = (s.declarations.map (·.name)).eraseDups := by
  have hNames := Index.declarations_of_mem_modules_build hm
  rw [hFrom.names] at hNames
  obtain ⟨n, hn, hListed⟩ := Index.mem_modules_build hm
  have hName : m.name = n.name := by rw [hListed]
  have hPath : m.path = n.path := by rw [hListed]
  obtain ⟨s, hs, hScan⟩ := hAll n hn
  have hOwn : s.name = m.name := (Source.name_of_scanModule hScan).trans hName.symm
  refine ⟨s, (Source.scanModule_congr hName hPath).trans hScan, ?_⟩
  rw [hNames]
  apply eraseDups_flatMap_of_eq (List.mem_filter.mpr ⟨hs, by simpa using hOwn⟩)
  intro t ht
  obtain ⟨ht, hSame⟩ := List.mem_filter.mp ht
  obtain ⟨k, hk, hOther⟩ := exists_module_of_mem_scansOf ht
  have hSameName : k.name = n.name := by
    rw [← Source.name_of_scanModule hOther, of_decide_eq_true hSame, hName]
  rw [Source.scanModule_congr hSameName (hPaths k hk n hn hSameName), hScan] at hOther
  exact (Except.ok.inj hOther).symm

theorem exists_document_of_readProject {directories : Directories} {given : Path}
    (h : readProject v directories given = .ok p) :
    ∃ root manifest document, p = projectOf directories root manifest document := by
  unfold readProject at h
  cases hStart : v.startFrom given with
  | error fault => simp [hStart] at h
  | ok root =>
      simp only [hStart] at h
      split at h
      · cases h
      · cases h
      · obtain ⟨found, -, rfl⟩ := map_eq_ok_iff.mp h
        exact ⟨root, found.1, found.2, rfl⟩

/-- The path of a module follows from its name, so modules that are listed twice are the same place. -/
theorem path_eq_of_openProject {o : Overrides} {root : Path}
    (hOpen : openProject v o root = .ok (config, p)) :
    ∀ m ∈ p.modules, ∀ n ∈ p.modules, m.name = n.name → m.path = n.path := by
  unfold openProject at hOpen
  split at hOpen
  · cases hOpen
  · split at hOpen
    · cases hOpen
    · rename_i hRead
      cases hOpen
      obtain ⟨top, manifest, document, rfl⟩ := exists_document_of_readProject hRead
      intro m hm n hn hName
      obtain ⟨d, -, rfl⟩ := List.mem_map.mp hm
      obtain ⟨e, -, rfl⟩ := List.mem_map.mp hn
      have hSame : d.name = e.name := hName
      show some _ = some _
      rw [hSame]

/-- A scan with the scanners that are always there is a run of those that the settings ask for. -/
theorem exists_report_of_scan {o : Overrides} {root : Path} {index : Index}
    (hBuiltin : o.scanners = none) (hScan : (scan v o root).outcome = .ok index) :
    ∃ config p report, openProject v o root = .ok (config, p) ∧
      runScanners v p (runningScanners config v p) = .ok report ∧
      index = Index.build p report.findings := by
  unfold scan at hScan
  cases hOpen : openProject v o root with
  | error fault => simp [hOpen] at hScan
  | ok found =>
      obtain ⟨config, p⟩ := found
      simp only [hOpen] at hScan
      have hKnown : ∀ n ∈ config.scanners.enabled, Text.lower n ∈ builtinNames := by
        cases hScanners : enabledScanners config with
        | error fault => simp [reportOn, Overrides.scannersFor, hBuiltin, hScanners] at hScan
        | ok scanners => exact known_of_enabledScanners hScanners
      rw [reportOn_of_known hBuiltin hKnown] at hScan
      cases hRun : runBuiltins config v p with
      | error stop =>
          rw [hRun] at hScan
          cases hScan
      | ok report =>
          rw [hRun] at hScan
          cases hScan
          exact ⟨config, p, report, rfl, (runScanners_of_runBuiltins hRun).1, rfl⟩

end Run

/-- After a scan with the scanners that are always there, modules and declarations name each other: what
a module lists is found by its name, every declaration names a listed module that lists it, and no
module lists a name twice. If the settings ask for source files, the names in a module are those of
the scan of its files, in the order in which they first appear there; otherwise there are none. -/
theorem scan_crossReferenced {v : Volume} {o : Overrides} {root : Path} {index : Index}
    (hBuiltin : o.scanners = none) (hScan : (scan v o root).outcome = .ok index) :
    index.CrossReferenced ∧
      ∃ config p, openProject v o root = .ok (config, p) ∧ ∀ m ∈ index.modules,
        (config.uses "source" = true →
          ∃ s, Source.scanModule config v (Path.ofString p.root) m = .ok s ∧
            m.declarations = (s.declarations.map (·.name)).eraseDups) ∧
        (config.uses "source" = false → m.declarations = []) := by
  obtain ⟨config, p, report, hOpen, hRun, rfl⟩ := exists_report_of_scan hBuiltin hScan
  have hFrom := fromModules_of_runningScanners hRun
  refine ⟨?_, config, p, hOpen, fun m hm => ⟨fun hUses => ?_, fun hUses => ?_⟩⟩
  · apply Index.crossReferenced_build hFrom
    intro s hs
    split at hs
    · obtain ⟨m, hm, hModule⟩ := exists_module_of_mem_scansOf hs
      have hName := Source.name_of_scanModule hModule
      rw [hName]
      exact ⟨List.mem_map_of_mem hm, fun d hd => Source.module_of_mem_scanModule hModule hd⟩
    · cases hs
  · rw [if_pos hUses] at hFrom
    exact declarations_eq_of_scansOf hFrom (path_eq_of_openProject hOpen)
      (fun n hn => exists_mem_scansOf hRun hUses hn) hm
  · rw [hUses, if_neg Bool.false_ne_true] at hFrom
    rw [Index.declarations_of_mem_modules_build hm, hFrom.names]
    rfl

/-- A file of this text. -/
def textFile (text : String) : Node :=
  .file (.bytes (Text.encodeUtf8 text)) false

/-- A project that lists one of its two modules twice. Both modules declare the same name, and one of
them declares it twice. -/
def twiceListed : Volume where
  root := .dir [("MyGame", .dir
    [("MyGame.uproject", textFile
        "\x7b\"Modules\": [\x7b\"Name\": \"Core\"\x7d, \x7b\"Name\": \"Shop\"\x7d, \x7b\"Name\": \"Core\"\x7d]\x7d"),
      ("Source", .dir
        [("Core", .dir [("Core.h", textFile
            "UCLASS()\nclass Item\nUSTRUCT()\nstruct Price\nUCLASS()\nclass Item")] false),
          ("Shop", .dir [("Shop.h", textFile "USTRUCT()\nstruct Price")] false)] false)] false)] false

/-- The statement on cross references, for that project: each name is listed once in its module, also
where the index has the declaration of the other module. -/
theorem scan_crossReferenced_twiceListed :
    let root : Path := ⟨.root, ["MyGame"]⟩
    ∃ index, (scan twiceListed {} root).outcome = .ok index ∧ index.CrossReferenced ∧
      index.modules.map (·.declarations) = [["Item", "Price"], ["Price"]] ∧
      (index.declarations none).map (fun d => (d.name, d.module)) =
        [("Item", some "Core"), ("Price", some "Core")] := by
  intro root
  have hNames : ((scan twiceListed {} root).outcome.toOption.map fun index =>
      (index.modules.map (·.declarations),
        (index.declarations none).map fun d => (d.name, d.module))) =
      some ([["Item", "Price"], ["Price"]], [("Item", some "Core"), ("Price", some "Core")]) := by
    decide +kernel
  cases hScan : (scan twiceListed {} root).outcome with
  | error fault =>
      rw [hScan] at hNames
      cases hNames
  | ok index =>
      rw [hScan] at hNames
      obtain ⟨hModules, hDeclarations⟩ := Prod.mk.inj (Option.some.inj hNames)
      exact ⟨index, rfl, (scan_crossReferenced rfl hScan).1, hModules, hDeclarations⟩

end ProjectAtlas
