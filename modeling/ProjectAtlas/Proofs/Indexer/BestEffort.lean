import ProjectAtlas.Indexer.Scan
import ProjectAtlas.Proofs.Config.NormalForm
import ProjectAtlas.Proofs.Index.Findings
import ProjectAtlas.Proofs.Manifest.Faults
import ProjectAtlas.Proofs.Scanner.Selection
import ProjectAtlas.Proofs.Text.Lines
import ProjectAtlas.Proofs.Walk.Visits

/-!
What can go wrong below the manifest of a project. Files, directories and plugins each give their
entities, or an issue, on their own; only few things end a scan. A directory to start from cannot be
looked up, a tree of directories is too deep for the stack, or the manifest of a plugin goes beyond a
limit of its reader.
-/

namespace ProjectAtlas

/-- A walk gives its scanner nothing: its root cannot be looked up, or it enters more directories inside
one another than the stack has room for. -/
inductive Walk.StoppedBy (v : Volume) (w : Walk) : ScanStop → Prop where
  | lost {fault : FileFault} (hRoot : v.isDir w.root = .error fault) :
      StoppedBy v w (.unreachable fault)
  | depth {isDir : Bool} (hRoot : v.isDir w.root = .ok isDir)
      (hDepth : v.host.room .tree w.root < w.depth v) : StoppedBy v w .treeTooDeep

theorem scanMet_eq_error_iff {v : Volume} {w : Walk} {stop : ScanStop} :
    scanMet v w = .error stop ↔ w.StoppedBy v stop := by
  constructor
  · intro h
    obtain ⟨found, hRun, rfl⟩ := mapError_eq_error_iff.mp h
    unfold Walk.run at hRun
    cases hRoot : v.isDir w.root with
    | error fault =>
        rw [hRoot] at hRun
        cases hRun
        exact .lost hRoot
    | ok isDir =>
        simp only [hRoot] at hRun
        split at hRun
        · rename_i hDepth
          cases hRun
          exact .depth hRoot hDepth
        · cases hRun
  · intro h
    cases h with
    | lost hRoot =>
        simp only [scanMet, Walk.run, hRoot]
        rfl
    | depth hRoot hDepth =>
        simp only [scanMet, Walk.run, hRoot, if_pos hDepth]
        rfl

/-- A walk that is not stopped gives all that it meets. -/
theorem eq_met_of_scanMet {v : Volume} {w : Walk} {ms : List Met} (h : scanMet v w = .ok ms) :
    ms = w.met v := by
  unfold scanMet Walk.run at h
  cases hRoot : v.isDir w.root with
  | error fault =>
      simp only [hRoot] at h
      cases h
  | ok isDir =>
      simp only [hRoot] at h
      split at h
      · cases h
      · cases h
        rfl

/-- A directory of plugins of the project, as far as they can be listed. -/
def IsPluginDirectory (config : Config) (v : Volume) (p : Project) (directory : Path) : Prop :=
  v.isDir (pluginRoot config p) = .ok true ∧
    ∃ directories, subdirectories v (pluginRoot config p) = .ok directories ∧
      directory ∈ directories

/-- What one item below the manifest gives to the scanner of a name: the entities in it, or else the
issue that stands for it. -/
inductive Contribution (config : Config) (v : Volume) (p : Project) : String → Findings → Prop where
  | unlistedSources {m : ModuleRef} {path : String} {fault : FileFault}
      (hModule : m ∈ p.modules) (hPath : m.path = some path) (hSome : path ≠ "")
      (hMet : .unlisted fault ∈
        (Source.moduleWalk config (Path.ofString p.root) path).met v) :
      Contribution config v p "source"
        { issues := [⟨.directoryUnreadable, fault.path, fault.message⟩] }
  | unreadSource {m : ModuleRef} {path relative : String} {file : Path} {fault : FileFault}
      (hModule : m ∈ p.modules) (hPath : m.path = some path) (hSome : path ≠ "")
      (hMet : .file file relative ∈
        (Source.moduleWalk config (Path.ofString p.root) path).met v)
      (hRead : v.read file = .error fault) :
      Contribution config v p "source"
        { issues := [⟨.fileUnreadable, file.relativeText (Path.ofString p.root), fault.message⟩] }
  | binarySource {m : ModuleRef} {path relative : String} {file : Path} {bytes : List UInt8}
      (hModule : m ∈ p.modules) (hPath : m.path = some path) (hSome : path ≠ "")
      (hMet : .file file relative ∈
        (Source.moduleWalk config (Path.ofString p.root) path).met v)
      (hRead : v.read file = .ok bytes) (hZero : 0 ∈ bytes) :
      Contribution config v p "source"
        { issues := [⟨.fileUnparseable, file.relativeText (Path.ofString p.root), "not UTF-8 text"⟩] }
  | source {m : ModuleRef} {path relative : String} {file : Path} {bytes : List UInt8}
      {found : List Source.Reflected}
      (hModule : m ∈ p.modules) (hPath : m.path = some path) (hSome : path ≠ "")
      (hMet : .file file relative ∈
        (Source.moduleWalk config (Path.ofString p.root) path).met v)
      (hRead : v.read file = .ok bytes) (hText : 0 ∉ bytes)
      (hFound : Source.reflected config.scan.windows
        ⟨file.relativeText (Path.ofString p.root), some m.name⟩
        (Text.decodeLenient (Text.dropByteOrderMark bytes)) = found) :
      Contribution config v p "source"
        { declarations := Source.declarationsOf found, callables := Source.callablesOf found }
  | unlistedContent {fault : FileFault} (hContent : v.isDir (contentRoot config p) = .ok true)
      (hMet : .unlisted fault ∈ (contentWalk config p).met v) :
      Contribution config v p "assets"
        { issues := [⟨.directoryUnreadable, fault.path, fault.message⟩] }
  | unsizedContent {relative : String} {file : Path} {fault : FileFault}
      (hContent : v.isDir (contentRoot config p) = .ok true)
      (hMet : .file file relative ∈ (contentWalk config p).met v)
      (hSize : v.size file = .error fault) :
      Contribution config v p "assets" { issues := [⟨.fileUnreadable, relative, fault.message⟩] }
  | content {relative : String} {file : Path} {size : Nat}
      (hContent : v.isDir (contentRoot config p) = .ok true)
      (hMet : .file file relative ∈ (contentWalk config p).met v)
      (hSize : v.size file = .ok size) :
      Contribution config v p "assets"
        { assets := [{ name := (Path.ofString relative).stem, path := relative,
                       type := assetType relative, size }] }
  | unlistedPlugins {fault : FileFault} (hPlugins : v.isDir (pluginRoot config p) = .ok true)
      (hList : subdirectories v (pluginRoot config p) = .error fault) :
      Contribution config v p "plugins"
        { issues := [⟨.directoryUnreadable, (pluginRoot config p).toString, fault.message⟩] }
  | unlistedPlugin {directory : Path} {fault : FileFault}
      (hDirectory : IsPluginDirectory config v p directory)
      (hManifest : findPluginManifest v directory = .error fault) :
      Contribution config v p "plugins"
        { issues := [⟨.directoryUnreadable, directory.toString, fault.message⟩] }
  | invalidPlugin {directory manifest : Path} {name : String} {fault : DocumentFault}
      (hDirectory : IsPluginDirectory config v p directory)
      (hManifest : findPluginManifest v directory = .ok (some manifest))
      (hLoad : loadPlugin v manifest = .error (.document name fault)) :
      Contribution config v p "plugins"
        { issues := [⟨.pluginManifestInvalid, manifest.toString, pluginFaultMessage name fault⟩] }
  | plugin {directory manifest : Path} {document : PluginDocument} {reference : Option Bool}
      (hDirectory : IsPluginDirectory config v p directory)
      (hManifest : findPluginManifest v directory = .ok (some manifest))
      (hLoad : loadPlugin v manifest = .ok document)
      (hReference :
        (p.plugins.reverse.find? (·.name == directory.name)).map (·.enabled) = reference) :
      Contribution config v p "plugins"
        { plugins := [pluginOf config.directories.source directory reference document] }

/-- What ends a scan in the scanner of a name: the walk over the files of a module, or over the content,
is stopped; the directory of plugins cannot be looked up; or the manifest of a plugin goes beyond a limit
of its reader. -/
inductive EndsScan (config : Config) (v : Volume) (p : Project) : String → ScanStop → Prop where
  | sources {m : ModuleRef} {path : String} {stop : ScanStop}
      (hModule : m ∈ p.modules) (hPath : m.path = some path) (hSome : path ≠ "")
      (hWalk : (Source.moduleWalk config (Path.ofString p.root) path).StoppedBy v stop) :
      EndsScan config v p "source" stop
  | content {stop : ScanStop} (hWalk : (contentWalk config p).StoppedBy v stop) :
      EndsScan config v p "assets" stop
  | plugins {fault : FileFault} (hRoot : v.isDir (pluginRoot config p) = .error fault) :
      EndsScan config v p "plugins" (.unreachable fault)
  | plugin {directory manifest : Path} {e : Json.Excess}
      (hDirectory : IsPluginDirectory config v p directory)
      (hManifest : findPluginManifest v directory = .ok (some manifest))
      (hExceeds : DocumentExceeds v manifest e) :
      EndsScan config v p "plugins" (.excess e)

/-- The scan of a module with a path, if there is a worker: it holds what is met on the walk over its
files. -/
theorem scanModule_of_path {config : Config} (hWorkers : 0 < config.scan.maxWorkers) {v : Volume}
    {root : Path} {m : ModuleRef} {path : String} (hPath : m.path = some path) (hSome : path ≠ "") :
    Source.scanModule config v root m =
      (scanMet v (Source.moduleWalk config root path)).map
        (Source.moduleScan config v root m.name) := by
  unfold Source.scanModule
  rw [hPath]
  split
  · contradiction
  · simp_all
  · rename_i given hGiven
    cases hGiven
    simp only [if_neg (Nat.ne_of_gt hWorkers)]
    cases scanMet v (Source.moduleWalk config root path) <;> rfl

/-- The scan of a module ends only with the walk over its files. -/
theorem exists_path_of_scanModule {config : Config} (hWorkers : 0 < config.scan.maxWorkers)
    {v : Volume} {root : Path} {m : ModuleRef} {stop : ScanStop}
    (h : Source.scanModule config v root m = .error stop) :
    ∃ path, m.path = some path ∧ path ≠ "" ∧
      (Source.moduleWalk config root path).StoppedBy v stop := by
  cases hPath : m.path with
  | none =>
      simp only [Source.scanModule, hPath] at h
      cases h
  | some path =>
      by_cases hSome : path = ""
      · subst hSome
        simp only [Source.scanModule, hPath] at h
        cases h
      · rw [scanModule_of_path hWorkers hPath hSome, map_eq_error_iff] at h
        exact ⟨path, rfl, hSome, scanMet_eq_error_iff.mp h⟩

/-- The report on the source files holds the findings of each module. -/
theorem within_scanProject {config : Config} {v : Volume} {p : Project} {r : Report}
    (h : Source.scanProject config v p = .ok r) {m : ModuleRef} (hModule : m ∈ p.modules) :
    ∃ s, Source.scanModule config v (Path.ofString p.root) m = .ok s ∧
      s.findings.Within r.findings := by
  obtain ⟨scans, hScans, rfl⟩ := map_eq_ok_iff.mp h
  obtain ⟨s, hs, hScan⟩ := exists_mem_of_mapM hScans m hModule
  exact ⟨s, hScan, Findings.within_concat (List.mem_map_of_mem hs)⟩

/-- The findings of a module hold what each of its files gives. -/
theorem Source.ModuleScan.within_of_outcome {s : Source.ModuleScan} {o : Source.FileOutcome}
    (hOutcome : o ∈ s.outcomes) :
    Findings.Within
      { declarations := o.declarations, callables := o.callables, issues := o.issue?.toList }
      s.findings where
  declarations := fun _ hd => List.mem_flatMap.mpr ⟨o, hOutcome, hd⟩
  callables := fun _ hc => List.mem_flatMap.mpr ⟨o, hOutcome, hc⟩
  assets := List.nil_subset _
  plugins := List.nil_subset _
  issues := fun _ hi =>
    List.mem_append_right _ (List.mem_filterMap.mpr ⟨o, hOutcome, Option.mem_toList.mp hi⟩)

/-- The findings of a module hold an issue for each directory that could not be listed. -/
theorem Source.ModuleScan.within_of_unlisted {s : Source.ModuleScan} {fault : FileFault}
    (hUnlisted : fault ∈ s.unlisted) :
    Findings.Within { issues := [unlistedIssue fault] } s.findings where
  declarations := List.nil_subset _
  callables := List.nil_subset _
  assets := List.nil_subset _
  plugins := List.nil_subset _
  issues := by
    intro i hi
    rw [List.mem_singleton.mp hi]
    exact List.mem_append_left _ (List.mem_map_of_mem hUnlisted)

/-- If the source files have a report then the walk over the files of a module has met what it can meet, and
the report holds the findings of the module. -/
theorem within_of_module {config : Config} (hWorkers : 0 < config.scan.maxWorkers) {v : Volume}
    {p : Project} {r : Report} (h : Source.scanProject config v p = .ok r) {m : ModuleRef}
    {path : String} (hModule : m ∈ p.modules) (hPath : m.path = some path) (hSome : path ≠ "") :
    (Source.moduleScan config v (Path.ofString p.root) m.name
      ((Source.moduleWalk config (Path.ofString p.root) path).met v)).findings.Within r.findings := by
  obtain ⟨s, hScan, hWithin⟩ := within_scanProject h hModule
  rw [scanModule_of_path hWorkers hPath hSome] at hScan
  obtain ⟨ms, hMet, rfl⟩ := map_eq_ok_iff.mp hScan
  rwa [eq_met_of_scanMet hMet] at hWithin

/-- Whatever the file is, the report on the source files holds what it gives. -/
theorem within_of_sourceFile {config : Config} (hWorkers : 0 < config.scan.maxWorkers) {v : Volume}
    {p : Project} {r : Report} (h : Source.scanProject config v p = .ok r) {m : ModuleRef}
    {path relative : String} {file : Path} (hModule : m ∈ p.modules) (hPath : m.path = some path)
    (hSome : path ≠ "")
    (hMet : .file file relative ∈ (Source.moduleWalk config (Path.ofString p.root) path).met v)
    {o : Source.FileOutcome}
    (hOutcome :
      Source.fileOutcome config.scan.windows v (Path.ofString p.root) m.name file = o) :
    Findings.Within
      { declarations := o.declarations, callables := o.callables, issues := o.issue?.toList }
      r.findings := by
  refine (Source.ModuleScan.within_of_outcome ?_).trans
    (within_of_module hWorkers h hModule hPath hSome)
  exact List.mem_map.mpr ⟨(file, relative), mem_filesMet.mpr hMet, hOutcome⟩

/-- The report on the content files holds what each thing met there gives. -/
theorem within_catalogAssets {config : Config} {v : Volume} {p : Project} {r : Report}
    (h : catalogAssets config v p = .ok r) {met : Met} (hMet : met ∈ (contentWalk config p).met v)
    {o : AssetOutcome} (hOutcome : assetOutcome v met = o) :
    Findings.Within { assets := o.asset?.toList, issues := o.issue?.toList } r.findings := by
  obtain ⟨ms, hRun, rfl⟩ := map_eq_ok_iff.mp h
  rw [eq_met_of_scanMet hRun]
  constructor
  · exact List.nil_subset _
  · exact List.nil_subset _
  · exact fun _ ha => List.mem_filterMap.mpr
      ⟨o, List.mem_map.mpr ⟨met, hMet, hOutcome⟩, Option.mem_toList.mp ha⟩
  · exact List.nil_subset _
  · exact fun _ hi => List.mem_filterMap.mpr
      ⟨o, List.mem_map.mpr ⟨met, hMet, hOutcome⟩, Option.mem_toList.mp hi⟩

/-- The report on the plugins holds what each directory of plugins gives. -/
theorem within_scanPlugins {config : Config} {v : Volume} {p : Project} {r : Report}
    (h : scanPlugins config v p = .ok r) {directory : Path}
    (hDirectory : IsPluginDirectory config v p directory) :
    ∃ o, pluginOutcome v config.directories.source p.plugins directory = .ok o ∧
      Findings.Within { plugins := o.plugin?.toList, issues := o.issue?.toList } r.findings := by
  obtain ⟨-, directories, hList, hMem⟩ := hDirectory
  unfold scanPlugins at h
  simp only [hList] at h
  obtain ⟨outcomes, hOutcomes, rfl⟩ := map_eq_ok_iff.mp h
  obtain ⟨o, ho, hOutcome⟩ := exists_mem_of_mapM hOutcomes directory hMem
  refine ⟨o, hOutcome, ?_⟩
  constructor
  · exact List.nil_subset _
  · exact List.nil_subset _
  · exact List.nil_subset _
  · exact fun _ ha => List.mem_filterMap.mpr ⟨o, ho, Option.mem_toList.mp ha⟩
  · exact fun _ hi => List.mem_filterMap.mpr ⟨o, ho, Option.mem_toList.mp hi⟩

/-- Looking at a directory of plugins ends a scan exactly if its manifest goes beyond a limit of the
reader. -/
theorem pluginOutcome_eq_error_iff {v : Volume} {sources : String} {references : List PluginRef}
    {directory : Path} {stop : ScanStop} :
    pluginOutcome v sources references directory = .error stop ↔
      ∃ manifest e, findPluginManifest v directory = .ok (some manifest) ∧
        DocumentExceeds v manifest e ∧ stop = .excess e := by
  constructor
  · intro h
    unfold pluginOutcome at h
    cases hManifest : findPluginManifest v directory with
    | error fault => simp [hManifest] at h
    | ok found =>
        cases found with
        | none => simp [hManifest] at h
        | some manifest =>
            cases hLoad : loadPlugin v manifest with
            | ok document => simp [hManifest, hLoad] at h
            | error fault =>
                cases fault with
                | document name fault => simp [hManifest, hLoad] at h
                | excess e =>
                    simp only [hManifest, hLoad, Except.error.injEq] at h
                    exact ⟨manifest, e, rfl, loadDocument_eq_excess_iff.mp hLoad, h.symm⟩
  · rintro ⟨manifest, e, hManifest, hExceeds, rfl⟩
    have hLoad : loadPlugin v manifest = .error (.excess e) := loadDocument_eq_excess_iff.mpr hExceeds
    simp only [pluginOutcome, hManifest, hLoad]

/-- Each contribution reaches the report of its scanner, which runs on the project. -/
theorem Contribution.within_report {config : Config} (hWorkers : 0 < config.scan.maxWorkers)
    {v : Volume} {p : Project} {name : String} {f : Findings}
    (hItem : Contribution config v p name f) :
    ∃ s, (name, s) ∈ builtins config ∧ s.supports v p = .ok true ∧
      ∀ r, s.analyze v p = .ok r → f.Within r.findings := by
  have hModules {m : ModuleRef} (hModule : m ∈ p.modules) :
      (Source.scanner config).supports v p = .ok true := by
    cases hNone : p.modules with
    | nil => simp [hNone] at hModule
    | cons a as => simp only [Source.scanner, hNone, List.isEmpty_cons, Bool.not_false]
  have hContents (hContent : v.isDir (contentRoot config p) = .ok true) :
      (assetScanner config).supports v p = .ok true :=
    mapError_eq_ok_iff.mpr hContent
  have hPlugins (hRoot : v.isDir (pluginRoot config p) = .ok true) :
      (pluginScanner config).supports v p = .ok true :=
    mapError_eq_ok_iff.mpr hRoot
  cases hItem with
  | unlistedSources hModule hPath hSome hMet =>
      refine ⟨Source.scanner config, by simp [builtins], hModules hModule, fun r hReport => ?_⟩
      exact (Source.ModuleScan.within_of_unlisted (mem_unlistedMet.mpr hMet)).trans
        (within_of_module hWorkers hReport hModule hPath hSome)
  | unreadSource hModule hPath hSome hMet hRead =>
      refine ⟨Source.scanner config, by simp [builtins], hModules hModule, fun r hReport => ?_⟩
      exact within_of_sourceFile hWorkers hReport hModule hPath hSome hMet
        (o := .unreadable _ _) (by simp only [Source.fileOutcome, hRead])
  | binarySource hModule hPath hSome hMet hRead hZero =>
      refine ⟨Source.scanner config, by simp [builtins], hModules hModule, fun r hReport => ?_⟩
      exact within_of_sourceFile hWorkers hReport hModule hPath hSome hMet
        (o := .notText _) (by simp [Source.fileOutcome, hRead, hZero])
  | source hModule hPath hSome hMet hRead hText hFound =>
      refine ⟨Source.scanner config, by simp [builtins], hModules hModule, fun r hReport => ?_⟩
      exact within_of_sourceFile hWorkers hReport hModule hPath hSome hMet
        (o := .classified _ _)
        (by simp [Source.fileOutcome, hRead, hText, hFound, Source.declarationsOf,
          Source.callablesOf])
  | unlistedContent hContent hMet =>
      refine ⟨assetScanner config, by simp [builtins], hContents hContent, fun r hReport => ?_⟩
      exact within_catalogAssets hReport hMet (o := .unlisted _) rfl
  | unsizedContent hContent hMet hSize =>
      refine ⟨assetScanner config, by simp [builtins], hContents hContent, fun r hReport => ?_⟩
      exact within_catalogAssets hReport hMet (o := .unreadable _ _)
        (by simp only [assetOutcome, hSize])
  | content hContent hMet hSize =>
      refine ⟨assetScanner config, by simp [builtins], hContents hContent, fun r hReport => ?_⟩
      exact within_catalogAssets hReport hMet (o := .cataloged _) (by simp only [assetOutcome, hSize])
  | unlistedPlugins hRoot hList =>
      refine ⟨pluginScanner config, by simp [builtins], hPlugins hRoot, fun r hReport => ?_⟩
      have hScan : scanPlugins config v p = .ok r := hReport
      simp only [scanPlugins, hList] at hScan
      cases hScan
      exact .refl _
  | unlistedPlugin hDirectory hManifest =>
      refine ⟨pluginScanner config, by simp [builtins], hPlugins hDirectory.1, fun r hReport => ?_⟩
      obtain ⟨o, hOutcome, hWithin⟩ := within_scanPlugins hReport hDirectory
      simp only [pluginOutcome, hManifest, Except.ok.injEq] at hOutcome
      subst hOutcome
      exact hWithin
  | invalidPlugin hDirectory hManifest hLoad =>
      refine ⟨pluginScanner config, by simp [builtins], hPlugins hDirectory.1, fun r hReport => ?_⟩
      obtain ⟨o, hOutcome, hWithin⟩ := within_scanPlugins hReport hDirectory
      simp only [pluginOutcome, hManifest, hLoad, Except.ok.injEq] at hOutcome
      subst hOutcome
      exact hWithin
  | plugin hDirectory hManifest hLoad hReference =>
      refine ⟨pluginScanner config, by simp [builtins], hPlugins hDirectory.1, fun r hReport => ?_⟩
      obtain ⟨o, hOutcome, hWithin⟩ := within_scanPlugins hReport hDirectory
      simp only [pluginOutcome, hManifest, hLoad, hReference, Except.ok.injEq] at hOutcome
      subst hOutcome
      exact hWithin

/-- The scanner ends the scan of a project: it cannot tell whether it runs, or it runs and gives no
report. -/
inductive Scanner.FailsWith (v : Volume) (p : Project) (s : Scanner) : ScanStop → Prop where
  | support {stop : ScanStop} (hSupports : s.supports v p = .error stop) : FailsWith v p s stop
  | analysis {stop : ScanStop} (hSupports : s.supports v p = .ok true)
      (hAnalyze : s.analyze v p = .error stop) : FailsWith v p s stop

/-- What a built-in scanner fails with is what ends a scan in it. -/
theorem EndsScan.of_failsWith {config : Config} (hWorkers : 0 < config.scan.maxWorkers) {v : Volume}
    {p : Project} {name : String} {s : Scanner} {stop : ScanStop} (hMem : (name, s) ∈ builtins config)
    (h : s.FailsWith v p stop) : EndsScan config v p name stop := by
  simp only [builtins, List.mem_cons, Prod.mk.injEq, List.not_mem_nil, or_false] at hMem
  rcases hMem with ⟨rfl, rfl⟩ | ⟨rfl, rfl⟩ | ⟨rfl, rfl⟩
  · cases h with
    | support hSupports => cases hSupports
    | analysis _ hAnalyze =>
        obtain ⟨m, hModule, hStop⟩ := exists_error_of_mapM (map_eq_error_iff.mp hAnalyze)
        obtain ⟨path, hPath, hSome, hWalk⟩ := exists_path_of_scanModule hWorkers hStop
        exact .sources hModule hPath hSome hWalk
  · cases h with
    | support hSupports =>
        obtain ⟨fault, hRoot, rfl⟩ := mapError_eq_error_iff.mp hSupports
        exact .content (.lost hRoot)
    | analysis _ hAnalyze =>
        exact .content (scanMet_eq_error_iff.mp (map_eq_error_iff.mp hAnalyze))
  · cases h with
    | support hSupports =>
        obtain ⟨fault, hRoot, rfl⟩ := mapError_eq_error_iff.mp hSupports
        exact .plugins hRoot
    | analysis hSupports hAnalyze =>
        have hScan : scanPlugins config v p = .error stop := hAnalyze
        unfold scanPlugins at hScan
        cases hList : subdirectories v (pluginRoot config p) with
        | error fault => simp [hList] at hScan
        | ok directories =>
            simp only [hList] at hScan
            obtain ⟨directory, hMem, hOutcome⟩ := exists_error_of_mapM (map_eq_error_iff.mp hScan)
            obtain ⟨manifest, e, hManifest, hExceeds, rfl⟩ := pluginOutcome_eq_error_iff.mp hOutcome
            exact .plugin ⟨mapError_eq_ok_iff.mp hSupports, directories, hList, hMem⟩ hManifest hExceeds

/-- What ends a scan in a built-in scanner makes it fail. -/
theorem EndsScan.exists_failsWith {config : Config} (hWorkers : 0 < config.scan.maxWorkers)
    {v : Volume} {p : Project} {name : String} {stop : ScanStop} (h : EndsScan config v p name stop) :
    ∃ s, (name, s) ∈ builtins config ∧ ∃ found, s.FailsWith v p found := by
  cases h with
  | @sources m path _ hModule hPath hSome hWalk =>
      refine ⟨Source.scanner config, by simp [builtins], ?_⟩
      have hSupports : (Source.scanner config).supports v p = .ok true := by
        cases hNone : p.modules with
        | nil => simp [hNone] at hModule
        | cons a as => simp only [Source.scanner, hNone, List.isEmpty_cons, Bool.not_false]
      cases hReport : Source.scanProject config v p with
      | error found => exact ⟨found, .analysis hSupports hReport⟩
      | ok r =>
          obtain ⟨s, hScan, -⟩ := within_scanProject hReport hModule
          rw [scanModule_of_path hWorkers hPath hSome, scanMet_eq_error_iff.mpr hWalk] at hScan
          cases hScan
  | content hWalk =>
      refine ⟨assetScanner config, by simp [builtins], ?_⟩
      cases hSupports : (assetScanner config).supports v p with
      | error found => exact ⟨found, .support hSupports⟩
      | ok isDir =>
          have hRoot : v.isDir (contentWalk config p).root = .ok isDir :=
            mapError_eq_ok_iff.mp hSupports
          have hStop : catalogAssets config v p = .error stop :=
            map_eq_error_iff.mpr (scanMet_eq_error_iff.mpr hWalk)
          cases isDir with
          | true => exact ⟨stop, .analysis hSupports hStop⟩
          | false =>
              have hNone : scanMet v (contentWalk config p) = .ok [] := by
                rw [scanMet, Walk.run_of_not_isDir hRoot]
                rfl
              rw [scanMet_eq_error_iff.mpr hWalk] at hNone
              cases hNone
  | plugins hRoot =>
      exact ⟨pluginScanner config, by simp [builtins], _,
        .support (mapError_eq_error_iff.mpr ⟨_, hRoot, rfl⟩)⟩
  | plugin hDirectory hManifest hExceeds =>
      refine ⟨pluginScanner config, by simp [builtins], ?_⟩
      have hSupports : (pluginScanner config).supports v p = .ok true :=
        mapError_eq_ok_iff.mpr hDirectory.1
      cases hReport : scanPlugins config v p with
      | error found => exact ⟨found, .analysis hSupports hReport⟩
      | ok r =>
          obtain ⟨o, hOutcome, -⟩ := within_scanPlugins hReport hDirectory
          have hError : pluginOutcome v config.directories.source p.plugins _ = .error (.excess _) :=
            pluginOutcome_eq_error_iff.mpr ⟨_, _, hManifest, hExceeds, rfl⟩
          rw [hOutcome] at hError
          cases hError

/-- The built-in scanners that the settings ask for. -/
def usedScanners (config : Config) : List Scanner :=
  ((builtins config).filter fun b => config.uses b.1).map (·.2)

theorem mem_usedScanners {config : Config} {s : Scanner} :
    s ∈ usedScanners config ↔ ∃ name, (name, s) ∈ builtins config ∧ config.uses name = true := by
  simp only [usedScanners, List.mem_filter, List.mem_map, Prod.exists]
  constructor
  · rintro ⟨name, t, ⟨hMem, hUses⟩, rfl⟩
    exact ⟨name, hMem, hUses⟩
  · rintro ⟨name, hMem, hUses⟩
    exact ⟨name, s, ⟨hMem, hUses⟩, rfl⟩

/-- The scanner is known to run on a project. -/
def Scanner.runsOn (v : Volume) (p : Project) (s : Scanner) : Bool :=
  (s.supports v p).toOption == some true

theorem Scanner.runsOn_iff {v : Volume} {p : Project} {s : Scanner} :
    s.runsOn v p = true ↔ s.supports v p = .ok true := by
  cases hSupports : s.supports v p <;> simp [Scanner.runsOn, hSupports, Except.toOption]

/-- The built-in scanners that run on a project. -/
def runningScanners (config : Config) (v : Volume) (p : Project) : List Scanner :=
  (usedScanners config).filter (Scanner.runsOn v p)

theorem mem_runningScanners {config : Config} {v : Volume} {p : Project} {s : Scanner} :
    s ∈ runningScanners config v p ↔
      ∃ name, (name, s) ∈ builtins config ∧ config.uses name = true ∧ s.supports v p = .ok true := by
  rw [runningScanners, List.mem_filter, mem_usedScanners, Scanner.runsOn_iff]
  constructor
  · rintro ⟨⟨name, hMem, hUses⟩, hSupports⟩
    exact ⟨name, hMem, hUses, hSupports⟩
  · rintro ⟨name, hMem, hUses, hSupports⟩
    exact ⟨⟨name, hMem, hUses⟩, hSupports⟩

/-- The run of the built-in scanners that the settings ask for. -/
def runBuiltins (config : Config) (v : Volume) (p : Project) : Except ScanStop Report :=
  ((usedScanners config).filterM (Scanner.supports · v p)).bind (runScanners v p)

/-- With settings that name no scanners but the built-in ones, the report is that of their run. -/
theorem reportOn_of_known {v : Volume} {o : Overrides} {config : Config} {p : Project}
    (hBuiltin : o.scanners = none)
    (hKnown : ∀ n ∈ config.scanners.enabled, Text.lower n ∈ builtinNames) :
    reportOn v o config p = (runBuiltins config v p).mapError .stopped := by
  have hScanners : o.scannersFor config = .ok (usedScanners config) := by
    simp only [Overrides.scannersFor, hBuiltin]
    exact enabledScanners_eq_ok hKnown
  simp only [reportOn, hScanners, runBuiltins]

/-- Behind settings and manifest, a scan is the run of the built-in scanners, and the index over their
report. -/
theorem scan_outcome_of_openProject {v : Volume} {root : Path} {config : Config} {p : Project}
    (hOpen : openProject v {} root = .ok (config, p))
    (hKnown : ∀ n ∈ config.scanners.enabled, Text.lower n ∈ builtinNames) :
    (scan v {} root).outcome =
      ((runBuiltins config v p).map fun report => Index.build p report.findings).mapError
        .stopped := by
  simp only [scan, hOpen, reportOn_of_known (o := {}) rfl hKnown]
  cases runBuiltins config v p <;> rfl

/-- Settings that a scan found leave it at least one worker. -/
theorem maxWorkers_pos_of_openProject {v : Volume} {root : Path} {config : Config} {p : Project}
    (hOpen : openProject v {} root = .ok (config, p)) : 0 < config.scan.maxWorkers := by
  unfold openProject at hOpen
  cases hLoad : loadConfig v root with
  | error fault => simp [Overrides.configFor, hLoad, Except.map] at hOpen
  | ok loaded =>
      obtain ⟨place, read⟩ := loaded
      simp only [Overrides.configFor, hLoad, Except.map] at hOpen
      split at hOpen
      · cases hOpen
      · cases hOpen
        exact (isNormal_of_loadConfig hLoad).workers

/-- A line for the journal changes no findings. -/
theorem findings_of_titledReport {v : Volume} {p : Project} {s : Scanner} {titled : Report}
    (h : titledReport v p s = .ok titled) :
    ∃ r, s.analyze v p = .ok r ∧ titled.findings = r.findings := by
  obtain ⟨r, hAnalyze, rfl⟩ := map_eq_ok_iff.mp h
  exact ⟨r, hAnalyze, rfl⟩

/-- The reports of scanners are all in what they give together. -/
theorem within_runScanners {v : Volume} {p : Project} {scanners : List Scanner} {report : Report}
    (h : runScanners v p scanners = .ok report) {s : Scanner} (hScanner : s ∈ scanners) :
    ∃ r, s.analyze v p = .ok r ∧ r.findings.Within report.findings := by
  obtain ⟨reports, hReports, rfl⟩ := map_eq_ok_iff.mp h
  obtain ⟨titled, hMem, hTitled⟩ := exists_mem_of_mapM hReports s hScanner
  obtain ⟨r, hAnalyze, hSame⟩ := findings_of_titledReport hTitled
  refine ⟨r, hAnalyze, ?_⟩
  rw [← hSame]
  exact Findings.within_concat (List.mem_map_of_mem hMem)

/-- If scanners end without a report then one of them does. -/
theorem exists_error_of_runScanners {v : Volume} {p : Project} {scanners : List Scanner}
    {stop : ScanStop} (h : runScanners v p scanners = .error stop) :
    ∃ s ∈ scanners, s.analyze v p = .error stop := by
  obtain ⟨s, hMem, hTitled⟩ := exists_error_of_mapM (map_eq_error_iff.mp h)
  exact ⟨s, hMem, map_eq_error_iff.mp hTitled⟩

/-- A run with a report is that of the scanners that run; and all scanners could tell whether they do. -/
theorem runScanners_of_runBuiltins {config : Config} {v : Volume} {p : Project} {report : Report}
    (h : runBuiltins config v p = .ok report) :
    runScanners v p (runningScanners config v p) = .ok report ∧
      ∀ s ∈ usedScanners config, ∃ runs, s.supports v p = .ok runs := by
  obtain ⟨scanners, hSupports, hRun⟩ := bind_eq_ok_iff.mp h
  obtain ⟨-, hAll, -⟩ := sublist_of_filterM hSupports
  have hKeep : ∀ s ∈ usedScanners config, s.supports v p = .ok (s.runsOn v p) := by
    intro s hs
    obtain ⟨runs, hRuns⟩ := hAll s hs
    cases runs <;> simp [Scanner.runsOn, hRuns, Except.toOption]
  rw [filterM_eq_ok_filter hKeep] at hSupports
  cases hSupports
  exact ⟨hRun, hAll⟩

/-- If the run has no report then a scanner in it fails with that. -/
theorem exists_failsWith_of_runBuiltins {config : Config} {v : Volume} {p : Project}
    {stop : ScanStop} (h : runBuiltins config v p = .error stop) :
    ∃ s ∈ usedScanners config, s.FailsWith v p stop := by
  unfold runBuiltins at h
  cases hSupports : (usedScanners config).filterM (Scanner.supports · v p) with
  | error found =>
      rw [hSupports] at h
      cases h
      obtain ⟨s, hs, hFails⟩ := exists_error_of_filterM hSupports
      exact ⟨s, hs, .support hFails⟩
  | ok scanners =>
      rw [hSupports] at h
      obtain ⟨-, -, hMem⟩ := sublist_of_filterM hSupports
      obtain ⟨s, hs, hFails⟩ := exists_error_of_runScanners h
      obtain ⟨hUsed, hRuns⟩ := (hMem s).mp hs
      exact ⟨s, hUsed, .analysis hRuns hFails⟩

/-- If a scanner in it fails then the run has no report. -/
theorem not_failsWith_of_runBuiltins {config : Config} {v : Volume} {p : Project} {report : Report}
    (h : runBuiltins config v p = .ok report) {s : Scanner} (hs : s ∈ usedScanners config)
    {stop : ScanStop} : ¬s.FailsWith v p stop := by
  obtain ⟨hRun, hAll⟩ := runScanners_of_runBuiltins h
  intro hFails
  cases hFails with
  | support hSupports =>
      obtain ⟨runs, hRuns⟩ := hAll s hs
      rw [hSupports] at hRuns
      cases hRuns
  | analysis hSupports hAnalyze =>
      have hRunning : s ∈ runningScanners config v p :=
        List.mem_filter.mpr ⟨hs, Scanner.runsOn_iff.mpr hSupports⟩
      obtain ⟨r, hReport, -⟩ := within_runScanners hRun hRunning
      rw [hAnalyze] at hReport
      cases hReport

/-- The run of the built-in scanners ends without a report exactly at what ends a scan in one of those that
the settings ask for. -/
theorem runBuiltins_fails_iff {config : Config} (hWorkers : 0 < config.scan.maxWorkers) {v : Volume}
    {p : Project} :
    (∃ stop, runBuiltins config v p = .error stop) ↔
      ∃ name stop, config.uses name = true ∧ EndsScan config v p name stop := by
  constructor
  · rintro ⟨stop, hRun⟩
    obtain ⟨s, hs, hFails⟩ := exists_failsWith_of_runBuiltins hRun
    obtain ⟨name, hMem, hUses⟩ := mem_usedScanners.mp hs
    exact ⟨name, stop, hUses, .of_failsWith hWorkers hMem hFails⟩
  · rintro ⟨name, stop, hUses, hEnds⟩
    obtain ⟨s, hMem, found, hFails⟩ := hEnds.exists_failsWith hWorkers
    cases hRun : runBuiltins config v p with
    | error other => exact ⟨other, rfl⟩
    | ok report =>
        exact absurd hFails (not_failsWith_of_runBuiltins hRun (mem_usedScanners.mpr ⟨name, hMem, hUses⟩))

/-- Once settings and manifest are read, and the settings name no scanners but the built-in ones, a scan
gives an index exactly if nothing of the list ends it: of the scanners that the settings ask for, no walk
is stopped, the directory of plugins can be looked up, and the manifest of no plugin that is looked at
goes beyond a limit of its reader. It fails with nothing else. The index keeps what every single item
gives, its entities or its issue, whatever the other items are. -/
theorem scan_bestEffort {v : Volume} {root : Path} {config : Config} {p : Project}
    (hOpen : openProject v {} root = .ok (config, p))
    (hKnown : ∀ n ∈ config.scanners.enabled, Text.lower n ∈ builtinNames) :
    ((∃ index, (scan v {} root).outcome = .ok index) ↔
      ¬∃ name stop, config.uses name = true ∧ EndsScan config v p name stop) ∧
    (∀ fault, (scan v {} root).outcome = .error fault →
      ∃ name stop, config.uses name = true ∧ EndsScan config v p name stop ∧
        fault = .stopped stop) ∧
    (∀ index, (scan v {} root).outcome = .ok index →
      ∀ name f, config.uses name = true → Contribution config v p name f → index.Keeps f) := by
  have hWorkers := maxWorkers_pos_of_openProject hOpen
  rw [scan_outcome_of_openProject hOpen hKnown, ← runBuiltins_fails_iff hWorkers]
  cases hRun : runBuiltins config v p with
  | error stop =>
      refine ⟨?_, ?_, ?_⟩
      · constructor
        · rintro ⟨index, hIndex⟩
          cases hIndex
        · intro hNone
          exact absurd ⟨stop, rfl⟩ hNone
      · intro fault hFault
        cases hFault
        obtain ⟨s, hs, hFails⟩ := exists_failsWith_of_runBuiltins hRun
        obtain ⟨name, hMem, hUses⟩ := mem_usedScanners.mp hs
        exact ⟨name, stop, hUses, .of_failsWith hWorkers hMem hFails, rfl⟩
      · intro index hIndex
        cases hIndex
  | ok report =>
      refine ⟨?_, ?_, ?_⟩
      · constructor
        · rintro - ⟨stop, hStop⟩
          cases hStop
        · intro _
          exact ⟨_, rfl⟩
      · intro fault hFault
        cases hFault
      · intro index hIndex name f hUses hItem
        cases hIndex
        obtain ⟨s, hMem, hSupports, hWithin⟩ := hItem.within_report hWorkers
        have hRunning : s ∈ runningScanners config v p :=
          mem_runningScanners.mpr ⟨name, hMem, hUses, hSupports⟩
        obtain ⟨r, hReport, hAll⟩ :=
          within_runScanners (runScanners_of_runBuiltins hRun).1 hRunning
        exact Index.keeps_build p ((hWithin r hReport).trans hAll)

/-- A file of nothing but digits is read as such. -/
theorem documentText_digits (n : Nat) :
    documentText (List.replicate n 49) = .ok (List.replicate n '1') := by
  have hDecode (start : Nat) : Text.decodeStrictFrom start 0 (List.replicate n 49) =
      .ok (List.replicate n '1') := by
    induction n generalizing start with
    | zero => rfl
    | succ k ih =>
        have hHead : Text.utf8Head 49 (List.replicate k 49) = .char '1' 1 := rfl
        rw [List.replicate_succ, List.replicate_succ, Text.decodeStrictFrom]
        simp [hHead, ih, Except.map]
  have hEnds : Text.unifyLineEnds (List.replicate n '1') = List.replicate n '1' := by
    apply Text.unifyLineEnds_eq_self
    intro hMem
    exact absurd (List.eq_of_mem_replicate hMem) (by decide)
  have hMark : Text.dropByteOrderMark (List.replicate n 49) = List.replicate n 49 := by
    cases n <;> rfl
  have hWhole : ¬(List.replicate n (49 : UInt8) = [0xEF] ∨
      List.replicate n (49 : UInt8) = [0xEF, 0xBB]) := by
    cases n <;> simp [List.replicate_succ]
  rw [documentText, if_neg (by simpa using hWhole), hMark, Text.decodeStrict, hDecode]
  simp [Except.map, hEnds]

/-- A project with one plugin, whose manifest has the given bytes. -/
def projectWithPlugin (manifest : List UInt8) : Volume where
  root := .dir [("MyGame", .dir
    [("MyGame.uproject", .file (.bytes [123, 125]) false),
      ("Plugins", .dir
        [("Big", .dir [("Big.uplugin", .file (.bytes manifest) false)] false)] false)] false)] false

/-- What is known of that project from its own manifest, which is empty. -/
def emptyProject : Project where
  root := "/MyGame"
  name := "MyGame"
  manifestPath := "/MyGame/MyGame.uproject"
  engineAssociation := ""
  modules := []
  plugins := []
  targetPlatforms := ["Windows"]
  buildConfigurations := [⟨"Windows_Development", "Windows", "Development"⟩,
    ⟨"Windows_Shipping", "Windows", "Shipping"⟩, ⟨"Windows_DebugGame", "Windows", "DebugGame"⟩]

/-- With a number of 4301 digits for the manifest of a plugin there is no index. With a manifest that is
no document there is one, and it holds the issue of the plugin. -/
theorem scan_projectWithPlugin :
    let root : Path := ⟨.root, ["MyGame"]⟩
    let long := projectWithPlugin (List.replicate 4301 49)
    let broken := projectWithPlugin [123]
    (openProject long {} root = .ok ({}, emptyProject) ∧
      ¬∃ index, (scan long {} root).outcome = .ok index) ∧
    (openProject broken {} root = .ok ({}, emptyProject) ∧
      ∃ index, (scan broken {} root).outcome = .ok index ∧
        ⟨.pluginManifestInvalid, "/MyGame/Plugins/Big/Big.uplugin", "Failed to parse Big.uplugin: " ++
          "Expecting property name enclosed in double quotes: line 1 column 2 (char 1)"⟩ ∈
            index.issues) := by
  intro root long broken
  let directory := root.descend ["Plugins", "Big"]
  let manifest := directory.child "Big.uplugin"
  have hNone : ∀ n ∈ ({} : Config).scanners.enabled, Text.lower n ∈ builtinNames := by
    intro n hn
    cases hn
  have hLong : openProject long {} root = .ok ({}, emptyProject) := by decide +kernel
  have hBroken : openProject broken {} root = .ok ({}, emptyProject) := by decide +kernel
  refine ⟨⟨hLong, ?_⟩, hBroken, ?_⟩
  · have hDirectory : IsPluginDirectory {} long emptyProject directory :=
      ⟨by decide +kernel, [directory], by decide +kernel, by simp⟩
    have hManifest : findPluginManifest long directory = .ok (some manifest) := by
      decide +kernel
    have hPlace : long.locate manifest =
        .ok ["MyGame", "Plugins", "Big", "Big.uplugin"] := by
      decide +kernel
    have hRead : long.read manifest = .ok (List.replicate 4301 49) := by
      simp only [Volume.read, Volume.find_of_locate hPlace (by rfl)]
      rfl
    have hParse : Json.parse (long.host.room .text manifest) (List.replicate 4301 '1') =
        .error (.excess (.integerTooLong 4301)) :=
      Json.parse_digits (by decide)
    rw [(scan_bestEffort hLong hNone).1, not_not]
    exact ⟨"plugins", _, rfl, .plugin hDirectory hManifest
      ⟨_, _, hRead, documentText_digits 4301, hParse, Json.shownBy_of_parse hParse⟩⟩
  · have hDirectory : IsPluginDirectory {} broken emptyProject directory :=
      ⟨by decide +kernel, [directory], by decide +kernel, by simp⟩
    have hManifest : findPluginManifest broken directory = .ok (some manifest) := by
      decide +kernel
    have hLoad : loadPlugin broken manifest =
        .error (.document "Big.uplugin" (.malformed .propertyName 1 2 1)) := by
      decide +kernel
    have hItem := Contribution.invalidPlugin hDirectory hManifest hLoad
    have hIndex : (scan broken {} root).outcome.toOption.isSome = true := by decide +kernel
    cases hOutcome : (scan broken {} root).outcome with
    | error fault =>
        rw [hOutcome] at hIndex
        cases hIndex
    | ok index =>
        refine ⟨index, rfl, ?_⟩
        have hKeeps := (scan_bestEffort hBroken hNone).2.2 index hOutcome "plugins" _ rfl hItem
        exact hKeeps.issues _ (List.mem_singleton_self _)

end ProjectAtlas
