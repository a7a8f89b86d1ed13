import ProjectAtlas.Asset.Catalog
import ProjectAtlas.Proofs.Files.PathText
import ProjectAtlas.Proofs.Manifest.Faults
import ProjectAtlas.Proofs.Manifest.Names
import ProjectAtlas.Source.Scan

/-!
The check of a project's layout beside the reader of its manifest and the scanners.

The check works on the document and on paths; the others work on the project that was made of the
document, in which paths are texts. They say the same because every path in question is named by its
own text. Where a directory that is to be there cannot be looked up, the check has nothing to say.
-/

namespace ProjectAtlas

/-- The path leads to no directory, and to nothing that cannot be looked up. -/
def Volume.lacksDir (v : Volume) (p : Path) : Bool :=
  (v.isDir p).toOption == some false

/-- The module has no directory. -/
def ModuleRef.isMissing (v : Volume) (m : ModuleRef) : Bool :=
  m.path.all fun path => v.lacksDir (Path.ofString path)

/-- The directories that the description of a project calls for, with those of its sources and content in
front. -/
def describedDirectories (config : Config) (p : Project) : List Path :=
  [(Path.ofString p.root).child config.directories.source, contentRoot config p] ++
    p.modules.filterMap fun m => m.path.map Path.ofString

/-- What the description of a project and the scanner of its content say about its layout. -/
def describedIssues (config : Config) (v : Volume) (p : Project) : List String :=
  (if p.modules.isEmpty then [s!"No modules defined in {(Path.ofString p.manifestPath).name}"]
    else []) ++
    (if v.lacksDir ((Path.ofString p.root).child config.directories.source) then
      [s!"{config.directories.source} directory not found"] else []) ++
    (if ((assetScanner config).supports v p).toOption = some false then
      [s!"{config.directories.content} directory not found"] else []) ++
    (p.modules.filter fun m => m.isMissing v).map fun m => s!"Module directory not found: {m.name}"

variable {v : Volume}

theorem isProper_of_findManifest (hTree : v.root.WellFormed) {root manifest : Path}
    (hRoot : root.IsProper) (h : findManifest v root = .ok manifest) : manifest.IsProper := by
  cases hFiles : filesWithSuffix v root manifestSuffix with
  | error fault => simp [findManifest, hFiles] at h
  | ok names =>
      have hNames := isEntryName_of_namesPassing hTree hFiles
      rcases names with _ | ⟨name, _ | ⟨other, rest⟩⟩
      · simp [findManifest, hFiles] at h
      · simp only [findManifest, hFiles, Except.ok.injEq] at h
        subst h
        exact hRoot.entry (hNames name (by simp)).isName
      · simp [findManifest, hFiles] at h

theorem findManifest_of_readManifest {root manifest : Path} {document : ProjectDocument}
    (h : readManifest v root = .ok (manifest, document)) : findManifest v root = .ok manifest := by
  cases hFound : findManifest v root with
  | error fault => simp [readManifest, hFound] at h
  | ok found =>
      simp only [readManifest, hFound] at h
      split at h
      · cases h
      · cases h
      · cases h
        rfl

section Project

variable (config : Config) {root manifest : Path} (hRoot : root.IsProper) (document : ProjectDocument)

include hRoot

/-- The description of a project calls for the directories that its manifest names. -/
theorem describedDirectories_projectOf :
    describedDirectories config (projectOf config.directories root manifest document) =
      (layoutChecks config.directories root document).map (·.1) := by
  have hModule (d : ModuleDocument) :
      Path.ofString ((root.child config.directories.source).child d.name).toString =
        (root.child config.directories.source).child d.name :=
    Path.ofString_toString ((hRoot.child config.directories.source).child d.name)
  simp [describedDirectories, layoutChecks, projectOf, contentRoot, moduleRefs, List.filterMap_map,
    Function.comp_def, hModule, Path.ofString_toString hRoot]

theorem lacksDir_contentRoot :
    ((assetScanner config).supports v (projectOf config.directories root manifest document)).toOption =
        some false ↔
      v.lacksDir (root.child config.directories.content) = true := by
  have hContent : contentRoot config (projectOf config.directories root manifest document) =
      root.child config.directories.content := by
    simp only [contentRoot, projectOf, Path.ofString_toString hRoot]
  show ((v.isDir (contentRoot config _)).mapError ScanStop.unreachable).toOption = some false ↔ _
  rw [hContent, Volume.lacksDir]
  cases v.isDir (root.child config.directories.content) <;> simp [Except.mapError, Except.toOption]

/-- A module of a project is missing exactly if the check does not find its directory. -/
theorem missing_modules :
    ((projectOf config.directories root manifest document).modules.filter fun m =>
        m.isMissing v).map (fun m => s!"Module directory not found: {m.name}") =
      document.modules.flatMap fun d =>
        if v.lacksDir ((root.child config.directories.source).child d.name) then
          [s!"Module directory not found: {d.name}"] else [] := by
  have hModule (d : ModuleDocument) :
      Path.ofString ((root.child config.directories.source).child d.name).toString =
        (root.child config.directories.source).child d.name :=
    Path.ofString_toString ((hRoot.child config.directories.source).child d.name)
  show ((moduleRefs document.modules _).filter _).map _ = _
  induction document.modules with
  | nil => rfl
  | cons d ds ih =>
      rw [List.flatMap_cons, ← ih]
      simp only [moduleRefs, List.map_cons, List.filter_cons, ModuleRef.isMissing, Option.all_some,
        hModule]
      cases v.lacksDir ((root.child config.directories.source).child d.name) <;> rfl

/-- If all directories that the description of a project calls for can be looked up, the check finds in the
document what the description says. -/
theorem layoutIssues_eq_ok (hManifest : manifest.IsProper)
    (hAll : ∀ p ∈ describedDirectories config (projectOf config.directories root manifest document),
      ∃ isDir, v.isDir p = .ok isDir) :
    layoutIssues v config.directories root manifest document =
      .ok (describedIssues config v (projectOf config.directories root manifest document)) := by
  rw [describedDirectories_projectOf config hRoot document] at hAll
  have hEach : ∀ c ∈ layoutChecks config.directories root document,
      absenceLines v c.1 c.2 = .ok (if v.lacksDir c.1 then [c.2] else []) := by
    intro c hc
    obtain ⟨isDir, hDir⟩ := hAll c.1 (List.mem_map_of_mem hc)
    cases isDir <;> simp [absenceLines, Volume.lacksDir, hDir, Except.map, Except.toOption]
  have hNone : (moduleRefs document.modules (root.child config.directories.source)).isEmpty =
      document.modules.isEmpty := by
    simp [moduleRefs]
  have hModules : ((projectOf config.directories root manifest document).modules.filter fun m =>
      m.isMissing v).map (fun m => s!"Module directory not found: {m.name}") = _ :=
    missing_modules config hRoot document
  rw [layoutIssues, mapM_eq_ok_map hEach]
  simp only [Except.map, describedIssues, hModules, lacksDir_contentRoot config hRoot document]
  simp [layoutChecks, projectOf, hNone, List.flatMap_def, Function.comp_def,
    Path.ofString_toString hManifest, Path.ofString_toString hRoot]

end Project

/-- A module without a directory has no findings, and to scan it takes no more than a worker. -/
theorem scanModule_of_isMissing {m : ModuleRef} (hMissing : m.isMissing v = true) (config : Config)
    (root : Path) :
    (0 < config.scan.maxWorkers → ∃ s, Source.scanModule config v root m = .ok s) ∧
      ∀ s, Source.scanModule config v root m = .ok s →
        s.findings.declarations = [] ∧ s.findings.callables = [] ∧ s.findings.issues = [] := by
  unfold Source.scanModule
  split
  case h_1 | h_2 =>
    refine ⟨fun _ => ⟨_, rfl⟩, fun s h => ?_⟩
    cases h
    exact ⟨rfl, rfl, rfl⟩
  case h_3 path _ hPath =>
    have hDir : v.isDir (Path.ofString path) = .ok false := by
      rw [ModuleRef.isMissing, hPath, Option.all_some, Volume.lacksDir] at hMissing
      cases hFound : v.isDir (Path.ofString path) <;> simp_all [Except.toOption]
    have hMet : scanMet v (Source.moduleWalk config root path) = .ok [] := by
      rw [scanMet, Walk.run_of_not_isDir hDir]
      rfl
    rw [hMet]
    constructor
    · intro hWorkers
      exact ⟨_, if_neg (by omega)⟩
    · intro s h
      simp only [Except.bind] at h
      split at h
      · cases h
      · cases h
        exact ⟨rfl, rfl, rfl⟩

/-- For every directory to start from, the check of the layout beside the reader of the manifest and the
scanners. A fault of the manifest is the one issue of the check; any other fault is its own. For a project
that can be read the issues are those that the description of the project calls for, and it is valid
exactly if there are none; but if a directory that the description calls for cannot be looked up, the
check ends there without a report. Each module that is missing gives nothing when it is scanned, with any
settings. -/
theorem checkLayout_agrees (config : Config) {v : Volume} (hPlaced : v.WellPlaced) {text : String}
    {root : Path} (hStart : v.startFrom (Path.ofString text) = .ok root)
    (hDir : v.isDir root = .ok true) :
    let project := readProject v config.directories (Path.ofString text)
    let check := checkLayout v config.directories (Path.ofString text)
    (∀ fault, project = .error (.manifest fault) → check = .ok ⟨false, [fault.message]⟩) ∧
      (∀ fault, (∀ m, fault ≠ .manifest m) → project = .error fault → check = .error fault) ∧
      ∀ p, project = .ok p →
        ((∀ place ∈ describedDirectories config p, ∃ isDir, v.isDir place = .ok isDir) →
          ∃ report, check = .ok report ∧ report.issues = describedIssues config v p ∧
            (report.valid = true ↔ report.issues = [])) ∧
        (∀ fault, LosesPath v (describedDirectories config p) fault →
          check = .error (.unreachable fault)) ∧
        ∀ m ∈ p.modules, m.isMissing v = true → ∀ settings : Config,
          (0 < settings.scan.maxWorkers → ∃ s, Source.scanModule settings v root m = .ok s) ∧
          ∀ s, Source.scanModule settings v root m = .ok s →
            s.findings.declarations = [] ∧ s.findings.callables = [] ∧ s.findings.issues = [] := by
  intro project check
  have hRoot := Volume.isProper_of_startFrom hPlaced (Path.isProper_ofString text) hStart
  have hProject : project = (readManifest v root).map fun d =>
      projectOf config.directories root d.1 d.2 := by
    simp only [project, readProject, hStart, hDir]
  have hCheck : check = layoutReport v config.directories root (readManifest v root) := by
    simp only [check, checkLayout, hStart]
  cases hRead : readManifest v root with
  | error fault =>
      rw [hRead] at hProject hCheck
      refine ⟨fun f hFault => ?_, fun f hOther hFault => ?_, fun p hOk => ?_⟩
      · cases hProject.symm.trans hFault
        exact hCheck
      · cases hProject.symm.trans hFault
        cases fault with
        | manifest m => exact absurd rfl (hOther m)
        | root f | unreachable f | excess e => exact hCheck
      · cases hProject.symm.trans hOk
  | ok d =>
      obtain ⟨manifest, document⟩ := d
      rw [hRead] at hProject hCheck
      refine ⟨fun f hFault => ?_, fun f _ hFault => ?_, fun p hOk => ⟨?_, ?_, ?_⟩⟩
      · cases hProject.symm.trans hFault
      · cases hProject.symm.trans hFault
      · cases hProject.symm.trans hOk
        intro hAll
        have hManifest := isProper_of_findManifest hPlaced.tree hRoot
          (findManifest_of_readManifest hRead)
        simp only [layoutReport, layoutIssues_eq_ok config hRoot document hManifest hAll] at hCheck
        exact ⟨_, hCheck, rfl, by simp⟩
      · cases hProject.symm.trans hOk
        intro fault hLoses
        rw [describedDirectories_projectOf config hRoot document] at hLoses
        simp only [layoutReport, layoutIssues_eq_error_iff.mpr hLoses] at hCheck
        exact hCheck
      · intro m _ hMissing settings
        exact scanModule_of_isMissing hMissing settings root

/-- The text of a manifest that lists modules of these names. -/
def manifestListing (names : List String) : String :=
  "\x7b\"Modules\":[" ++
    ",".intercalate (names.map fun n => "\x7b\"Name\":\"" ++ n ++ "\"\x7d") ++ "]\x7d"

/-- A project whose manifest lists modules of these names, with a directory of sources. -/
def projectListing (names : List String) (sources : Node) : Volume where
  root := .dir [("MyGame", .dir
    [("MyGame.uproject", .file (.bytes (manifestListing names).toUTF8.toList) false),
      ("Source", sources)] false)] false

/-- The statement on layouts, for a project with a module that has a directory, one that has none, and no
directory of content. -/
theorem checkLayout_projectListing :
    let v := projectListing ["Here", "Gone"] (.dir [("Here", .dir [] false)] false)
    let root : Path := ⟨.root, ["MyGame"]⟩
    v.WellPlaced ∧ v.startFrom (Path.ofString "/MyGame") = .ok root ∧ v.isDir root = .ok true ∧
      ∃ p, readProject v {} (Path.ofString "/MyGame") = .ok p ∧
        p.modules.map (·.name) = ["Here", "Gone"] ∧
        ∃ report, checkLayout v {} (Path.ofString "/MyGame") = .ok report ∧
          report.issues = ["Content directory not found", "Module directory not found: Gone"] ∧
          report.valid = false := by
  intro v root
  have hPlaced : v.WellPlaced :=
    ⟨by decide +kernel, by simp [v, projectListing], by simp [v, projectListing]⟩
  have hStart : v.startFrom (Path.ofString "/MyGame") = .ok root := by decide +kernel
  have hDir : v.isDir root = .ok true := by decide +kernel
  have hRead : (readProject v {} (Path.ofString "/MyGame")).toOption.any (fun p =>
      p.modules.map (·.name) = ["Here", "Gone"] &&
      describedIssues {} v p = ["Content directory not found", "Module directory not found: Gone"] &&
      (describedDirectories {} p).all fun q => (v.isDir q).toOption.isSome) = true := by
    decide +kernel
  cases hProject : readProject v {} (Path.ofString "/MyGame") with
  | error fault =>
      rw [hProject] at hRead
      cases hRead
  | ok p =>
      simp only [hProject, Except.toOption, Option.any_some, Bool.and_eq_true, decide_eq_true_eq,
        List.all_eq_true] at hRead
      obtain ⟨⟨hModules, hIssues⟩, hPlaces⟩ := hRead
      have hAll : ∀ place ∈ describedDirectories {} p, ∃ isDir, v.isDir place = .ok isDir := by
        intro place hPlace
        have hKnown := hPlaces place hPlace
        cases hFound : v.isDir place with
        | ok isDir => exact ⟨isDir, rfl⟩
        | error fault =>
            rw [hFound] at hKnown
            cases hKnown
      obtain ⟨-, -, hReports⟩ := checkLayout_agrees {} hPlaced hStart hDir
      obtain ⟨report, hReport, hSame, hValid⟩ := (hReports p hProject).1 hAll
      rw [hIssues] at hSame
      refine ⟨hPlaced, hStart, hDir, p, rfl, hModules, report, hReport, hSame, ?_⟩
      rw [Bool.eq_false_iff, Ne, hValid, hSame]
      simp

/-- Where the directory of sources cannot be passed through, the project is read, but the check says nothing
about its module: it ends without a report. -/
theorem sealedSources_unreported :
    let v := projectListing ["Here"] .sealed
    (readProject v {} (Path.ofString "/MyGame")).toOption.isSome = true ∧
      checkLayout v {} (Path.ofString "/MyGame") =
        .error (.unreachable ⟨.denied, "/MyGame/Source/Here"⟩) := by
  decide +kernel

end ProjectAtlas
