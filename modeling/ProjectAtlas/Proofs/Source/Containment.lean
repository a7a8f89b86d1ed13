import ProjectAtlas.Proofs.Files.Below
import ProjectAtlas.Proofs.Indexer.CrossReference
import ProjectAtlas.Proofs.Indexer.Isolation

/-!
Which files the scan of a project's modules can reach. The names of modules come from the manifest and
are not checked: an absolute name, or a double dot in a name, leads out of the project. No other name
does, and the attribute that entities carry shows which files lie below the project.
-/

namespace ProjectAtlas

/-- The directory that a project gives to a module of this name. -/
def moduleDirectory (directories : Directories) (root : Path) (name : String) : Path :=
  (root.child directories.source).child name

/-- The files that declarations and functions name. -/
def Findings.entityFiles (f : Findings) : List String :=
  f.declarations.map (·.file) ++ f.callables.map (·.file)

theorem Findings.mem_entityFiles {f : Findings} {name : String} :
    name ∈ f.entityFiles ↔
      (∃ d ∈ f.declarations, d.file = name) ∨ ∃ c ∈ f.callables, c.file = name := by
  rw [entityFiles, List.mem_append, List.mem_map, List.mem_map]

theorem Findings.About.entityFiles {f : Findings} {path : String} (h : f.About path) :
    ∀ name ∈ f.entityFiles, name = path := by
  intro name hName
  rcases mem_entityFiles.mp hName with ⟨d, hd, rfl⟩ | ⟨c, hc, rfl⟩
  · exact h.declarations d hd
  · exact h.callables c hc

namespace Source

variable {config : Config} {v : Volume} {root : Path} {m : ModuleRef}

/-- All files of a module lie below its directory, at names that a file system allows. -/
theorem exists_names_of_metInModule (hTree : v.root.WellFormed) {ms : List Met}
    (hMet : metInModule config v root m = .ok ms) {f : Path × String} (hFile : f ∈ filesMet ms) :
    ∃ path ns, m.path = some path ∧ f.1 = (Path.ofString path).descend ns ∧ ∀ n ∈ ns, IsEntryName n := by
  unfold metInModule at hMet
  split at hMet
  · cases hMet
    cases hFile
  · cases hMet
    cases hFile
  · rename_i path _ hPath
    rw [eq_met_of_scanMet hMet] at hFile
    obtain ⟨_, ns, _, _, _, _, _, _, _, _, hNames, rfl⟩ := Walk.exists_names_of_filesMet hTree hFile
    exact ⟨path, ns, hPath, rfl, hNames⟩

/-- A file that gives entities was read, and they name it. -/
theorem read_of_fileOutcome {windows : Windows} {module : String} {file : Path} {name : String}
    (hEntity : name ∈ (fileOutcome windows v root module file).share.entityFiles) :
    (∃ bytes, v.read file = .ok bytes) ∧ name = file.relativeText root := by
  refine ⟨?_, (fileShare_share windows v root module file).about.entityFiles name hEntity⟩
  cases hRead : v.read file with
  | ok bytes => exact ⟨bytes, rfl⟩
  | error fault =>
      simp [fileOutcome, hRead, FileOutcome.share, FileOutcome.declarations, FileOutcome.callables,
        Findings.entityFiles] at hEntity

/-- What a scan of a project gives of one sort, picked by `field`, comes from the files that are met in its
modules. -/
theorem exists_share_of_scanProject {α : Type} {field : Findings → List α} (hNone : field {} = [])
    (hExtend : ∀ f g, field (f.extend g) = field f ++ field g)
    (hShares : ∀ s : ModuleScan, field s.findings = s.outcomes.flatMap fun o => field o.share)
    {p : Project} {report : Report} (h : scanProject config v p = .ok report) :
    ∀ x ∈ field report.findings, ∃ m ∈ p.modules,
      ∃ ms, metInModule config v (Path.ofString p.root) m = .ok ms ∧ ∃ f ∈ filesMet ms,
        x ∈ field (fileOutcome config.scan.windows v (Path.ofString p.root) m.name f.1).share := by
  intro x hx
  rw [(mapM_of_scanProject h).2] at hx
  obtain ⟨_, hMem, hOwn⟩ := Findings.exists_mem_of_concat field hNone hExtend hx
  obtain ⟨s, hs, rfl⟩ := List.mem_map.mp hMem
  obtain ⟨m, hm, hScan⟩ := exists_module_of_mem_scansOf hs
  obtain ⟨ms, hMet, rfl⟩ := exists_met_of_scanModule hScan
  rw [hShares, moduleScan, List.flatMap_map] at hOwn
  obtain ⟨f, hf, hShare⟩ := List.mem_flatMap.mp hOwn
  exact ⟨m, hm, ms, hMet, f, hf, hShare⟩

/-- Every entity of a scan names a file that was met in a module and read. -/
theorem exists_file_of_scanProject {p : Project} {report : Report}
    (h : scanProject config v p = .ok report) {name : String}
    (hEntity : name ∈ report.findings.entityFiles) :
    ∃ m ∈ p.modules, ∃ ms, metInModule config v (Path.ofString p.root) m = .ok ms ∧
      ∃ f ∈ filesMet ms, (∃ bytes, v.read f.1 = .ok bytes) ∧ name = f.1.relativeText (Path.ofString p.root) := by
  rcases Findings.mem_entityFiles.mp hEntity with ⟨d, hd, rfl⟩ | ⟨c, hc, rfl⟩
  · obtain ⟨m, hm, ms, hMet, f, hf, hOwn⟩ :=
      exists_share_of_scanProject rfl (fun _ _ => rfl) (fun _ => rfl) h d hd
    exact ⟨m, hm, ms, hMet, f, hf, read_of_fileOutcome (Findings.mem_entityFiles.mpr (.inl ⟨d, hOwn, rfl⟩))⟩
  · obtain ⟨m, hm, ms, hMet, f, hf, hOwn⟩ :=
      exists_share_of_scanProject rfl (fun _ _ => rfl) (fun _ => rfl) h c hc
    exact ⟨m, hm, ms, hMet, f, hf, read_of_fileOutcome (Findings.mem_entityFiles.mpr (.inr ⟨c, hOwn, rfl⟩))⟩

end Source

/-- The module, seen as one of a project that was read from a manifest, has its directory as its path. -/
theorem path_of_mem_modules {directories : Directories} {v : Volume} {given root : Path} {p : Project}
    (hStart : v.startFrom given = .ok root) (hProject : readProject v directories given = .ok p) :
    p.root = root.toString ∧
      ∀ m ∈ p.modules, m.path = some (moduleDirectory directories root m.name).toString := by
  simp only [readProject, hStart] at hProject
  split at hProject
  · cases hProject
  · cases hProject
  · obtain ⟨found, -, rfl⟩ := map_eq_ok_iff.mp hProject
    refine ⟨rfl, fun m hm => ?_⟩
    obtain ⟨d, -, rfl⟩ := List.mem_map.mp hm
    rfl

/-- The scan of modules stays in the project as far as their names, and the directory of all sources,
go down. A file that is read lies inside the project if its path goes down from the root, and exactly then
the attribute of its entities is a relative path without a double dot; there are no other entities. -/
theorem scanProject_contained {config : Config} {v : Volume} (hPlaced : v.WellPlaced) {text : String}
    {root : Path} (hStart : v.startFrom (Path.ofString text) = .ok root)
    {entries : List (String × Node)} {locked : Bool} (hTree : HoldsEntries v root entries locked)
    {p : Project} (hProject : readProject v config.directories (Path.ofString text) = .ok p) :
    (∀ m ∈ p.modules, ∀ ms, Source.metInModule config v root m = .ok ms →
      ∀ f ∈ filesMet ms, ∀ bytes, v.read f.1 = .ok bytes →
        ((Path.ofString config.directories.source).GoesDown → (Path.ofString m.name).GoesDown →
          f.1.IsBelow root) ∧
        (f.1.IsBelow root → v.IsInside root f.1) ∧
        ((Path.ofString (f.1.relativeText root)).GoesDown ↔ f.1.IsBelow root)) ∧
    ∀ report, Source.scanProject config v p = .ok report →
      ∀ name ∈ report.findings.entityFiles, ∃ m ∈ p.modules,
        ∃ ms, Source.metInModule config v root m = .ok ms ∧ ∃ f ∈ filesMet ms,
          (∃ bytes, v.read f.1 = .ok bytes) ∧ name = f.1.relativeText root := by
  have hRoot := Volume.isProper_of_startFrom hPlaced (Path.isProper_ofString text) hStart
  have hAnchor := Volume.anchor_ne_relative_of_startFrom hStart
  obtain ⟨hSame, hPaths⟩ := path_of_mem_modules hStart hProject
  refine ⟨fun m hm ms hMet f hf bytes hRead => ?_, fun report hReport name hName => ?_⟩
  · obtain ⟨path, ns, hPath, hFile, hNames⟩ :=
      Source.exists_names_of_metInModule hPlaced.tree hMet hf
    obtain rfl := Option.some.inj (hPath.symm.trans (hPaths m hm))
    have hDirectory := (hRoot.child config.directories.source).child m.name
    rw [moduleDirectory, Path.ofString_toString hDirectory] at hFile
    have hUps : ".." ∉ ns := fun hMem => (hNames _ hMem).noUp rfl
    refine ⟨fun hSource hName => ?_, fun hBelow => ?_, ?_⟩
    · rw [hFile]
      exact (((Path.isBelow_self root).child hSource).child hName).descend hUps
    · obtain ⟨there, hThere⟩ := Volume.exists_locate_of_read hRead
      exact Volume.isInside_of_isBelow hTree hBelow hThere
    · rw [hFile]
      refine Path.goesDown_relativeText_iff ?_ (hDirectory.descend fun n hn => (hNames n hn).isName)
      exact Path.anchor_child_ne_relative (Path.anchor_child_ne_relative hAnchor _) _
  · have hEntity := Source.exists_file_of_scanProject hReport hName
    rwa [hSame, Path.ofString_toString hRoot] at hEntity

/-- A project with one header, a directory beside the project with another, and one module of this name. -/
def besideProject (module : String) : Volume where
  root := .dir
    [("MyGame", .dir
      [("MyGame.uproject",
          textFile ("\x7b\"Modules\": [\x7b\"Name\": \"" ++ module ++ "\"\x7d]\x7d")),
        ("Source", .dir
          [("MyGame", .dir [("A.h", textFile "UCLASS()\nclass AHero")] false)] false)] false),
      ("Other", .dir [("A.h", textFile "UCLASS()\nclass AOther")] false)] false

/-- The statement on scans, for a module whose name goes down: its file lies inside the project. -/
theorem scanProject_contained_besideProject :
    let config : Config := {}
    let v := besideProject "MyGame"
    let root : Path := ⟨.root, ["MyGame"]⟩
    let file := root.descend ["Source", "MyGame", "A.h"]
    v.WellPlaced ∧ v.startFrom (Path.ofString "/MyGame") = .ok root ∧
      (∃ entries, HoldsEntries v root entries false) ∧
      (∃ p, readProject v config.directories (Path.ofString "/MyGame") = .ok p) ∧
      (∃ bytes, v.read file = .ok bytes) ∧ v.IsInside root file ∧
      (Path.ofString (file.relativeText root)).GoesDown := by
  intro config v root file
  have hPlaced : v.WellPlaced :=
    ⟨by decide +kernel, by simp [v, besideProject], by simp [v, besideProject]⟩
  have hStart : v.startFrom (Path.ofString "/MyGame") = .ok root := by decide +kernel
  have hProjectPlace : v.locate root = .ok ["MyGame"] := by decide +kernel
  have hTree : HoldsEntries v root _ false :=
    ⟨hPlaced.tree, Volume.find_of_locate hProjectPlace rfl, rfl⟩
  have hModules : (readProject v config.directories (Path.ofString "/MyGame")).toOption.map (·.modules) =
      some [headerModule] := by
    decide +kernel
  have hMet : Source.metInModule config v root headerModule = .ok [.file file "A.h"] := by
    decide +kernel
  have hPlace : v.locate file = .ok ["MyGame", "Source", "MyGame", "A.h"] := by decide +kernel
  obtain ⟨bytes, hRead⟩ : ∃ bytes, v.read file = .ok bytes := by
    simp only [Volume.read, Volume.find_of_locate hPlace (by rfl)]
    exact ⟨_, rfl⟩
  cases hProject : readProject v config.directories (Path.ofString "/MyGame") with
  | error fault =>
      rw [hProject] at hModules
      cases hModules
  | ok p =>
      rw [hProject] at hModules
      have hList : p.modules = [headerModule] := Option.some.inj hModules
      have hModule : headerModule ∈ p.modules := by
        rw [hList]
        exact List.mem_singleton_self _
      obtain ⟨hFiles, -⟩ := scanProject_contained hPlaced hStart hTree hProject
      obtain ⟨hNames, hInside, hText⟩ :=
        hFiles headerModule hModule _ hMet (file, "A.h") (List.mem_singleton_self _) bytes hRead
      have hBelow := hNames (by decide +kernel) (by decide +kernel)
      exact ⟨hPlaced, hStart, ⟨_, hTree⟩, ⟨p, rfl⟩, ⟨bytes, hRead⟩, hInside hBelow, hText.mpr hBelow⟩

/-- A module name with double dots leads out of the project, though there are no links at all: a file
beside the project is read, and the attribute of its declaration has double dots. -/
theorem scanProject_leaves_project :
    let v := besideProject "../../Other"
    let root : Path := ⟨.root, ["MyGame"]⟩
    let file := root.descend ["Source", "..", "..", "Other", "A.h"]
    v.WellPlaced ∧ v.root.linkCount = 0 ∧ v.startFrom (Path.ofString "/MyGame") = .ok root ∧
      ∃ p report, readProject v {} (Path.ofString "/MyGame") = .ok p ∧
        Source.scanProject {} v p = .ok report ∧
        (∃ m ∈ p.modules, ∃ ms, Source.metInModule {} v root m = .ok ms ∧
          (file, "A.h") ∈ filesMet ms) ∧
        (∃ bytes, v.read file = .ok bytes) ∧ ¬ v.IsInside root file ∧
        (report.findings.declarations.map fun d => (d.name, d.file)) =
          [("AOther", "Source/../../Other/A.h")] ∧
        ¬ (Path.ofString "Source/../../Other/A.h").GoesDown := by
  intro v root file
  have hPlaced : v.WellPlaced :=
    ⟨by decide +kernel, by simp [v, besideProject], by simp [v, besideProject]⟩
  have hStart : v.startFrom (Path.ofString "/MyGame") = .ok root := by decide +kernel
  have hThere : v.locate file = .ok ["Other", "A.h"] := by decide +kernel
  have hRead : ∃ bytes, v.read file = .ok bytes := by
    simp only [Volume.read, Volume.find_of_locate hThere (by rfl)]
    exact ⟨_, rfl⟩
  have hOutside : ¬ v.IsInside root file := by
    rintro ⟨place, ns, hPlace, hFile⟩
    have hRoot : v.locate root = .ok ["MyGame"] := by decide +kernel
    obtain rfl := Except.ok.inj (hRoot.symm.trans hPlace)
    have hSame := Except.ok.inj (hThere.symm.trans hFile)
    simp at hSame
  have hMet : ((readProject v {} (Path.ofString "/MyGame")).toOption.map fun p =>
      p.modules.any fun m =>
        Source.metInModule {} v root m = .ok [.file file "A.h"]) = some true := by
    decide +kernel
  have hFound : ((readProject v {} (Path.ofString "/MyGame")).toOption.bind fun p =>
      (Source.scanProject {} v p).toOption.map fun report =>
        report.findings.declarations.map fun d => (d.name, d.file)) =
      some [("AOther", "Source/../../Other/A.h")] := by
    decide +kernel
  cases hProject : readProject v {} (Path.ofString "/MyGame") with
  | error fault =>
      rw [hProject] at hMet
      cases hMet
  | ok p =>
      rw [hProject] at hMet hFound
      obtain ⟨m, hm, hOwn⟩ := List.any_eq_true.mp (Option.some.inj hMet)
      obtain ⟨report, hReport, hNames⟩ := Option.map_eq_some_iff.mp hFound
      have hScan : Source.scanProject {} v p = .ok report := by
        cases hOwn : Source.scanProject {} v p with
        | error stop =>
            rw [hOwn] at hReport
            cases hReport
        | ok own =>
            rw [hOwn] at hReport
            cases hReport
            rfl
      exact ⟨hPlaced, rfl, hStart, p, report, rfl, hScan,
        ⟨m, hm, _, of_decide_eq_true hOwn, List.mem_singleton_self _⟩, hRead, hOutside, hNames,
        by decide +kernel⟩

end ProjectAtlas
