import ProjectAtlas.Proofs.Files.Change
import ProjectAtlas.Proofs.Indexer.BestEffort
import ProjectAtlas.Proofs.Walk.Frame
import ProjectAtlas.Proofs.Walk.Places

/-!
Files stand for themselves. Each file that is met gives one share of the findings, which is its entities
or one issue, and the shares are joined in the order of the walk; nothing passes from one to the
next. So writing other bytes into one file changes nothing that is said about the others.
-/

namespace ProjectAtlas

namespace Source

/-- The entity names this file and module. -/
def Reflected.IsFrom (origin : Origin) : Reflected → Prop
  | .declaration d => d.file = origin.file ∧ d.module = origin.module
  | .callable c => c.file = origin.file ∧ c.module = origin.module

theorem isFrom_of_readMarker? {windows : Windows} {origin : Origin} {owner : String} {number : Nat}
    {line : List Char} {below : List (List Char)} {r : Reflected}
    (h : readMarker? windows origin owner number line below = some r) : r.IsFrom origin := by
  rw [readMarker?] at h
  split at h
  · obtain ⟨d, hRead, rfl⟩ := Option.map_eq_some_iff.mp h
    obtain ⟨c, -, hFound⟩ := List.exists_of_findSome?_eq_some hRead
    obtain ⟨header, -, rfl⟩ := Option.map_eq_some_iff.mp hFound
    exact ⟨rfl, rfl⟩
  · split at h
    · obtain ⟨f, hRead, rfl⟩ := Option.map_eq_some_iff.mp h
      obtain ⟨c, -, hFound⟩ := List.exists_of_findSome?_eq_some hRead
      obtain ⟨signature, -, rfl⟩ := Option.map_eq_some_iff.mp hFound
      exact ⟨rfl, rfl⟩
    · cases h

theorem isFrom_of_mem_reflected {windows : Windows} {origin : Origin} {text : List Char} :
    ∀ r ∈ reflected windows origin text, r.IsFrom origin := by
  have hFrom (ls : List (List Char)) : ∀ owner number,
      ∀ r ∈ reflectedFrom windows origin owner number ls, r.IsFrom origin := by
    induction ls with
    | nil => simp [reflectedFrom]
    | cons line below ih =>
        intro owner number
        rw [reflectedFrom]
        split
        · rename_i r hRead
          exact List.forall_mem_cons.mpr ⟨isFrom_of_readMarker? hRead, ih _ _⟩
        · exact ih _ _
  exact hFrom _ "" 1

/-- What is met on the walk over the files of a module; nothing if the module has no path. -/
def metInModule (config : Config) (v : Volume) (root : Path) (m : ModuleRef) :
    Except ScanStop (List Met) :=
  match m.path with
  | none | some "" => .ok []
  | some path => scanMet v (moduleWalk config root path)

/-- The share of a file in the findings of its module: the entities in its text and no issue, or the one
issue of a file that cannot be read or that holds a zero byte, and no entity. -/
inductive FileShare (windows : Windows) (v : Volume) (root : Path) (module : String) (file : Path) :
    Findings → Prop where
  | text {bytes : List UInt8} {found : List Reflected} (hRead : v.read file = .ok bytes)
      (hText : 0 ∉ bytes)
      (hFound : reflected windows ⟨file.relativeText root, some module⟩
        (Text.decodeLenient (Text.dropByteOrderMark bytes)) = found) :
      FileShare windows v root module file
        { declarations := declarationsOf found, callables := callablesOf found }
  | unread {fault : FileFault} (hRead : v.read file = .error fault) :
      FileShare windows v root module file
        { issues := [⟨.fileUnreadable, file.relativeText root, fault.message⟩] }
  | binary {bytes : List UInt8} (hRead : v.read file = .ok bytes) (hZero : 0 ∈ bytes) :
      FileShare windows v root module file
        { issues := [⟨.fileUnparseable, file.relativeText root, "not UTF-8 text"⟩] }

/-- What a file gives, as findings. -/
def FileOutcome.share (o : FileOutcome) : Findings :=
  { declarations := o.declarations, callables := o.callables, issues := o.issue?.toList }

theorem fileShare_share (windows : Windows) (v : Volume) (root : Path) (module : String)
    (file : Path) :
    FileShare windows v root module file (fileOutcome windows v root module file).share := by
  cases hRead : v.read file with
  | error fault =>
      simp only [fileOutcome, hRead]
      exact .unread hRead
  | ok bytes =>
      by_cases hZero : 0 ∈ bytes
      · simp only [fileOutcome, hRead, List.contains_iff_mem.mpr hZero, if_true]
        exact .binary hRead hZero
      · have hText : bytes.contains 0 = false := by simpa using hZero
        simp only [fileOutcome, hRead, hText, Bool.false_eq_true, if_false]
        exact .text hRead hZero rfl

/-- All that a file gives names the file. -/
theorem FileShare.about {windows : Windows} {v : Volume} {root : Path} {module : String}
    {file : Path} {share : Findings} (h : FileShare windows v root module file share) :
    share.About (file.relativeText root) := by
  cases h with
  | unread | binary => constructor <;> simp
  | text hRead hText hFound =>
      subst hFound
      constructor
      case declarations =>
        intro d hd
        obtain ⟨r, hr, hEntity⟩ := List.mem_filterMap.mp hd
        have hFrom := isFrom_of_mem_reflected r hr
        cases r with
        | declaration e =>
            cases hEntity
            exact hFrom.1
        | callable c => cases hEntity
      case callables =>
        intro c hc
        obtain ⟨r, hr, hEntity⟩ := List.mem_filterMap.mp hc
        have hFrom := isFrom_of_mem_reflected r hr
        cases r with
        | declaration d => cases hEntity
        | callable e =>
            cases hEntity
            exact hFrom.1
      all_goals simp

variable {config : Config} {v u : Volume} {root : Path} {m : ModuleRef}

/-- With a worker, the scan of a module is what is met on its walk, file by file. -/
theorem scanModule_eq (hWorkers : 0 < config.scan.maxWorkers) :
    scanModule config v root m =
      (metInModule config v root m).map (moduleScan config v root m.name) := by
  cases hPath : m.path with
  | none =>
      simp only [scanModule, metInModule, hPath]
      rfl
  | some path =>
      by_cases hSome : path = ""
      · subst hSome
        simp only [scanModule, metInModule, hPath]
        rfl
      · rw [scanModule_of_path hWorkers hPath hSome]
        simp only [metInModule, hPath]

/-- A scan of a module is what is met on its walk, file by file. -/
theorem exists_met_of_scanModule {s : ModuleScan} (h : scanModule config v root m = .ok s) :
    ∃ ms, metInModule config v root m = .ok ms ∧ s = moduleScan config v root m.name ms := by
  by_cases hWorkers : 0 < config.scan.maxWorkers
  · rw [scanModule_eq hWorkers] at h
    obtain ⟨ms, hMet, rfl⟩ := map_eq_ok_iff.mp h
    exact ⟨ms, hMet, rfl⟩
  · have hNone : config.scan.maxWorkers = 0 := by omega
    unfold scanModule at h
    split at h
    case h_1 hPath | h_2 hPath =>
      cases h
      exact ⟨[], by simp only [metInModule, hPath], rfl⟩
    case h_3 =>
      obtain ⟨ms, -, hStop⟩ := bind_eq_ok_iff.mp h
      rw [if_pos hNone] at hStop
      cases hStop

/-- The findings of a module are the shares of its files, joined in the order of the walk, behind the
issues of directories that could not be listed. -/
theorem findings_eq (name : String) (unlisted : List FileFault) (outcomes : List FileOutcome) :
    ModuleScan.findings ⟨name, unlisted, outcomes⟩ =
      let joined := Findings.joined (outcomes.map (·.share))
      { joined with
        moduleDeclarations := [(name, joined.declarations.map (·.name))]
        issues := unlisted.map unlistedIssue ++ joined.issues } := by
  have hNone : (outcomes.flatMap fun _ => ([] : List Asset)) = [] ∧
      (outcomes.flatMap fun _ => ([] : List Plugin)) = [] := by simp
  simp [ModuleScan.findings, Findings.joined, List.flatMap_map, FileOutcome.share,
    List.filterMap_eq_flatMap_toList, hNone]

end Source

/-- The share of a thing met in the content directory: the entry of a file, or the one issue of a file
whose size is not known, or that of a directory that cannot be listed. -/
inductive AssetShare (v : Volume) : Met → Findings → Prop where
  | cataloged {file : Path} {relative : String} {size : Nat} (hSize : v.size file = .ok size) :
      AssetShare v (.file file relative)
        { assets := [{ name := (Path.ofString relative).stem, path := relative,
                       type := assetType relative, size }] }
  | unread {file : Path} {relative : String} {fault : FileFault}
      (hSize : v.size file = .error fault) :
      AssetShare v (.file file relative) { issues := [⟨.fileUnreadable, relative, fault.message⟩] }
  | unlisted (fault : FileFault) : AssetShare v (.unlisted fault) { issues := [unlistedIssue fault] }

/-- What a thing in the content directory gives, as findings. -/
def AssetOutcome.share (o : AssetOutcome) : Findings :=
  { assets := o.asset?.toList, issues := o.issue?.toList }

theorem assetShare_share (v : Volume) (met : Met) : AssetShare v met (assetOutcome v met).share := by
  cases met with
  | unlisted fault => exact .unlisted fault
  | file path relative =>
      cases hSize : v.size path with
      | error fault =>
          simp only [assetOutcome, hSize]
          exact .unread hSize
      | ok size =>
          simp only [assetOutcome, hSize]
          exact .cataloged hSize

theorem AssetShare.about {v : Volume} {file : Path} {relative : String} {share : Findings}
    (h : AssetShare v (.file file relative) share) : share.About relative := by
  cases h <;> constructor <;> simp

theorem findings_assetReport (v : Volume) (root : Path) (ms : List Met) :
    (assetReport v root ms).findings =
      Findings.joined (ms.map fun met => (assetOutcome v met).share) := by
  simp [assetReport, Findings.joined, AssetOutcome.share, List.flatMap_map,
    List.filterMap_eq_flatMap_toList]

/-- The paths of the files met that lead to a place; `text` is the path as findings give it. -/
def knownAs (v : Volume) (place : List String) (text : Path × String → String) (ms : List Met) :
    List String :=
  ((filesMet ms).filter fun f => v.locate f.1 = .ok place).map text

theorem length_knownAs_le {v : Volume} {w : Walk} (hTree : v.root.WellFormed) {place : List String}
    (hNoLink : v.NoLinkTo place) (text : Path × String → String) :
    (knownAs v place text (w.met v)).length ≤ 1 := by
  have hOnce : ((filesMet (w.met v)).filter fun f => v.locate f.1 = .ok place).Nodup :=
    (Walk.nodup_relative v w hTree).of_map.filter _
  have hSame : ∀ f ∈ (filesMet (w.met v)).filter fun f => v.locate f.1 = .ok place,
      ∀ g ∈ (filesMet (w.met v)).filter fun f => v.locate f.1 = .ok place, f = g := by
    simp only [List.mem_filter, decide_eq_true_eq]
    exact fun f hf g hg => Walk.eq_of_locate_eq hTree hNoLink hf.1 hg.1 hf.2 hg.2
  rw [knownAs, List.length_map]
  generalize (filesMet (w.met v)).filter (fun f => v.locate f.1 = .ok place) = files at hOnce hSame
  match files with
  | [] | [_] => simp
  | f :: g :: rest =>
      rw [hSame f (by simp) g (by simp)] at hOnce
      simp at hOnce

/-- Two shares of one file agree but for a place, if they are the same unless the file leads there. -/
theorem agreeBut_of_filesMet {v : Volume} {place : List String} {text : Path × String → String}
    {ms : List Met} {f : Path × String} (hf : f ∈ filesMet ms) {first second : Findings}
    (hFirst : first.About (text f)) (hSecond : second.About (text f))
    (hElse : v.locate f.1 ≠ .ok place → second = first) :
    Findings.AgreeBut (knownAs v place text ms) first second := by
  by_cases hThere : v.locate f.1 = .ok place
  · have hKnown : text f ∈ knownAs v place text ms :=
      List.mem_map_of_mem (List.mem_filter.mpr ⟨hf, by simpa using hThere⟩)
    exact hFirst.agreeBut hKnown hSecond
  · rw [hElse hThere]
    exact .refl _ _

namespace Source

theorem scanModule_accounts {config : Config} (hWorkers : 0 < config.scan.maxWorkers) {v : Volume}
    {root : Path} {m : ModuleRef} {ms : List Met} (hMet : metInModule config v root m = .ok ms) :
    ∃ s shares, scanModule config v root m = .ok s ∧
      List.Forall₂ (fun f share => FileShare config.scan.windows v root m.name f.1 share)
        (filesMet ms) shares ∧
      s.findings =
        { declarations := shares.flatMap (·.declarations)
          callables := shares.flatMap (·.callables)
          moduleDeclarations := [(m.name, (shares.flatMap (·.declarations)).map (·.name))]
          issues := (unlistedMet ms).map unlistedIssue ++ shares.flatMap (·.issues) } := by
  refine ⟨moduleScan config v root m.name ms, (filesMet ms).map fun f =>
    (fileOutcome config.scan.windows v root m.name f.1).share, ?_, ?_, ?_⟩
  · rw [scanModule_eq hWorkers, hMet]
    rfl
  · rw [List.forall₂_map_right_iff, List.forall₂_same]
    exact fun f _ => fileShare_share _ v root m.name f.1
  · rw [moduleScan, findings_eq]
    simp [Findings.joined, List.flatMap_map, FileOutcome.share]

theorem metInModule_eq (h : v.SameFrame u) (hTree : v.root.WellFormed) :
    metInModule config u root m = metInModule config v root m := by
  simp only [metInModule, scanMet_eq h hTree]

theorem length_knownAs_metInModule_le (hTree : v.root.WellFormed) {place : List String}
    (hNoLink : v.NoLinkTo place) (text : Path × String → String) {ms : List Met}
    (hMet : metInModule config v root m = .ok ms) : (knownAs v place text ms).length ≤ 1 := by
  unfold metInModule at hMet
  split at hMet
  · cases hMet
    simp [knownAs, filesMet]
  · cases hMet
    simp [knownAs, filesMet]
  · rw [eq_met_of_scanMet hMet]
    exact length_knownAs_le hTree hNoLink text

/-- The scans of a module on two volumes agree, but for files at changed places. -/
theorem scanModule_agreeBut (hWorkers : 0 < config.scan.maxWorkers) (hTree : v.root.WellFormed)
    {place : List String} (h : Volume.AgreeOutside (· = place) v u) {root : Path} {m : ModuleRef}
    {ms : List Met} (hMet : metInModule config v root m = .ok ms) :
    ∃ s t, scanModule config v root m = .ok s ∧ scanModule config u root m = .ok t ∧
      Findings.AgreeBut (knownAs v place (fun f => f.1.relativeText root) ms)
        s.findings t.findings := by
  have hOther : metInModule config u root m = .ok ms :=
    (metInModule_eq h.toSameFrame hTree).trans hMet
  refine ⟨moduleScan config v root m.name ms, moduleScan config u root m.name ms, ?_, ?_, ?_⟩
  · rw [scanModule_eq hWorkers, hMet]
    rfl
  · rw [scanModule_eq hWorkers, hOther]
    rfl
  let text : Path × String → String := fun f => f.1.relativeText root
  let share (v : Volume) (f : Path × String) : Findings :=
    (fileOutcome config.scan.windows v root m.name f.1).share
  have hShares : Findings.AgreeBut (knownAs v place text ms)
      (Findings.joined ((filesMet ms).map (share v)))
      (Findings.joined ((filesMet ms).map (share u))) := by
    refine Findings.agreeBut_joined fun f hf => ?_
    refine agreeBut_of_filesMet hf (fileShare_share _ v root m.name f.1).about
      (fileShare_share _ u root m.name f.1).about fun hElse => ?_
    have hRead : u.read f.1 = v.read f.1 :=
      h.read_eq fun there hThere hSame => hElse (hSame ▸ hThere)
    simp only [share, fileOutcome, hRead]
  rw [moduleScan, moduleScan, findings_eq, findings_eq, List.map_map, List.map_map]
  refine ⟨hShares.declarations, hShares.callables, hShares.assets, hShares.plugins, ?_⟩
  simp only [List.filter_append]
  exact congrArg _ hShares.issues

end Source

private theorem paths_sublist (v : Volume) (ms : List Met) :
    (((ms.map (assetOutcome v)).filterMap (·.asset?)).map (·.path)).Sublist
      ((filesMet ms).map (·.2)) := by
  induction ms with
  | nil => exact .slnil
  | cons met ms ih =>
      cases met with
      | unlisted fault => simpa [filesMet, assetOutcome, AssetOutcome.asset?] using ih
      | file path relative =>
          cases hSize : v.size path with
          | error fault =>
              simpa [filesMet, assetOutcome, hSize, AssetOutcome.asset?] using ih.cons relative
          | ok size =>
              simpa [filesMet, assetOutcome, hSize, AssetOutcome.asset?] using ih.cons_cons relative

theorem catalogAssets_accounts (config : Config) {v : Volume} (hTree : v.root.WellFormed)
    {p : Project} {ms : List Met} (hMet : scanMet v (contentWalk config p) = .ok ms) :
    ∃ r shares, catalogAssets config v p = .ok r ∧ List.Forall₂ (AssetShare v) ms shares ∧
      r.findings =
        { assets := shares.flatMap (·.assets), issues := shares.flatMap (·.issues) } ∧
      (r.findings.assets.map (·.path)).Nodup := by
  refine ⟨assetReport v (contentRoot config p) ms,
    ms.map fun met => (assetOutcome v met).share, ?_, ?_, ?_, ?_⟩
  · rw [catalogAssets, hMet]
    rfl
  · rw [List.forall₂_map_right_iff, List.forall₂_same]
    exact fun met _ => assetShare_share v met
  · rw [findings_assetReport]
    simp [Findings.joined, List.flatMap_map, AssetOutcome.share]
  · rw [eq_met_of_scanMet hMet]
    exact (paths_sublist v _).nodup (Walk.nodup_relative v (contentWalk config p) hTree)

theorem catalogAssets_agreeBut (config : Config) {v u : Volume} (hTree : v.root.WellFormed)
    {place : List String} (h : Volume.AgreeOutside (· = place) v u) {p : Project} {ms : List Met}
    (hMet : scanMet v (contentWalk config p) = .ok ms) :
    ∃ r t, catalogAssets config v p = .ok r ∧ catalogAssets config u p = .ok t ∧
      Findings.AgreeBut (knownAs v place (·.2) ms) r.findings t.findings := by
  have hOther : scanMet u (contentWalk config p) = .ok ms :=
    (scanMet_eq h.toSameFrame hTree _).trans hMet
  refine ⟨assetReport v (contentRoot config p) ms, assetReport u (contentRoot config p) ms, ?_, ?_, ?_⟩
  · rw [catalogAssets, hMet]
    rfl
  · rw [catalogAssets, hOther]
    rfl
  rw [findings_assetReport, findings_assetReport]
  refine Findings.agreeBut_joined fun met hMet => ?_
  cases met with
  | unlisted fault => exact .refl _ _
  | file path relative =>
      refine agreeBut_of_filesMet (f := (path, relative)) (mem_filesMet.mpr hMet)
        (assetShare_share v _).about (assetShare_share u _).about fun hElse => ?_
      have hSize : u.size path = v.size path :=
        h.size_eq fun there hThere hSame => hElse (hSame ▸ hThere)
      simp only [assetOutcome, hSize]

/-- Every file that is met stands for itself, and none is lost.

If nothing stops the walk over the files of a module, its findings join, in the order of the walk, one
share of each file: its own entities, or one issue. In front stand the issues of directories that cannot
be listed. Likewise the content directory, where no two entries have one path. A walk that is stopped
stops the scanner.

With other bytes in one file to which no link leads, the walks are stopped by the same or not at all, the
entities and issues of all other files stay the same, in the same order; and that file is met once at
most. -/
theorem files_isolated (config : Config) {v : Volume} (hTree : v.root.WellFormed) :
    (0 < config.scan.maxWorkers → ∀ root m,
      (∀ stop, Source.metInModule config v root m = .error stop →
        Source.scanModule config v root m = .error stop) ∧
      ∀ ms, Source.metInModule config v root m = .ok ms → ∃ s shares,
        Source.scanModule config v root m = .ok s ∧
        List.Forall₂ (fun f share => Source.FileShare config.scan.windows v root m.name f.1 share)
          (filesMet ms) shares ∧
        s.findings =
          { declarations := shares.flatMap (·.declarations)
            callables := shares.flatMap (·.callables)
            moduleDeclarations := [(m.name, (shares.flatMap (·.declarations)).map (·.name))]
            issues := (unlistedMet ms).map unlistedIssue ++ shares.flatMap (·.issues) }) ∧
    (∀ p,
      (∀ stop, scanMet v (contentWalk config p) = .error stop →
        catalogAssets config v p = .error stop) ∧
      ∀ ms, scanMet v (contentWalk config p) = .ok ms → ∃ r shares,
        catalogAssets config v p = .ok r ∧ List.Forall₂ (AssetShare v) ms shares ∧
        r.findings =
          { assets := shares.flatMap (·.assets), issues := shares.flatMap (·.issues) } ∧
        (r.findings.assets.map (·.path)).Nodup) ∧
    ∀ place before locked after, v.root.at? place = some (.file before locked) →
      v.NoLinkTo place →
      let u := v.rewritten place after locked
      (0 < config.scan.maxWorkers → ∀ root m,
        Source.metInModule config u root m = Source.metInModule config v root m ∧
        ∀ ms, Source.metInModule config v root m = .ok ms → ∃ s t,
          Source.scanModule config v root m = .ok s ∧ Source.scanModule config u root m = .ok t ∧
          let known := knownAs v place (fun f => f.1.relativeText root) ms
          known.length ≤ 1 ∧ Findings.AgreeBut known s.findings t.findings) ∧
      ∀ p, scanMet u (contentWalk config p) = scanMet v (contentWalk config p) ∧
        ∀ ms, scanMet v (contentWalk config p) = .ok ms → ∃ r t,
          catalogAssets config v p = .ok r ∧ catalogAssets config u p = .ok t ∧
          let known := knownAs v place (·.2) ms
          known.length ≤ 1 ∧ Findings.AgreeBut known r.findings t.findings := by
  refine ⟨fun hWorkers root m => ⟨fun stop hStop => ?_, fun ms => Source.scanModule_accounts hWorkers⟩,
    fun p => ⟨fun stop hStop => ?_, fun ms => catalogAssets_accounts config hTree⟩,
    fun place before locked after hFile hNoLink => ?_⟩
  · rw [Source.scanModule_eq hWorkers, hStop]
    rfl
  · rw [catalogAssets, hStop]
    rfl
  have hAgree := Volume.agreeOutside_rewritten hFile after
  refine ⟨fun hWorkers root m =>
    ⟨Source.metInModule_eq hAgree.toSameFrame hTree, fun ms hMet => ?_⟩,
    fun p => ⟨scanMet_eq hAgree.toSameFrame hTree _, fun ms hMet => ?_⟩⟩
  · obtain ⟨s, t, hFirst, hSecond, hFindings⟩ :=
      Source.scanModule_agreeBut hWorkers hTree hAgree hMet
    exact ⟨s, t, hFirst, hSecond, Source.length_knownAs_metInModule_le hTree hNoLink _ hMet, hFindings⟩
  · obtain ⟨r, t, hFirst, hSecond, hFindings⟩ := catalogAssets_agreeBut config hTree hAgree hMet
    refine ⟨r, t, hFirst, hSecond, ?_, hFindings⟩
    rw [eq_met_of_scanMet hMet]
    exact length_knownAs_le hTree hNoLink _

/-- A project with one module of one header. -/
def headerTree (header : Content) : Volume where
  root := .dir [("MyGame", .dir
    [("MyGame.uproject", .file (.bytes [123, 125]) false),
      ("Source", .dir [("MyGame", .dir [("A.h", .file header false)] false)] false)] false)] false

/-- The module of that project. -/
def headerModule : ModuleRef where
  name := "MyGame"
  type := "Runtime"
  loadingPhase := "Default"
  path := some "/MyGame/Source/MyGame"

/-- The statement on single files, for that project: the header is known by one path, and nothing else
depends on what it holds. -/
theorem files_isolated_headerTree :
    let config : Config := {}
    let v := headerTree (.bytes [])
    let u := v.rewritten ["MyGame", "Source", "MyGame", "A.h"] (.bytes [0]) false
    let root : Path := ⟨.root, ["MyGame"]⟩
    v.root.WellFormed ∧ 0 < config.scan.maxWorkers ∧
      v.root.at? ["MyGame", "Source", "MyGame", "A.h"] = some (.file (.bytes []) false) ∧
      v.NoLinkTo ["MyGame", "Source", "MyGame", "A.h"] ∧
      ∃ s t, Source.scanModule config v root headerModule = .ok s ∧
        Source.scanModule config u root headerModule = .ok t ∧
        Findings.AgreeBut ["Source/MyGame/A.h"] s.findings t.findings := by
  intro config v u root
  have hTree : v.root.WellFormed := by decide +kernel
  have hWorkers : 0 < config.scan.maxWorkers := by decide
  have hNoLink : v.NoLinkTo ["MyGame", "Source", "MyGame", "A.h"] :=
    Volume.noLinkTo_of_linkCount rfl _
  have hMet : Source.metInModule config v root headerModule =
      .ok [.file ⟨.root, ["MyGame", "Source", "MyGame", "A.h"]⟩ "A.h"] := by
    decide +kernel
  have hKnown : knownAs v ["MyGame", "Source", "MyGame", "A.h"] (fun f => f.1.relativeText root)
      [.file ⟨.root, ["MyGame", "Source", "MyGame", "A.h"]⟩ "A.h"] = ["Source/MyGame/A.h"] := by
    decide +kernel
  obtain ⟨-, -, hIsolated⟩ := files_isolated config hTree
  obtain ⟨-, hScans⟩ :=
    (hIsolated _ (.bytes []) false (.bytes [0]) rfl hNoLink).1 hWorkers root headerModule
  obtain ⟨s, t, hFirst, hSecond, -, hAgree⟩ := hScans _ hMet
  rw [hKnown] at hAgree
  exact ⟨hTree, hWorkers, rfl, hNoLink, s, t, hFirst, hSecond, hAgree⟩

/-- Without a worker the module of that project has no findings at all, though a file of it is met. -/
theorem no_findings_without_worker :
    let config : Config := { scan := { maxWorkers := 0 } }
    let v := headerTree (.bytes [])
    let root : Path := ⟨.root, ["MyGame"]⟩
    v.root.WellFormed ∧
      (Source.metInModule config v root headerModule).map filesMet =
        .ok [(⟨.root, ["MyGame", "Source", "MyGame", "A.h"]⟩, "A.h")] ∧
      Source.scanModule config v root headerModule = .error .noWorkers := by
  intro config v root
  exact ⟨by decide +kernel, by decide +kernel, by decide +kernel⟩

end ProjectAtlas
