import ProjectAtlas.Proofs.Source.Containment
import ProjectAtlas.Proofs.Source.Ownership

/-!
How great the numbers in an index can get. Lines are counted in files and sizes are sizes of files, so
none of them has too many digits to be written unless the size of some file has.
-/

namespace ProjectAtlas

namespace Text

theorem isTooLong_of_le {m n : Nat} (hLe : m ≤ n) (hFew : isTooLong n = false) :
    isTooLong m = false := by
  simp only [isTooLong, decide_eq_false_iff_not, Int.natAbs_natCast] at hFew ⊢
  exact fun hLong => hFew (Nat.le_trans hLong hLe)

theorem length_consFirst_le (c : Char) (ls : List (List Char)) :
    (consFirst c ls).length ≤ ls.length + 1 := by
  cases ls <;> simp [consFirst]

/-- Every line takes a character at least. -/
theorem length_lines_le (cs : List Char) : (lines cs).length ≤ cs.length := by
  fun_induction lines cs with
  | case1 => exact Nat.le_refl _
  | case2 cs ih =>
      simp only [List.length_cons]
      omega
  | case3 c cs _ _ ih =>
      simp only [List.length_cons]
      omega
  | case4 c cs _ _ ih =>
      have hFirst := length_consFirst_le c (lines cs)
      simp only [List.length_cons]
      omega

theorem length_decodeLenientFrom_le (bs : List UInt8) :
    ∀ skip, (decodeLenientFrom skip bs).length ≤ bs.length := by
  induction bs with
  | nil => exact fun _ => Nat.le_refl _
  | cons b bs ih =>
      intro skip
      cases skip with
      | succ k => exact Nat.le_trans (ih k) (Nat.le_succ _)
      | zero =>
          rw [decodeLenientFrom]
          split
          · exact Nat.succ_le_succ (ih _)
          · exact Nat.succ_le_succ (ih _)

theorem length_dropByteOrderMark_le (bs : List UInt8) : (dropByteOrderMark bs).length ≤ bs.length := by
  unfold dropByteOrderMark
  split
  · simp only [List.length_cons]
    omega
  · exact Nat.le_refl _

end Text

namespace Source

open Text

theorem MadeInTurn.line_le {windows : Windows} {ls : List (List Char)} {owner : String} {last : Nat}
    {ms : List Nat} {rs : List Reflected} (run : MadeInTurn windows ls owner last ms rs) :
    ∀ r ∈ rs, r.line ≤ ls.length := by
  induction run with
  | done => simp
  | next hBelow first rest ih =>
      refine List.forall_mem_cons.mpr ⟨?_, ih⟩
      obtain ⟨window, c, hBelow, hLine⟩ := first.exists_below
      obtain ⟨line, hMem, -⟩ := hBelow.text
      have hNumber := (List.mem_zipIdx hMem).2.1
      omega

/-- No entity stands below the last line of its text. -/
theorem line_le_of_mem_reflected {windows : Windows} {origin : Origin} {text : List Char}
    {r : Reflected} (hr : r ∈ reflected windows origin text) : r.line ≤ (lines text).length := by
  obtain ⟨ms, run⟩ := madeInTurn_reflectedFrom windows origin "" [] ((lines text).map trim)
  simpa using run.line_le r hr

end Source

/-- No file has a size of too many digits. -/
def Volume.HasWritableSizes (v : Volume) : Prop :=
  ∀ place content locked, v.root.at? place = some (.file content locked) →
    Text.isTooLong content.size = false

namespace Node

mutual

/-- The number of bytes in all files of a node. -/
def byteCount : Node → Nat
  | .file content _ => content.size
  | .dir entries _ => byteCounts entries
  | .sealed | .link _ => 0

/-- The number of bytes in the entries of a directory. -/
def byteCounts : List (String × Node) → Nat
  | [] => 0
  | (_, child) :: es => child.byteCount + byteCounts es

end

theorem byteCount_le_of_mem {entries : List (String × Node)} {e : String × Node}
    (he : e ∈ entries) : e.2.byteCount ≤ byteCounts entries := by
  induction he with
  | head rest => exact Nat.le_add_right _ _
  | tail other _ ih => exact Nat.le_trans ih (Nat.le_add_left _ _)

/-- No file is greater than all files are together. -/
theorem size_le_byteCount {node : Node} {place : List String} {content : Content} {locked : Bool}
    (hAt : node.at? place = some (.file content locked)) : content.size ≤ node.byteCount := by
  induction place generalizing node with
  | nil =>
      cases hAt
      exact Nat.le_refl _
  | cons n ns ih =>
      cases node with
      | file | sealed | link => cases hAt
      | dir entries closed =>
          cases hEntry : entries.lookup n with
          | none => simp [at?, entry?, hEntry] at hAt
          | some child =>
              simp only [at?, entry?, hEntry] at hAt
              exact Nat.le_trans (ih hAt) (byteCount_le_of_mem (mem_of_lookup hEntry))

end Node

/-- Sizes can be written where the number of all bytes can. -/
theorem Volume.hasWritableSizes_of_byteCount {v : Volume}
    (h : Text.isTooLong v.root.byteCount = false) : v.HasWritableSizes :=
  fun _ _ _ hAt => Text.isTooLong_of_le (Node.size_le_byteCount hAt) h

/-- The lines of declarations and functions, and the sizes of content files, can be written. -/
structure Findings.HasWritableNumbers (f : Findings) : Prop where
  declarations : ∀ d ∈ f.declarations, Text.isTooLong d.line = false
  callables : ∀ c ∈ f.callables, Text.isTooLong c.line = false
  assets : ∀ a ∈ f.assets, Text.isTooLong a.size = false

namespace Findings

theorem hasWritableNumbers_of_eq_nil {f : Findings} (hDeclarations : f.declarations = [])
    (hCallables : f.callables = []) (hAssets : f.assets = []) : f.HasWritableNumbers := by
  constructor
  · simp [hDeclarations]
  · simp [hCallables]
  · simp [hAssets]

theorem HasWritableNumbers.concat {fs : List Findings} (h : ∀ f ∈ fs, f.HasWritableNumbers) :
    (concat fs).HasWritableNumbers where
  declarations d hd := by
    obtain ⟨f, hf, hOwn⟩ := exists_mem_of_concat Findings.declarations rfl (fun _ _ => rfl) hd
    exact (h f hf).declarations d hOwn
  callables c hc := by
    obtain ⟨f, hf, hOwn⟩ := exists_mem_of_concat Findings.callables rfl (fun _ _ => rfl) hc
    exact (h f hf).callables c hOwn
  assets a ha := by
    obtain ⟨f, hf, hOwn⟩ := exists_mem_of_concat Findings.assets rfl (fun _ _ => rfl) ha
    exact (h f hf).assets a hOwn

end Findings

section Scan

variable {v : Volume} {config : Config} {p : Project}

theorem Content.length_toBytes (c : Content) : c.toBytes.length = c.size := by
  cases c with
  | bytes bs => rfl
  | zeros n => exact List.length_replicate

namespace Volume.HasWritableSizes

theorem length_of_read (h : v.HasWritableSizes) {file : Path} {bytes : List UInt8}
    (hRead : v.read file = .ok bytes) : Text.isTooLong bytes.length = false := by
  unfold Volume.read at hRead
  split at hRead
  · cases hRead
  · rename_i content locked hFind
    obtain ⟨place, -, hAt⟩ := Volume.locate_of_find hFind
    split at hRead
    · cases hRead
    · cases hRead
      rw [content.length_toBytes]
      exact h place content locked hAt
  · cases hRead

theorem size (h : v.HasWritableSizes) {file : Path} {n : Nat} (hSize : v.size file = .ok n) :
    Text.isTooLong n = false := by
  unfold Volume.size at hSize
  split at hSize
  · cases hSize
  · rename_i content locked hFind
    obtain ⟨place, -, hAt⟩ := Volume.locate_of_find hFind
    cases hSize
    exact h place content locked hAt
  · cases hSize
    decide +kernel

/-- An entity on some line of a file needs no more digits for the line than the file for its size. -/
theorem share (h : v.HasWritableSizes) (windows : Source.Windows) (root : Path) (module : String)
    (file : Path) : (Source.fileOutcome windows v root module file).share.HasWritableNumbers := by
  have hLine {bytes : List UInt8} {origin : Source.Origin} {r : Source.Reflected}
      (hr : r ∈ Source.reflected windows origin
        (Text.decodeLenient (Text.dropByteOrderMark bytes))) : r.line ≤ bytes.length := by
    calc
      r.line ≤ _ := Source.line_le_of_mem_reflected hr
      _ ≤ _ := Text.length_lines_le _
      _ ≤ (Text.dropByteOrderMark bytes).length := Text.length_decodeLenientFrom_le _ 0
      _ ≤ bytes.length := Text.length_dropByteOrderMark_le bytes
  have hShare := Source.fileShare_share windows v root module file
  generalize (Source.fileOutcome windows v root module file).share = share at hShare
  cases hShare with
  | text hRead hText hFound =>
      subst hFound
      refine ⟨fun d hd => ?_, fun c hc => ?_, by simp⟩
      · exact Text.isTooLong_of_le (hLine (Source.mem_declarationsOf.mp hd)) (h.length_of_read hRead)
      · exact Text.isTooLong_of_le (hLine (Source.mem_callablesOf.mp hc)) (h.length_of_read hRead)
  | unread hRead | binary hRead => exact Findings.hasWritableNumbers_of_eq_nil rfl rfl rfl

theorem scanProject (h : v.HasWritableSizes) {report : Report}
    (hReport : Source.scanProject config v p = .ok report) : report.findings.HasWritableNumbers where
  declarations := by
    intro d hd
    obtain ⟨m, -, ms, -, f, -, hOwn⟩ :=
      Source.exists_share_of_scanProject rfl (fun _ _ => rfl) (fun _ => rfl) hReport d hd
    exact (h.share _ _ _ _).declarations d hOwn
  callables := by
    intro c hc
    obtain ⟨m, -, ms, -, f, -, hOwn⟩ :=
      Source.exists_share_of_scanProject rfl (fun _ _ => rfl) (fun _ => rfl) hReport c hc
    exact (h.share _ _ _ _).callables c hOwn
  assets := by
    intro a ha
    rw [(mapM_of_scanProject hReport).2] at ha
    obtain ⟨f, hf, hOwn⟩ :=
      Findings.exists_mem_of_concat Findings.assets rfl (fun _ _ => rfl) ha
    obtain ⟨s, -, rfl⟩ := List.mem_map.mp hf
    cases hOwn

theorem assetReport (h : v.HasWritableSizes) (root : Path) (ms : List Met) :
    (assetReport v root ms).findings.HasWritableNumbers where
  declarations := by simp [ProjectAtlas.assetReport]
  callables := by simp [ProjectAtlas.assetReport]
  assets := by
    intro a ha
    obtain ⟨outcome, ho, hAsset⟩ := List.mem_filterMap.mp ha
    obtain ⟨met, -, rfl⟩ := List.mem_map.mp ho
    cases met with
    | unlisted fault => cases hAsset
    | file path relative =>
        cases hSize : v.size path with
        | error fault => simp [assetOutcome, hSize, AssetOutcome.asset?] at hAsset
        | ok size =>
            simp only [assetOutcome, hSize, AssetOutcome.asset?, Option.some.injEq] at hAsset
            subst hAsset
            exact h.size hSize

theorem scanPlugins {report : Report} (hReport : scanPlugins config v p = .ok report) :
    report.findings.HasWritableNumbers := by
  unfold ProjectAtlas.scanPlugins at hReport
  cases hList : subdirectories v (pluginRoot config p) with
  | error fault =>
      simp only [hList] at hReport
      cases hReport
      exact Findings.hasWritableNumbers_of_eq_nil rfl rfl rfl
  | ok directories =>
      simp only [hList] at hReport
      obtain ⟨outcomes, -, rfl⟩ := map_eq_ok_iff.mp hReport
      exact Findings.hasWritableNumbers_of_eq_nil rfl rfl rfl

/-- Whatever scanners run, what they find has no number with too many digits. -/
theorem runScanners (h : v.HasWritableSizes) {report : Report}
    (hRun : runScanners v p (runningScanners config v p) = .ok report) :
    report.findings.HasWritableNumbers := by
  obtain ⟨reports, hReports, rfl⟩ := map_eq_ok_iff.mp hRun
  refine Findings.HasWritableNumbers.concat fun f hf => ?_
  obtain ⟨titled, hTitled, rfl⟩ := List.mem_map.mp hf
  obtain ⟨s, hs, hOwn⟩ := exists_of_mem_mapM hReports titled hTitled
  obtain ⟨own, hAnalyze, hFindings⟩ := findings_of_titledReport hOwn
  obtain ⟨name, hBuiltin, -⟩ := mem_runningScanners.mp hs
  rw [hFindings]
  simp only [builtins, List.mem_cons, Prod.mk.injEq, List.not_mem_nil, or_false] at hBuiltin
  rcases hBuiltin with ⟨-, rfl⟩ | ⟨-, rfl⟩ | ⟨-, rfl⟩
  · exact h.scanProject hAnalyze
  · obtain ⟨ms, -, rfl⟩ := map_eq_ok_iff.mp hAnalyze
    exact h.assetReport _ ms
  · exact scanPlugins hAnalyze

end Volume.HasWritableSizes

/-- No line of a declaration and no size of a content file in an index has too many digits. -/
theorem writableNumbers_of_scan (h : v.HasWritableSizes) {o : Overrides} {root : Path} {ix : Index}
    (hBuiltin : o.scanners = none) (hScan : (scan v o root).outcome = .ok ix) :
    (∀ d ∈ ix.declarations none, Text.isTooLong d.line = false) ∧
      ∀ a ∈ ix.assets none, Text.isTooLong a.size = false := by
  obtain ⟨config, p, report, -, hRun, rfl⟩ := exists_report_of_scan hBuiltin hScan
  have hNumbers := h.runScanners hRun
  exact ⟨fun d hd => hNumbers.declarations d (Table.items_ofList_subset _ _ hd),
    fun a ha => hNumbers.assets a (Table.items_ofList_subset _ _ ha)⟩

end Scan

end ProjectAtlas
