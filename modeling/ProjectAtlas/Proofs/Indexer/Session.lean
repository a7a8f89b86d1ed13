import ProjectAtlas.Gateway.Basic
import ProjectAtlas.Indexer.Basic

/-!
One indexer over time: files change, scans run, questions are asked, in any order.

What an indexer answers from is always the outcome of the latest scan, on the files as they were then.
After a scan that failed there is nothing to answer from, whatever scans succeeded before it.
-/

namespace ProjectAtlas

/-- What can happen between an indexer, the files and its user. A question is put to the index; the
last three are passed on to a running editor. -/
inductive Operation (δ α : Type) where
  | change (f : Volume → Volume)
  | scan
  | isReady
  | ask (question : Index → α)
  | validate
  | capabilities
  | get (kind name : String)
  | mutate (kind name : String) (changes : δ)

/-- What an operation gives back. -/
inductive Response (ε ρ α : Type) where
  | changed
  | scanned (outcome : Except ScanFault Index)
  | ready (answer : Bool)
  | told (answer : Except String α)
  | checked (report : Except ScanFault LayoutReport)
  | capable (names : Except ε (List String))
  | replied (reply : Except ε (Reply ρ))

/-- The outcome of a scan, if the operation was one. -/
def Response.scanOutcome? {ε ρ α : Type} : Response ε ρ α → Option (Except ScanFault Index)
  | .scanned outcome => some outcome
  | _ => none

/-- The files, an indexer, and its gateway to an editor in some state. -/
structure Session (σ ε δ ρ : Type) where
  files : Volume
  indexer : Indexer
  gateway : Gateway σ ε δ ρ
  editor : σ

namespace Session

variable {σ ε δ ρ α : Type}

/-- A session with a new indexer. -/
def start (files : Volume) (root : Path) (overrides : Overrides) (gateway : Gateway σ ε δ ρ)
    (editor : σ) : Session σ ε δ ρ :=
  { files, indexer := { root, overrides }, gateway, editor }

/-- Carry out one operation. -/
def step (s : Session σ ε δ ρ) : Operation δ α → Response ε ρ α × Session σ ε δ ρ
  | .change f => (.changed, { s with files := f s.files })
  | .scan =>
      let (indexer, run) := s.indexer.scan s.files
      (.scanned run.outcome, { s with indexer })
  | .isReady => (.ready s.indexer.isReady, s)
  | .ask question => (.told (s.indexer.ask question), s)
  | .validate => (.checked (s.indexer.validate s.files), s)
  | .capabilities =>
      let (names, gateway, editor) := s.gateway.capabilities s.editor
      (.capable names, { s with gateway, editor })
  | .get kind name =>
      let (reply, gateway, editor) := s.gateway.get kind name s.editor
      (.replied reply, { s with gateway, editor })
  | .mutate kind name changes =>
      let (reply, gateway, editor) := s.gateway.mutate kind name changes s.editor
      (.replied reply, { s with gateway, editor })

/-- Carry out operations one after the other. -/
def run (s : Session σ ε δ ρ) : List (Operation δ α) → List (Response ε ρ α) × Session σ ε δ ρ
  | [] => ([], s)
  | op :: ops =>
      let (response, s) := s.step op
      let (responses, s) := s.run ops
      (response :: responses, s)

/-- What the scans among operations give, each on the files as they are at its turn. The indexer plays
no part in this beyond its root and its settings. -/
def scanOutcomes (overrides : Overrides) (root : Path) :
    Volume → List (Operation δ α) → List (Except ScanFault Index)
  | _, [] => []
  | files, .change f :: ops => scanOutcomes overrides root (f files) ops
  | files, .scan :: ops =>
      (ProjectAtlas.scan files overrides root).outcome :: scanOutcomes overrides root files ops
  | files, .isReady :: ops | files, .ask _ :: ops | files, .validate :: ops
  | files, .capabilities :: ops | files, .get _ _ :: ops | files, .mutate _ _ _ :: ops =>
      scanOutcomes overrides root files ops

/-- The outcome of the latest scan, if there was one. -/
def latestOutcome? (overrides : Overrides) (root : Path) (files : Volume)
    (ops : List (Operation δ α)) : Option (Except ScanFault Index) :=
  (scanOutcomes overrides root files ops).getLast?

/-- What an indexer is: its root and settings never change, and its index is that of the last of the
outcomes, if there are any. -/
structure Follows (x y : Indexer) (outcomes : List (Except ScanFault Index)) : Prop where
  root : y.root = x.root
  overrides : y.overrides = x.overrides
  index : y.index = outcomes.getLast?.elim x.index Except.toOption

theorem Follows.refl (x : Indexer) : Follows x x [] :=
  ⟨rfl, rfl, rfl⟩

theorem Follows.trans {x y z : Indexer} {first second : List (Except ScanFault Index)}
    (hFirst : Follows x y first) (hSecond : Follows y z second) :
    Follows x z (first ++ second) := by
  refine ⟨hSecond.root.trans hFirst.root, hSecond.overrides.trans hFirst.overrides, ?_⟩
  rw [hSecond.index, hFirst.index, List.getLast?_append]
  cases second.getLast? with
  | none => rfl
  | some outcome => rfl

/-- Only a scan touches the indexer, and it leaves its own outcome there, be it a success or not. -/
theorem step_follows (s : Session σ ε δ ρ) (op : Operation δ α) :
    Follows s.indexer (s.step op).2.indexer
      (scanOutcomes s.indexer.overrides s.indexer.root s.files [op]) := by
  cases op with
  | scan => exact ⟨rfl, rfl, rfl⟩
  | change f => exact .refl _
  | isReady => exact .refl _
  | ask question => exact .refl _
  | validate => exact .refl _
  | capabilities => exact .refl _
  | get kind name => exact .refl _
  | mutate kind name changes => exact .refl _

/-- The outcomes of a first operation and of those after it. -/
theorem scanOutcomes_cons (s : Session σ ε δ ρ) (op : Operation δ α) (ops : List (Operation δ α)) :
    scanOutcomes s.indexer.overrides s.indexer.root s.files (op :: ops) =
      scanOutcomes s.indexer.overrides s.indexer.root s.files [op] ++
        scanOutcomes s.indexer.overrides s.indexer.root (s.step op).2.files ops := by
  cases op <;> rfl

/-- The response to an operation tells the outcome of a scan exactly if the operation is one. -/
theorem step_scanOutcome? (s : Session σ ε δ ρ) (op : Operation δ α) :
    (s.step op).1.scanOutcome?.toList =
      scanOutcomes s.indexer.overrides s.indexer.root s.files [op] := by
  cases op <;> rfl

/-- Operations in any number: the indexer follows the outcomes of the scans among them. -/
theorem run_follows (s : Session σ ε δ ρ) (ops : List (Operation δ α)) :
    Follows s.indexer (s.run ops).2.indexer
      (scanOutcomes s.indexer.overrides s.indexer.root s.files ops) := by
  induction ops generalizing s with
  | nil => exact .refl _
  | cons op ops ih =>
      have hStep := s.step_follows op
      have hRest := ih (s.step op).2
      rw [hStep.root, hStep.overrides] at hRest
      rw [scanOutcomes_cons]
      exact hStep.trans hRest

/-- The responses of a run tell the outcomes of its scans. -/
theorem run_scanOutcomes (s : Session σ ε δ ρ) (ops : List (Operation δ α)) :
    (s.run ops).1.filterMap Response.scanOutcome? =
      scanOutcomes s.indexer.overrides s.indexer.root s.files ops := by
  induction ops generalizing s with
  | nil => rfl
  | cons op ops ih =>
      have hStep := s.step_follows op
      have hRest := ih (s.step op).2
      rw [hStep.root, hStep.overrides] at hRest
      rw [scanOutcomes_cons, ← hRest, ← step_scanOutcome?]
      cases hOutcome : (s.step op).1.scanOutcome? <;> simp [run, hOutcome]

/-- At every point of every run of a new indexer: the latest outcome that a scan gave is that of a scan
of the files as they were then; the indexer is ready exactly if there is one and it is a success; every
question is then answered from the index of that outcome, and from nothing else; and in all other
cases every question is refused. -/
theorem ask_latest (files : Volume) (root : Path) (overrides : Overrides)
    (gateway : Gateway σ ε δ ρ) (editor : σ) (ops : List (Operation δ α)) :
    let run := (start files root overrides gateway editor).run ops
    let latest := latestOutcome? overrides root files ops
    (run.1.filterMap Response.scanOutcome?).getLast? = latest ∧
      (run.2.indexer.isReady = true ↔ ∃ index, latest = some (.ok index)) ∧
      (∀ index, latest = some (.ok index) → ∀ {β : Type} (question : Index → β),
        run.2.indexer.ask question = .ok (question index)) ∧
      ((∀ index, latest ≠ some (.ok index)) → ∀ {β : Type} (question : Index → β),
        run.2.indexer.ask question =
          .error s!"No completed scan for {root.toString}; call scan() first") := by
  intro run latest
  have hRun := run_follows (start files root overrides gateway editor) ops
  have hIndex : run.2.indexer.index = latest.elim none Except.toOption := hRun.index
  have hRoot : run.2.indexer.root = root := hRun.root
  refine ⟨?_, ?_, ?_, ?_⟩
  · rw [run_scanOutcomes]
    rfl
  · rw [Indexer.isReady, hIndex]
    cases latest with
    | none => simp
    | some outcome => cases outcome <;> simp [Except.toOption]
  · intro index hLatest β question
    rw [hLatest] at hIndex
    rw [Indexer.ask, hIndex]
    rfl
  · intro hNone β question
    have hNothing : run.2.indexer.index = none := by
      rw [hIndex]
      rcases hLatest : latest with _ | (fault | index)
      · rfl
      · rfl
      · exact absurd hLatest (hNone index)
    have hMessage : run.2.indexer.notReadyMessage =
        s!"No completed scan for {root.toString}; call scan() first" := by
      unfold Indexer.notReadyMessage
      rw [hRoot]
    simp only [Indexer.ask, hNothing, hMessage]

end Session

end ProjectAtlas
