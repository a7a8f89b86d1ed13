import Mathlib.Data.List.Nodup
import ProjectAtlas.Service.Basic

/-!
One service over time. Scans are started, run beside one another and complete in any order; in between
files change and questions are asked.

What the service answers from is always the scan that was started last. That is told apart from the
service itself by the course of its scans, which is put down in their order with the outcome of each.
-/

namespace ProjectAtlas.Service

/-- What can happen. A scan reads the files at some time between its start and its end, so the event that
it completes says which files it has seen. -/
inductive Event where
  | change (f : Volume → Volume)
  | post (body : Option Json)
  | complete (number : Nat) (seen : Volume)
  | get (path : String) (parameters : List (String × String))

/-- The files, the service, and the scans that run. -/
structure System where
  files : Volume
  service : Service
  running : List PendingScan := []

namespace System

/-- Carry out an event, and give the answer that it calls for. The request that starts a scan is answered
when the scan completes. -/
def step (s : System) : Event → Option Answer × System
  | .change f => (none, { s with files := f s.files })
  | .post body =>
    match s.service.begin s.files body with
    | .error answer => (some answer, s)
    | .ok (service, pending) => (none, { s with service, running := s.running ++ [pending] })
  | .complete number seen =>
    match s.running.find? fun p => p.number = number with
    | none => (none, s)
    | some pending =>
      let (service, answer) := s.service.finish pending seen
      (some answer, { s with service, running := s.running.filter fun p => p.number ≠ number })
  | .get path parameters =>
    let (service, answer) := s.service.respond s.files { method := "GET", path, parameters }
    (some answer, { s with service })

/-- Carry out events one after the other. -/
def run (s : System) (events : List Event) : System :=
  events.foldl (fun s e => (s.step e).2) s

end System

/-- A scan that was started: its number, the root of its project, and how it ended, if it has. -/
structure StartedScan where
  number : Nat
  root : Path
  outcome : Option (Except ScanFault Index) := none

/-- The scan after the one of this number has completed. A scan completes once. -/
def StartedScan.after (number : Nat) (seen : Volume) (x : StartedScan) : StartedScan :=
  if x.number = number && x.outcome.isNone then
    { x with outcome := some (ProjectAtlas.scan seen {} x.root).outcome }
  else x

/-- The files, and all scans that were started, in their order. -/
structure Course where
  files : Volume
  scans : List StartedScan := []

namespace Course

/-- What an event adds to the course. A scan is started by a request whose path can be started from. -/
def step (c : Course) : Event → Course
  | .change f => { c with files := f c.files }
  | .post body =>
    match scanPath body with
    | .error _ => c
    | .ok path =>
      match c.files.startFrom (Path.ofString path) with
      | .error _ => c
      | .ok root => { c with scans := c.scans ++ [{ number := c.scans.length + 1, root }] }
  | .complete number seen => { c with scans := c.scans.map (·.after number seen) }
  | .get _ _ => c

/-- The course of events. -/
def run (c : Course) (events : List Event) : Course :=
  events.foldl step c

end Course

/-- The indexer of a scan that was started. -/
def StartedScan.indexer (x : StartedScan) : Indexer :=
  { root := x.root, index := x.outcome.bind Except.toOption }

/-- The indexer that answers in the course of events, `initial` before any scan. -/
def Course.answering (initial : Option Indexer) (c : Course) : Option Indexer :=
  (c.scans.getLast?.map (·.indexer)).or initial

/-- The system is where its course says: scans are numbered in their order, those without an outcome are
running, and the one that was started last answers. -/
structure Follows (initial : Option Indexer) (c : Course) (s : System) : Prop where
  files : s.files = c.files
  started : s.service.started = c.scans.length
  numbered : c.scans.map (·.number) = List.range' 1 c.scans.length
  running : ∀ p, p ∈ s.running ↔
    ∃ x ∈ c.scans, x.outcome = none ∧ p = ⟨x.number, { root := x.root }⟩
  current : s.service.current = c.answering initial

variable {initial : Option Indexer} {c : Course} {s : System}

theorem follows_start (files : Volume) (initial : Option Indexer) :
    Follows initial ⟨files, []⟩ ⟨files, { current := initial }, []⟩ :=
  ⟨rfl, rfl, rfl, by simp, rfl⟩

/-- Scans have different numbers. -/
theorem Follows.eq_of_number (h : Follows initial c s) {x y : StartedScan} (hx : x ∈ c.scans)
    (hy : y ∈ c.scans) (hSame : x.number = y.number) : x = y := by
  have hOnce : (c.scans.map (·.number)).Nodup := by
    rw [h.numbered]
    exact List.nodup_range'
  exact List.inj_on_of_nodup_map hOnce hx hy hSame

/-- The scan that was started last has the greatest number. -/
theorem Follows.number_last (h : Follows initial c s) {x : StartedScan}
    (hLast : c.scans.getLast? = some x) : x.number = c.scans.length := by
  have hNumber := congrArg List.getLast? h.numbered
  have hSome : 0 < c.scans.length := List.length_pos_of_mem (List.mem_of_getLast? hLast)
  rw [List.getLast?_map, hLast, List.getLast?_range', if_neg (by omega)] at hNumber
  simpa using hNumber

theorem number_after (number : Nat) (seen : Volume) (x : StartedScan) :
    (x.after number seen).number = x.number := by
  unfold StartedScan.after
  split <;> rfl

theorem root_after (number : Nat) (seen : Volume) (x : StartedScan) :
    (x.after number seen).root = x.root := by
  unfold StartedScan.after
  split <;> rfl

/-- A scan completes only under its own number, and only once. -/
theorem after_eq_self {number : Nat} {x : StartedScan}
    (h : x.number ≠ number ∨ x.outcome ≠ none) (seen : Volume) : x.after number seen = x := by
  unfold StartedScan.after
  rw [if_neg]
  simpa [imp_iff_not_or] using h

theorem outcome_after {number : Nat} {x : StartedScan} (hNumber : x.number = number)
    (hRuns : x.outcome = none) (seen : Volume) :
    (x.after number seen).outcome = some (ProjectAtlas.scan seen {} x.root).outcome := by
  simp [StartedScan.after, hNumber, hRuns]

/-- What still runs after a scan has completed has another number, and ran before. -/
theorem running_after_iff {number : Nat} {seen : Volume} {x : StartedScan} :
    (x.after number seen).outcome = none ↔ x.outcome = none ∧ x.number ≠ number := by
  by_cases hSame : x.number = number ∧ x.outcome = none
  · simp [outcome_after hSame.1 hSame.2, hSame.1]
  · have hSelf := after_eq_self (not_and_or.mp hSame) seen
    rw [hSelf]
    exact ⟨fun hRuns => ⟨hRuns, fun hNumber => hSame ⟨hNumber, hRuns⟩⟩, And.left⟩

theorem follows_post (h : Follows initial c s) (body : Option Json) :
    Follows initial (c.step (.post body)) (s.step (.post body)).2 := by
  simp only [Course.step, System.step, Service.begin, h.files]
  cases scanPath body with
  | error fault => exact h
  | ok path =>
      cases hStart : c.files.startFrom (Path.ofString path) with
      | error fault => simpa [Indexer.atPath, hStart, Except.map] using h
      | ok root =>
          simp only [Indexer.atPath, hStart, Except.map, Service.start]
          constructor
          case files => rfl
          case started => simp [h.started]
          case numbered =>
            rw [List.map_append, h.numbered, List.length_append, List.length_singleton,
              List.range'_1_concat]
            simp [Nat.add_comm]
          case running =>
            intro p
            simp only [List.mem_append, h.running, List.mem_singleton, h.started]
            constructor
            · rintro (⟨x, hx, hRuns, rfl⟩ | rfl)
              · exact ⟨x, .inl hx, hRuns, rfl⟩
              · exact ⟨_, .inr rfl, rfl, rfl⟩
            · rintro ⟨x, hx | rfl, hRuns, rfl⟩
              · exact .inl ⟨x, hx, hRuns, rfl⟩
              · exact .inr rfl
          case current => simp [Course.answering, StartedScan.indexer]

theorem follows_complete (h : Follows initial c s) (number : Nat) (seen : Volume) :
    Follows initial (c.step (.complete number seen)) (s.step (.complete number seen)).2 := by
  simp only [Course.step, System.step]
  cases hFind : s.running.find? fun p => p.number = number with
  | none =>
      -- No scan of this number runs, so none completes.
      have hSelf : c.scans.map (·.after number seen) = c.scans := by
        refine (List.map_congr_left fun x hx => after_eq_self ?_ seen).trans (List.map_id' _)
        rw [← not_and_or]
        rintro ⟨hNumber, hRuns⟩
        have hMem := (h.running _).mpr ⟨x, hx, hRuns, rfl⟩
        simpa [hNumber] using List.find?_eq_none.mp hFind _ hMem
      rw [hSelf]
      exact h
  | some pending =>
      have hNumber : pending.number = number := by simpa using List.find?_some hFind
      obtain ⟨x, hx, hRuns, rfl⟩ := (h.running pending).mp (List.mem_of_find?_eq_some hFind)
      constructor
      case files => exact h.files
      case started =>
        simp only [Service.finish, List.length_map]
        split <;> exact h.started
      case numbered =>
        simpa [Function.comp_def, number_after] using h.numbered
      case running =>
        intro p
        simp only [List.mem_filter, h.running, List.mem_map]
        constructor
        · rintro ⟨⟨y, hy, hOpen, rfl⟩, hOther⟩
          have hSelf : y.after number seen = y := after_eq_self (.inl (by simpa using hOther)) seen
          exact ⟨y, ⟨y, hy, hSelf⟩, hOpen, rfl⟩
        · rintro ⟨_, ⟨y, hy, rfl⟩, hOpen, rfl⟩
          obtain ⟨hBefore, hOther⟩ := running_after_iff.mp hOpen
          rw [number_after, root_after]
          exact ⟨⟨y, hy, hBefore, rfl⟩, by simpa using hOther⟩
      case current =>
        cases hLast : c.scans.getLast? with
        | none => simp [List.getLast?_eq_none_iff.mp hLast] at hx
        | some l =>
            have hEnd := h.number_last hLast
            simp only [Course.answering, List.getLast?_map, hLast, Option.map_some, Option.some_or,
              Service.finish]
            by_cases hLatest : x.number = s.service.started
            · obtain rfl : l = x := h.eq_of_number (List.mem_of_getLast? hLast) hx
                (by rw [hEnd, hLatest, h.started])
              simp only [if_pos hLatest, StartedScan.indexer, root_after,
                outcome_after hNumber hRuns seen]
              rfl
            · -- A later scan answers, and it stays as it is.
              have hOther : l.number ≠ number := by
                intro hSame
                rw [hEnd, ← h.started, ← hNumber] at hSame
                exact hLatest hSame.symm
              rw [if_neg hLatest, after_eq_self (.inl hOther) seen, h.current, Course.answering, hLast]
              rfl

/-- Questions leave the service as it is. -/
theorem respond_get (s : Service) (v : Volume) (path : String)
    (parameters : List (String × String)) :
    (s.respond v { method := "GET", path, parameters }).1 = s := by
  simp only [Service.respond]
  cases Route.ofPath? path with
  | none => rfl
  | some route => cases route <;> rfl

theorem respond_get_of_route (s : Service) (v : Volume) {path : String} {route : Route}
    (parameters : List (String × String)) (hRoute : Route.ofPath? path = some route)
    (hGet : route ≠ .scan) :
    (s.respond v { method := "GET", path, parameters }).2 =
      s.answer { method := "GET", path, parameters } route := by
  simp only [Service.respond, hRoute]
  cases route with
  | scan => exact absurd rfl hGet
  | _ => rfl

theorem follows_step (h : Follows initial c s) (e : Event) :
    Follows initial (c.step e) (s.step e).2 := by
  cases e with
  | change f => exact ⟨congrArg f h.files, h.started, h.numbered, h.running, h.current⟩
  | post body => exact follows_post h body
  | complete number seen => exact follows_complete h number seen
  | get path parameters =>
      simp only [Course.step, System.step, respond_get]
      exact h

/-- After events in any number and order the system is where its course says. -/
theorem follows_run (h : Follows initial c s) (events : List Event) :
    Follows initial (c.run events) (s.run events) := by
  induction events generalizing c s with
  | nil => exact h
  | cons e events ih => exact ih (follows_step h e)

/-- The question is refused with a text. The status is 409, if the text can be sent as bytes at all. -/
def Refused (text : String) (answer : Option Answer) : Prop :=
  answer = some (.detail 409 text) ∧
    (Text.hasLoneHalf text = false → ∃ body, answer = some (.document 409 body))

theorem refused_detail (text : String) : Refused text (some (.detail 409 text)) := by
  refine ⟨rfl, fun hPlain => ⟨.obj [("detail", .str text)], ?_⟩⟩
  have hKey : Text.hasLoneHalf "detail" = false := by decide
  simp [Answer.detail, Answer.send, Json.isPlain, Json.fieldsArePlain, hKey, hPlain]

theorem answer_of_index {s : Service} {ix : Index} (hIndex : s.index = .ok ix) (r : Request)
    {route : Route} (hHealth : route ≠ .health) : s.answer r route = answerFrom ix r route := by
  cases route with
  | health => exact absurd rfl hHealth
  | _ => simp only [Service.answer, hIndex]

theorem answer_of_no_index {s : Service} {message : String} (hIndex : s.index = .error message)
    (r : Request) {route : Route} (hHealth : route ≠ .health) :
    s.answer r route = .detail 409 message := by
  cases route with
  | health => exact absurd rfl hHealth
  | _ => simp only [Service.answer, hIndex]

/-- A question other than the one for the service's health is put to the indexer that answers. -/
theorem answer_of_query (s : Service) (r : Request) {route : Route} (hHealth : route ≠ .health) :
    (∀ x ix, s.current = some x → x.index = some ix →
      s.answer r route = answerFrom ix r route) ∧
    (∀ x, s.current = some x → x.index = none →
      s.answer r route = .detail 409 x.notReadyMessage) ∧
    (s.current = none → s.answer r route = .detail 409 noIndexerMessage) := by
  refine ⟨fun x ix hCurrent hIndex => answer_of_index ?_ r hHealth,
    fun x hCurrent hIndex => answer_of_no_index ?_ r hHealth,
    fun hCurrent => answer_of_no_index ?_ r hHealth⟩
  · simp [Service.index, Indexer.ask, hCurrent, hIndex]
  · simp [Service.index, Indexer.ask, hCurrent, hIndex]
  · simp [Service.index, hCurrent]

/-- At every point of every course of events, a question is answered from the index of the scan that was
started last, if that has completed and found one. It is refused if that scan still runs or has failed,
whatever scans completed before or after it was started. Before any scan was started, the first indexer
answers if there is one and it is ready, and the question is refused otherwise. The service says that it
is ready exactly if there is an index to answer from. No question changes anything. -/
theorem get_answered_by_latest (files : Volume) (initial : Option Indexer) (events : List Event)
    (path : String) (parameters : List (String × String)) :
    let system := System.run ⟨files, { current := initial }, []⟩ events
    let scans := (Course.run ⟨files, []⟩ events).scans
    let answer := (system.step (.get path parameters)).1
    (system.step (.get path parameters)).2 = system ∧
    (∀ route, Route.ofPath? path = some route → route ≠ .scan → route ≠ .health →
      (∀ x, scans.getLast? = some x →
        (∀ ix, x.outcome = some (.ok ix) →
          answer = some (answerFrom ix { method := "GET", path, parameters } route)) ∧
        ((∀ ix, x.outcome ≠ some (.ok ix)) →
          Refused s!"No completed scan for {x.root.toString}; call scan() first" answer)) ∧
      (scans = [] →
        (∀ x ix, initial = some x → x.index = some ix →
          answer = some (answerFrom ix { method := "GET", path, parameters } route)) ∧
        (∀ x, initial = some x → x.index = none →
          Refused s!"No completed scan for {x.root.toString}; call scan() first" answer) ∧
        (initial = none → Refused "No project has been scanned yet; POST /scan first" answer))) ∧
    (Route.ofPath? path = some .health →
      let ready := match scans.getLast? with
        | some x => (x.outcome.bind Except.toOption).isSome
        | none => initial.any Indexer.isReady
      answer = some (.send 200 (.obj [("status", .str "ok"), ("scanned", .bool ready)]))) := by
  intro system scans answer
  have hFollows : Follows initial (Course.run ⟨files, []⟩ events) system :=
    follows_run (follows_start files initial) events
  have hCurrent : system.service.current = (scans.getLast?.map (·.indexer)).or initial :=
    hFollows.current
  have hAnswer : answer =
      some (system.service.respond system.files { method := "GET", path, parameters }).2 := rfl
  refine ⟨?_, fun route hRoute hGet hHealth => ?_, fun hRoute => ?_⟩
  · simp only [System.step, respond_get]
  · rw [respond_get_of_route _ _ _ hRoute hGet] at hAnswer
    obtain ⟨hFound, hNotReady, hNobody⟩ :=
      answer_of_query system.service { method := "GET", path, parameters } hHealth
    rw [hAnswer]
    refine ⟨fun x hLast => ?_, fun hNone => ?_⟩
    · have hLatest : system.service.current = some x.indexer := by simp [hCurrent, hLast]
      refine ⟨fun ix hOutcome => ?_, fun hOutcome => ?_⟩
      · rw [hFound _ ix hLatest (by simp [StartedScan.indexer, hOutcome, Except.toOption])]
      · have hIndex : x.indexer.index = none := by
          cases hEnd : x.outcome with
          | none => simp [StartedScan.indexer, hEnd]
          | some outcome =>
              cases outcome with
              | error fault => simp [StartedScan.indexer, hEnd, Except.toOption]
              | ok ix => exact absurd hEnd (hOutcome ix)
        rw [hNotReady _ hLatest hIndex]
        exact refused_detail _
    · have hFirst : system.service.current = initial := by simp [hCurrent, hNone]
      refine ⟨fun x ix hInitial hIndex => ?_, fun x hInitial hIndex => ?_, fun hInitial => ?_⟩
      · rw [hFound x ix (hFirst.trans hInitial) hIndex]
      · rw [hNotReady x (hFirst.trans hInitial) hIndex]
        exact refused_detail _
      · rw [hNobody (hFirst.trans hInitial)]
        exact refused_detail _
  · rw [hAnswer, respond_get_of_route _ _ _ hRoute (by simp)]
    have hReady : system.service.isReady = match scans.getLast? with
        | some x => (x.outcome.bind Except.toOption).isSome
        | none => initial.any Indexer.isReady := by
      rw [Service.isReady, hCurrent]
      cases scans.getLast? with
      | none => rfl
      | some x => rfl
    simp only [Service.answer, hReady]

/-- A project whose manifest is empty. -/
def plainProject : Volume where
  root := .dir [("P", .dir [("P.uproject", .file (.bytes [123, 125]) false)] false)] false

/-- A request for a scan of that project, or of one that is not there. -/
def scanOf (path : String) : Event :=
  .post (some (.obj [("path", .str path)]))

/-- The statement on questions, for two scans of which the one that was started first completes last. If
the later one fails there is no answer, though the other one succeeds after it; if the later one
succeeds it is what answers. -/
theorem get_answered_by_later_scan :
    let failing := [scanOf "/P", scanOf "/Q", .complete 2 plainProject, .complete 1 plainProject]
    let succeeding := [scanOf "/Q", scanOf "/P", .complete 2 plainProject, .complete 1 plainProject]
    Refused "No completed scan for /Q; call scan() first"
        ((System.run ⟨plainProject, {}, []⟩ failing).step (.get "/summary" [])).1 ∧
      ∃ ix, (ProjectAtlas.scan plainProject {} ⟨.root, ["P"]⟩).outcome = .ok ix ∧
        ((System.run ⟨plainProject, {}, []⟩ succeeding).step (.get "/summary" [])).1 =
          some (answerFrom ix { method := "GET", path := "/summary" } .summary) := by
  intro failing succeeding
  constructor
  · have hLast : (Course.run ⟨plainProject, []⟩ failing).scans.getLast? =
        some ⟨2, ⟨.root, ["Q"]⟩,
          some (ProjectAtlas.scan plainProject {} ⟨.root, ["Q"]⟩).outcome⟩ := rfl
    have hFails :
        (ProjectAtlas.scan plainProject {} ⟨.root, ["Q"]⟩).outcome.toOption.isSome = false := by
      decide +kernel
    obtain ⟨-, hQuery, -⟩ := get_answered_by_latest plainProject none failing "/summary" []
    refine ((hQuery .summary rfl (by simp) (by simp)).1 _ hLast).2 fun ix hOutcome => ?_
    rw [Option.some.inj hOutcome] at hFails
    cases hFails
  · have hLast : (Course.run ⟨plainProject, []⟩ succeeding).scans.getLast? =
        some ⟨2, ⟨.root, ["P"]⟩,
          some (ProjectAtlas.scan plainProject {} ⟨.root, ["P"]⟩).outcome⟩ := rfl
    have hSucceeds :
        (ProjectAtlas.scan plainProject {} ⟨.root, ["P"]⟩).outcome.toOption.isSome = true := by
      decide +kernel
    cases hOutcome : (ProjectAtlas.scan plainProject {} ⟨.root, ["P"]⟩).outcome with
    | error fault =>
        rw [hOutcome] at hSucceeds
        cases hSucceeds
    | ok ix =>
        obtain ⟨-, hQuery, -⟩ := get_answered_by_latest plainProject none succeeding "/summary" []
        refine ⟨ix, rfl, ((hQuery .summary rfl (by simp) (by simp)).1 _ hLast).1 ix ?_⟩
        rw [hOutcome]

end ProjectAtlas.Service
