import Mathlib.Data.List.Induction
import ProjectAtlas.Gateway.Basic
import ProjectAtlas.Proofs.Scanner.Selection

/-!
A gateway over time, before a delegate that may answer every call as it likes or fail.

The delegate is asked what it can do until it answers for the first time, and never again. That answer
decides about every request: one that needs what was named then is passed on once, as it is, and its reply
is handed back; any other reaches no delegate.
-/

namespace ProjectAtlas

variable {σ ε δ ρ : Type}

/-- A call of a delegate, with what it gave. -/
inductive DelegateCall (ε δ ρ : Type) where
  | capabilities (names : Except ε (List String))
  | get (kind name : String) (reply : Except ε (Reply ρ))
  | mutate (kind name : String) (changes : δ) (reply : Except ε (Reply ρ))

namespace DelegateCall

/-- The call asks what the delegate can do. -/
def isQuery : DelegateCall ε δ ρ → Bool
  | .capabilities _ => true
  | _ => false

/-- What the delegate has named when it answered for the first time, if it has. -/
def answered : List (DelegateCall ε δ ρ) → Option (List String)
  | [] => none
  | .capabilities (.ok names) :: _ => some names
  | _ :: calls => answered calls

theorem answered_append (calls more : List (DelegateCall ε δ ρ)) :
    answered (calls ++ more) = (answered calls).or (answered more) := by
  induction calls with
  | nil => rfl
  | cons call calls ih =>
      cases call with
      | capabilities names => cases names <;> simp [answered, ih]
      | get kind name reply => simpa [answered] using ih
      | mutate kind name changes reply => simpa [answered] using ih

theorem answered_eq_none_of_not_query {call : DelegateCall ε δ ρ} (h : call.isQuery = false) :
    answered [call] = none := by
  cases call with
  | capabilities names => simp [isQuery] at h
  | get kind name reply | mutate kind name changes reply => rfl

theorem not_mem_of_answered_eq_none {calls : List (DelegateCall ε δ ρ)} (h : answered calls = none)
    (names : List String) : DelegateCall.capabilities (.ok names) ∉ calls := by
  intro hMem
  obtain ⟨front, back, rfl⟩ := List.append_of_mem hMem
  rw [answered_append] at h
  cases hFront : answered front <;> simp [hFront, answered] at h

end DelegateCall

open DelegateCall

namespace LiveDelegate

/-- The delegate that also writes down every call, behind those before it. -/
def recorded (d : LiveDelegate σ ε δ ρ) :
    LiveDelegate (σ × List (DelegateCall ε δ ρ)) ε δ ρ where
  capabilities s :=
    let (names, after) := d.capabilities s.1
    (names, after, s.2 ++ [.capabilities names])
  get kind name s :=
    let (reply, after) := d.get kind name s.1
    (reply, after, s.2 ++ [.get kind name reply])
  mutate kind name changes s :=
    let (reply, after) := d.mutate kind name changes s.1
    (reply, after, s.2 ++ [.mutate kind name changes reply])

/-- The calls, made one after the other from the first state on, give what stands with them and lead to the
last state. -/
inductive Gives (d : LiveDelegate σ ε δ ρ) : σ → List (DelegateCall ε δ ρ) → σ → Prop where
  | none (s : σ) : Gives d s [] s
  | capabilities {s t u : σ} {names : Except ε (List String)} {calls : List (DelegateCall ε δ ρ)}
      (first : d.capabilities s = (names, t)) (rest : Gives d t calls u) :
      Gives d s (.capabilities names :: calls) u
  | get {s t u : σ} {kind name : String} {reply : Except ε (Reply ρ)}
      {calls : List (DelegateCall ε δ ρ)} (first : d.get kind name s = (reply, t))
      (rest : Gives d t calls u) : Gives d s (.get kind name reply :: calls) u
  | mutate {s t u : σ} {kind name : String} {changes : δ} {reply : Except ε (Reply ρ)}
      {calls : List (DelegateCall ε δ ρ)} (first : d.mutate kind name changes s = (reply, t))
      (rest : Gives d t calls u) : Gives d s (.mutate kind name changes reply :: calls) u

theorem Gives.append {d : LiveDelegate σ ε δ ρ} {s t u : σ} {calls more : List (DelegateCall ε δ ρ)}
    (first : d.Gives s calls t) (second : d.Gives t more u) : d.Gives s (calls ++ more) u := by
  induction first with
  | none => exact second
  | capabilities first _ ih => exact .capabilities first (ih second)
  | get first _ ih => exact .get first (ih second)
  | mutate first _ ih => exact .mutate first (ih second)

end LiveDelegate

namespace Gateway

/-- What can be asked of a gateway. -/
inductive Operation (δ : Type) where
  | attached
  | capabilities
  | get (kind name : String)
  | mutate (kind name : String) (changes : δ)

/-- What a gateway gives back. -/
inductive Outcome (ε ρ : Type) where
  | attached (answer : Bool)
  | capable (names : Except ε (List String))
  | replied (reply : Except ε (Reply ρ))

/-- Carry out one operation. -/
def perform (g : Gateway σ ε δ ρ) (s : σ) : Operation δ → Outcome ε ρ × Gateway σ ε δ ρ × σ
  | .attached => (.attached g.attached, g, s)
  | .capabilities =>
      let (names, g, s) := g.capabilities s
      (.capable names, g, s)
  | .get kind name =>
      let (reply, g, s) := g.get kind name s
      (.replied reply, g, s)
  | .mutate kind name changes =>
      let (reply, g, s) := g.mutate kind name changes s
      (.replied reply, g, s)

/-- Carry out operations one after the other. -/
def run (g : Gateway σ ε δ ρ) (s : σ) : List (Operation δ) → List (Outcome ε ρ) × σ
  | [] => ([], s)
  | op :: ops =>
      let (outcome, g, s) := g.perform s op
      let (outcomes, s) := g.run s ops
      (outcome :: outcomes, s)

/-- An operation with its outcome and the calls of the delegate that it led to. -/
structure Turn (ε δ ρ : Type) where
  operation : Operation δ
  outcome : Outcome ε ρ
  calls : List (DelegateCall ε δ ρ)

/-- All calls of several turns. -/
def Turn.allCalls (turns : List (Turn ε δ ρ)) : List (DelegateCall ε δ ρ) :=
  turns.flatMap (·.calls)

/-- The turns of operations, told apart by what the delegate writes down. -/
def turns (g : Gateway (σ × List (DelegateCall ε δ ρ)) ε δ ρ) (s : σ) :
    List (Operation δ) → List (Turn ε δ ρ)
  | [] => []
  | op :: ops =>
      let (outcome, g, s, calls) := g.perform (s, []) op
      ⟨op, outcome, calls⟩ :: g.turns s ops

/-- What a delegate has to be able to do for a request, and the call that passes the request on. -/
def Operation.need? : Operation δ → Option (String × (Except ε (Reply ρ) → DelegateCall ε δ ρ))
  | .get kind name => some (readCapability, .get kind name)
  | .mutate kind name changes => some (mutateCapability, .mutate kind name changes)
  | _ => none

/-- After the calls `before`, these names are known without a call, or are found out by asking. -/
inductive Learned (before : List (DelegateCall ε δ ρ)) (names : List String) :
    List (DelegateCall ε δ ρ) → Prop where
  | known (hKnown : answered before = some names) : Learned before names []
  | asked (hNone : answered before = none) : Learned before names [.capabilities (.ok names)]

/-- What a turn may be after the calls `before`. -/
inductive Turn.Gated (before : List (DelegateCall ε δ ρ)) : Turn ε δ ρ → Prop where
  /-- Whether a delegate is attached is told without a call. -/
  | attached : Gated before ⟨.attached, .attached true, []⟩
  /-- The names that the delegate gave first are told. -/
  | listed {names : List String} {asked : List (DelegateCall ε δ ρ)}
      (hNames : Learned before names asked) :
      Gated before ⟨.capabilities, .capable (.ok (sortedNames names)), asked⟩
  /-- The failure of a query is passed on. -/
  | unlisted {e : ε} (hNone : answered before = none) :
      Gated before ⟨.capabilities, .capable (.error e), [.capabilities (.error e)]⟩
  /-- A request for which the query fails passes the failure on, and goes no further. -/
  | failed {op : Operation δ} {capability : String}
      {call : Except ε (Reply ρ) → DelegateCall ε δ ρ} {e : ε}
      (hNeed : op.need? = some (capability, call)) (hNone : answered before = none) :
      Gated before ⟨op, .replied (.error e), [.capabilities (.error e)]⟩
  /-- A request for what the delegate has not named goes no further. -/
  | refused {op : Operation δ} {capability : String}
      {call : Except ε (Reply ρ) → DelegateCall ε δ ρ} {names : List String}
      {asked : List (DelegateCall ε δ ρ)} (hNeed : op.need? = some (capability, call))
      (hNames : Learned before names asked) (hLacks : capability ∉ names) :
      Gated before
        ⟨op, .replied (.ok (.unavailable ("delegate does not support '" ++ capability ++ "'"))), asked⟩
  /-- A request for what the delegate has named is passed on once, and its reply is handed back. -/
  | passed {op : Operation δ} {capability : String}
      {call : Except ε (Reply ρ) → DelegateCall ε δ ρ} {names : List String}
      {asked : List (DelegateCall ε δ ρ)} {reply : Except ε (Reply ρ)}
      (hNeed : op.need? = some (capability, call)) (hNames : Learned before names asked)
      (hHas : capability ∈ names) : Gated before ⟨op, .replied reply, asked ++ [call reply]⟩

/-- What an operation gives without a delegate. -/
def Operation.unserved : Operation δ → Outcome ε ρ
  | .attached => .attached false
  | .capabilities => .capable (.ok [])
  | .get _ _ => .replied (.ok (.unavailable noDelegate))
  | .mutate _ _ _ => .replied (.ok (.unavailable noDelegate))

/-- The gateway after these calls of its delegate: it knows the first answer. -/
def after (d : LiveDelegate σ ε δ ρ) (calls : List (DelegateCall ε δ ρ)) : Gateway σ ε δ ρ where
  delegate := some d
  known := (answered calls).map sortedNames

theorem Operation.isQuery_need {op : Operation δ} {capability : String}
    {call : Except ε (Reply ρ) → DelegateCall ε δ ρ} (hNeed : op.need? = some (capability, call))
    (reply : Except ε (Reply ρ)) : (call reply).isQuery = false := by
  cases op <;> simp only [need?, Option.some.injEq, Prod.mk.injEq, reduceCtorEq] at hNeed <;>
    obtain ⟨-, rfl⟩ := hNeed <;> rfl

/-- A request is no answer to a query. -/
theorem after_call {op : Operation δ} {capability : String}
    {call : Except ε (Reply ρ) → DelegateCall ε δ ρ} (hNeed : op.need? = some (capability, call))
    (d : LiveDelegate σ ε δ ρ) (before : List (DelegateCall ε δ ρ)) (reply : Except ε (Reply ρ)) :
    after d (before ++ [call reply]) = after d before := by
  simp [after, answered_append, answered_eq_none_of_not_query (Operation.isQuery_need hNeed reply)]

/-- What the query of a gateway gives after the calls `before`, and the calls it leads to. -/
inductive Queried (before : List (DelegateCall ε δ ρ)) :
    Except ε (List String) → List (DelegateCall ε δ ρ) → Prop where
  | answer {names : List String} {asked : List (DelegateCall ε δ ρ)}
      (hNames : Learned before names asked) : Queried before (.ok (sortedNames names)) asked
  | failure {e : ε} (hNone : answered before = none) :
      Queried before (.error e) [.capabilities (.error e)]

/-- One query, before the delegate and before the one that writes its calls down. -/
theorem capabilities_after (d : LiveDelegate σ ε δ ρ) (before : List (DelegateCall ε δ ρ)) (s : σ) :
    ∃ names asked t, Queried before names asked ∧ d.Gives s asked t ∧
      (after d before).capabilities s = (names, after d (before ++ asked), t) ∧
      ∀ log, (after d.recorded before).capabilities (s, log) =
        (names, after d.recorded (before ++ asked), t, log ++ asked) := by
  cases hKnown : answered before with
  | some names =>
      refine ⟨.ok (sortedNames names), [], s, .answer (.known hKnown), .none s, ?_, fun log => ?_⟩ <;>
        simp [capabilities, after, hKnown]
  | none =>
      obtain ⟨⟨e | names, t⟩, hAsk⟩ : ∃ given, d.capabilities s = given := ⟨_, rfl⟩
      · refine ⟨.error e, _, t, .failure hKnown, .capabilities hAsk (.none t), ?_, fun log => ?_⟩ <;>
          simp [capabilities, after, LiveDelegate.recorded, hKnown, hAsk, answered_append, answered]
      · refine ⟨.ok (sortedNames names), _, t, .answer (.asked hKnown),
          .capabilities hAsk (.none t), ?_, fun log => ?_⟩ <;>
          simp [capabilities, after, LiveDelegate.recorded, hKnown, hAsk, answered_append, answered]

/-- One request, before the delegate and before the one that writes its calls down. -/
theorem request_after {op : Operation δ} {capability : String}
    {call : Except ε (Reply ρ) → DelegateCall ε δ ρ} (hNeed : op.need? = some (capability, call))
    (d : LiveDelegate σ ε δ ρ) (pass : LiveDelegate σ ε δ ρ → σ → Except ε (Reply ρ) × σ)
    (passWritten : LiveDelegate (σ × List (DelegateCall ε δ ρ)) ε δ ρ →
      σ × List (DelegateCall ε δ ρ) → Except ε (Reply ρ) × σ × List (DelegateCall ε δ ρ))
    (hPass : ∀ t, ∃ reply u, d.Gives t [call reply] u ∧ pass d t = (reply, u) ∧
      ∀ log, passWritten d.recorded (t, log) = (reply, u, log ++ [call reply]))
    (before : List (DelegateCall ε δ ρ)) (s : σ) :
    ∃ reply calls t, Turn.Gated before ⟨op, .replied reply, calls⟩ ∧ d.Gives s calls t ∧
      (after d before).request capability pass s = (reply, after d (before ++ calls), t) ∧
      ∀ log, (after d.recorded before).request capability passWritten (s, log) =
        (reply, after d.recorded (before ++ calls), t, log ++ calls) := by
  have hDelegate : ∀ {τ : Type} (e : LiveDelegate τ ε δ ρ), (after e before).delegate = some e :=
    fun _ => rfl
  obtain ⟨_, asked, t, hQueried, hAsked, hPlain, hWritten⟩ := capabilities_after d before s
  cases hQueried with
  | failure hNone =>
      rename_i e
      refine ⟨.error e, _, t, .failed hNeed hNone, hAsked, ?_, fun log => ?_⟩
      · simp only [request, hDelegate, hPlain]
      · simp only [request, hDelegate, hWritten]
  | answer hNames =>
      rename_i names
      by_cases hHas : capability ∈ names
      · have hContains : (sortedNames names).contains capability = true :=
          List.contains_iff_mem.mpr (mem_sortedNames.mpr hHas)
        obtain ⟨reply, u, hReply, hGiven, hNoted⟩ := hPass t
        refine ⟨reply, asked ++ [call reply], u, .passed hNeed hNames hHas, hAsked.append hReply, ?_,
          fun log => ?_⟩
        · simp only [request, hDelegate, hPlain, hContains, if_true, hGiven, ← List.append_assoc,
            after_call hNeed]
        · simp only [request, hDelegate, hWritten, hContains, if_true, hNoted, ← List.append_assoc,
            after_call hNeed]
      · have hLacks : (sortedNames names).contains capability = false := by
          simpa [mem_sortedNames] using hHas
        refine ⟨_, asked, t, .refused hNeed hNames hHas, hAsked, ?_, fun log => ?_⟩
        · simp only [request, hDelegate, hPlain, hLacks]
          rfl
        · simp only [request, hDelegate, hWritten, hLacks]
          rfl

/-- One operation: it is gated by the calls before it, the delegate gives what is written down, and writing
down changes nothing else. -/
theorem perform_after (d : LiveDelegate σ ε δ ρ) (before : List (DelegateCall ε δ ρ)) (s : σ)
    (op : Operation δ) :
    ∃ outcome calls t, Turn.Gated before ⟨op, outcome, calls⟩ ∧ d.Gives s calls t ∧
      (after d before).perform s op = (outcome, after d (before ++ calls), t) ∧
      ∀ log, (after d.recorded before).perform (s, log) op =
        (outcome, after d.recorded (before ++ calls), t, log ++ calls) := by
  cases op with
  | attached =>
      refine ⟨.attached true, [], s, .attached, .none s, ?_, fun log => ?_⟩ <;>
        simp [perform, Gateway.attached, after]
  | capabilities =>
      obtain ⟨names, asked, t, hQueried, hAsked, hPlain, hWritten⟩ := capabilities_after d before s
      refine ⟨.capable names, asked, t, ?_, hAsked, ?_, fun log => ?_⟩
      · cases hQueried with
        | answer hNames => exact .listed hNames
        | failure hNone => exact .unlisted hNone
      · simp only [perform, hPlain]
      · simp only [perform, hWritten]
  | get kind name =>
      have hNeed : Operation.need? (.get kind name) = some (readCapability,
          (.get kind name : Except ε (Reply ρ) → DelegateCall ε δ ρ)) := rfl
      obtain ⟨reply, calls, t, hGated, hGives, hPlain, hWritten⟩ :=
        request_after hNeed d (fun d => d.get kind name) (fun d => d.get kind name)
          (fun t => ⟨_, _, .get rfl (.none _), rfl, fun _ => rfl⟩) before s
      refine ⟨.replied reply, calls, t, hGated, hGives, ?_, fun log => ?_⟩
      · simp only [perform, Gateway.get, hPlain]
      · simp only [perform, Gateway.get, hWritten]
  | mutate kind name changes =>
      have hNeed : Operation.need? (.mutate kind name changes) = some (mutateCapability,
          (.mutate kind name changes : Except ε (Reply ρ) → DelegateCall ε δ ρ)) := rfl
      obtain ⟨reply, calls, t, hGated, hGives, hPlain, hWritten⟩ :=
        request_after hNeed d (fun d => d.mutate kind name changes)
          (fun d => d.mutate kind name changes)
          (fun t => ⟨_, _, .mutate rfl (.none _), rfl, fun _ => rfl⟩) before s
      refine ⟨.replied reply, calls, t, hGated, hGives, ?_, fun log => ?_⟩
      · simp only [perform, Gateway.mutate, hPlain]
      · simp only [perform, Gateway.mutate, hWritten]

/-- What follows the query, if there is one, holds no other. -/
theorem Learned.query {before asked more earlier later : List (DelegateCall ε δ ρ)} {names : List String}
    {answer : Except ε (List String)} (hNames : Learned before names asked)
    (hMore : ∀ call ∈ more, call.isQuery = false)
    (hCalls : asked ++ more = earlier ++ .capabilities answer :: later) :
    earlier = [] ∧ answered before = none := by
  have hNot : ∀ front, more ≠ front ++ .capabilities answer :: later := by
    intro front hSame
    have hQuery := hMore (.capabilities answer) (by simp [hSame])
    simp [isQuery] at hQuery
  cases hNames with
  | known => exact absurd hCalls (hNot earlier)
  | asked hNone =>
      cases earlier with
      | nil => exact ⟨rfl, hNone⟩
      | cons call earlier => exact absurd (List.cons.inj hCalls).2 (hNot earlier)

/-- A turn asks the delegate only first of all, and only if it has not answered before. -/
theorem Turn.Gated.query {before : List (DelegateCall ε δ ρ)} {turn : Turn ε δ ρ}
    (hGated : turn.Gated before) {earlier later : List (DelegateCall ε δ ρ)}
    {answer : Except ε (List String)} (hCalls : turn.calls = earlier ++ .capabilities answer :: later) :
    earlier = [] ∧ answered before = none := by
  cases hGated with
  | attached => simp at hCalls
  | listed hNames | refused _ hNames =>
      exact hNames.query (by simp) ((List.append_nil _).trans hCalls)
  | unlisted hNone | failed _ hNone =>
      rcases List.cons_eq_append_iff.mp hCalls with ⟨rfl, -⟩ | ⟨rest, rfl, hRest⟩
      · exact ⟨rfl, hNone⟩
      · simp at hRest
  | passed hNeed hNames =>
      refine hNames.query (fun call hMem => ?_) hCalls
      rw [List.mem_singleton.mp hMem, Operation.isQuery_need hNeed]

/-- Turns that follow the calls `before` are gated, each by all calls in front of it. -/
def AllGated (before : List (DelegateCall ε δ ρ)) (turns : List (Turn ε δ ρ)) : Prop :=
  ∀ front turn back, turns = front ++ turn :: back → turn.Gated (before ++ Turn.allCalls front)

theorem AllGated.cons {before : List (DelegateCall ε δ ρ)} {turn : Turn ε δ ρ}
    {turns : List (Turn ε δ ρ)} (first : turn.Gated before)
    (rest : AllGated (before ++ turn.calls) turns) : AllGated before (turn :: turns) := by
  rintro (_ | ⟨other, front⟩) t back hSplit
  · obtain ⟨rfl, rfl⟩ := List.cons.inj hSplit
    simpa [Turn.allCalls] using first
  · obtain ⟨rfl, hRest⟩ := List.cons.inj hSplit
    simpa [Turn.allCalls] using rest front t back hRest

theorem AllGated.uncons {before : List (DelegateCall ε δ ρ)} {turn : Turn ε δ ρ}
    {turns : List (Turn ε δ ρ)} (h : AllGated before (turn :: turns)) :
    turn.Gated before ∧ AllGated (before ++ turn.calls) turns := by
  refine ⟨by simpa [Turn.allCalls] using h [] turn turns rfl, fun front t back hSplit => ?_⟩
  simpa [Turn.allCalls] using h (turn :: front) t back (by rw [hSplit]; rfl)

/-- In front of every query of gated turns the delegate has not answered. -/
theorem AllGated.answered_eq_none {turns : List (Turn ε δ ρ)} {names : Except ε (List String)}
    {later : List (DelegateCall ε δ ρ)} : ∀ {before earlier : List (DelegateCall ε δ ρ)},
    AllGated before turns → Turn.allCalls turns = earlier ++ .capabilities names :: later →
      answered (before ++ earlier) = none := by
  induction turns with
  | nil =>
      intro before earlier _ hCalls
      simp [Turn.allCalls] at hCalls
  | cons turn turns ih =>
      intro before earlier hGated hCalls
      obtain ⟨hFirst, hRest⟩ := hGated.uncons
      rw [Turn.allCalls, List.flatMap_cons] at hCalls
      -- The query stands among the calls of the first turn, or of a later one.
      rcases List.append_eq_append_iff.mp hCalls with ⟨more, rfl, hMore⟩ | ⟨more, hTurn, hMore⟩
      · have hLater := ih hRest hMore
        rwa [List.append_assoc] at hLater
      · cases more with
        | nil =>
            rw [List.append_nil] at hTurn
            have hLater : answered (before ++ turn.calls ++ []) = none := ih hRest hMore.symm
            rwa [List.append_nil, hTurn] at hLater
        | cons call more =>
            obtain ⟨rfl, -⟩ := List.cons.inj hMore
            obtain ⟨rfl, hNone⟩ := hFirst.query hTurn
            rwa [List.append_nil]

/-- A run of operations: every turn is gated, the delegate gives what is written down, and a run of the
gateway before the delegate itself gives the same. -/
theorem turns_after (d : LiveDelegate σ ε δ ρ) (ops : List (Operation δ)) :
    ∀ (before : List (DelegateCall ε δ ρ)) (s : σ), ∃ ts t,
      (after d.recorded before).turns s ops = ts ∧ ts.map (·.operation) = ops ∧
        (after d before).run s ops = (ts.map (·.outcome), t) ∧ d.Gives s (Turn.allCalls ts) t ∧
        AllGated before ts := by
  induction ops with
  | nil =>
      intro before s
      exact ⟨[], s, rfl, rfl, rfl, .none s, by simp [AllGated]⟩
  | cons op ops ih =>
      intro before s
      obtain ⟨outcome, calls, t, hGated, hGives, hPlain, hWritten⟩ := perform_after d before s op
      obtain ⟨ts, u, hTurns, hOps, hRun, hRest, hAll⟩ := ih (before ++ calls) t
      refine ⟨⟨op, outcome, calls⟩ :: ts, u, ?_, ?_, ?_, ?_, AllGated.cons hGated hAll⟩
      · simp only [turns, hWritten, List.nil_append, hTurns]
      · rw [List.map_cons, hOps]
      · simp only [run, hPlain, hRun, List.map_cons]
      · simpa [Turn.allCalls] using hGives.append hRest

/-- Without a delegate nothing is called. -/
theorem run_unattached (ops : List (Operation δ)) (s : σ) :
    ∀ known : Option (List String), known = none ∨ known = some [] →
      ({ known } : Gateway σ ε δ ρ).run s ops = (ops.map Operation.unserved, s) := by
  induction ops with
  | nil => exact fun _ _ => rfl
  | cons op ops ih =>
      intro known hKnown
      have hStep : ∃ next, (next = none ∨ next = some []) ∧
          ({ known } : Gateway σ ε δ ρ).perform s op = (op.unserved, { known := next }, s) := by
        cases op with
        | capabilities => rcases hKnown with rfl | rfl <;> exact ⟨some [], .inr rfl, rfl⟩
        | attached | get kind name | mutate kind name changes => exact ⟨known, hKnown, rfl⟩
      obtain ⟨next, hNext, hPerform⟩ := hStep
      simp only [run, hPerform, ih next hNext, List.map_cons]

/-- A gateway asks its delegate again only while every query has failed, and its first answer decides about
all requests, whatever the delegate does in between. -/
theorem gated_by_first_answer (d : LiveDelegate σ ε δ ρ) (s : σ) (ops : List (Operation δ)) :
    ∃ (ts : List (Turn ε δ ρ)) (t : σ),
      ({ delegate := some d.recorded } : Gateway _ ε δ ρ).turns s ops = ts ∧
      ts.map (·.operation) = ops ∧
      ({ delegate := some d } : Gateway σ ε δ ρ).run s ops = (ts.map (·.outcome), t) ∧
      d.Gives s (Turn.allCalls ts) t ∧
      (∀ front turn back, ts = front ++ turn :: back → turn.Gated (Turn.allCalls front)) ∧
      (∀ turn ∈ ts, turn.operation = .attached → turn.calls = []) ∧
      (∀ earlier answer later, Turn.allCalls ts = earlier ++ .capabilities answer :: later →
        ∀ names, .capabilities (.ok names) ∉ earlier) ∧
      ({} : Gateway σ ε δ ρ).run s ops = (ops.map Operation.unserved, s) := by
  obtain ⟨ts, t, hTurns, hOps, hRun, hGives, hAll⟩ := turns_after d ops [] s
  have hGated : ∀ front turn back, ts = front ++ turn :: back → turn.Gated (Turn.allCalls front) := by
    simpa [AllGated] using hAll
  refine ⟨ts, t, hTurns, hOps, hRun, hGives, hGated, fun turn hMem hAttached => ?_,
    fun earlier answer later hCalls names => ?_, run_unattached ops s none (.inl rfl)⟩
  · obtain ⟨front, back, hSplit⟩ := List.append_of_mem hMem
    cases hGated front turn back hSplit with
    | attached => rfl
    | listed | unlisted => simp at hAttached
    | failed hNeed | refused hNeed | passed hNeed =>
        obtain rfl := hAttached
        simp [Operation.need?] at hNeed
  · exact not_mem_of_answered_eq_none (by simpa using hAll.answered_eq_none hCalls) names

end Gateway

end ProjectAtlas
