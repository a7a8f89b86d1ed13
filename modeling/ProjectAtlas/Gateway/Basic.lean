import ProjectAtlas.Scanner.Discovery

/-!
Questions to a running editor. A gateway asks its delegate once what it can do, and passes on only
requests for what the delegate has named then.
-/

namespace ProjectAtlas

/-- The answer to a request. -/
inductive Reply (ρ : Type)
  | unavailable (reason : String)
  | result (r : ρ)
deriving DecidableEq, Repr

def noDelegate : String := "no live delegate attached"

/-- A delegate whose state is of the type `σ`. A call can fail, and changes the state. -/
structure LiveDelegate (σ ε δ ρ : Type) where
  capabilities : σ → Except ε (List String) × σ
  get : String → String → σ → Except ε (Reply ρ) × σ
  mutate : String → String → δ → σ → Except ε (Reply ρ) × σ

def readCapability : String := "read"

def mutateCapability : String := "mutate"

/-- A gateway to a delegate, or to none, and what the delegate can do if that is known. -/
structure Gateway (σ ε δ ρ : Type) where
  delegate : Option (LiveDelegate σ ε δ ρ) := none
  known : Option (List String) := none

namespace Gateway

variable {σ ε δ ρ : Type}

def attached (g : Gateway σ ε δ ρ) : Bool :=
  g.delegate.isSome

/-- What the delegate can do, by name. It is asked only if it has not answered before. -/
def capabilities (g : Gateway σ ε δ ρ) (s : σ) :
    Except ε (List String) × Gateway σ ε δ ρ × σ :=
  match g.known, g.delegate with
  | some names, _ => (.ok names, g, s)
  | none, none => (.ok [], { g with known := some [] }, s)
  | none, some d =>
    match d.capabilities s with
    | (.ok names, s) =>
      let names := sortedNames names
      (.ok names, { g with known := some names }, s)
    | (.error e, s) => (.error e, g, s)

def request (g : Gateway σ ε δ ρ) (capability : String)
    (call : LiveDelegate σ ε δ ρ → σ → Except ε (Reply ρ) × σ) (s : σ) :
    Except ε (Reply ρ) × Gateway σ ε δ ρ × σ :=
  match g.delegate with
  | none => (.ok (.unavailable noDelegate), g, s)
  | some d =>
    match g.capabilities s with
    | (.error e, g, s) => (.error e, g, s)
    | (.ok names, g, s) =>
      if names.contains capability then
        let (r, s) := call d s
        (r, g, s)
      else (.ok (.unavailable ("delegate does not support '" ++ capability ++ "'")), g, s)

def get (g : Gateway σ ε δ ρ) (kind name : String) (s : σ) :
    Except ε (Reply ρ) × Gateway σ ε δ ρ × σ :=
  g.request readCapability (fun d => d.get kind name) s

def mutate (g : Gateway σ ε δ ρ) (kind name : String) (changes : δ) (s : σ) :
    Except ε (Reply ρ) × Gateway σ ε δ ρ × σ :=
  g.request mutateCapability (fun d => d.mutate kind name changes) s

end Gateway

/-- The delegate that can do nothing. -/
def nullDelegate {σ ε δ ρ : Type} : LiveDelegate σ ε δ ρ where
  capabilities s := (.ok [], s)
  get _ _ s := (.ok (.unavailable noDelegate), s)
  mutate _ _ _ s := (.ok (.unavailable noDelegate), s)

end ProjectAtlas
