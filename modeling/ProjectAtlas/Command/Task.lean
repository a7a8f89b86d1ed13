import ProjectAtlas.Command.Grammar

/-!
What a command line asks for.
-/

namespace ProjectAtlas.Command

inductive Verb
  | summary
  | search
  | hierarchy
  | usages
  | plugins
  | validate
  | serve
deriving DecidableEq, Repr

namespace Verb

def label : Verb → String
  | .summary => "summary"
  | .search => "search"
  | .hierarchy => "hierarchy"
  | .usages => "usages"
  | .plugins => "plugins"
  | .validate => "validate"
  | .serve => "serve"

def known : List Verb :=
  [.summary, .search, .hierarchy, .usages, .plugins, .validate, .serve]

def ofLabel? (name : String) : Option Verb :=
  known.find? fun v => v.label == name

def argument : Verb → Option String
  | .search => some "query"
  | .hierarchy | .usages => some "name"
  | _ => none

def switches : Verb → List Switch
  | .search => [.kind]
  | .plugins => [.category, .enabledOnly]
  | .serve => [.host, .port]
  | _ => []

end Verb

def programName : String := "ueindex"

/-- The command line as a whole: a command, and everything that belongs to it. -/
def outerGrammar : Grammar :=
  { program := programName
    switches := [.help, .verbose]
    argument := some "command"
    takesRest := true }

def Verb.grammar (v : Verb) : Grammar :=
  { program := s!"{programName} {v.label}"
    switches := [.help, .verbose, .path] ++ v.switches
    argument := v.argument }

/-- What is to be done. A search without a kind looks among nothing. -/
inductive Task
  | summary
  | search (query : String) (kind : Option SearchKind)
  | hierarchy (name : String)
  | usages (name : String)
  | plugins (category : Option String) (enabledOnly : Bool)
  | validate
  | serve (host : Option String) (port : Option Int)
deriving DecidableEq, Repr

def Task.verb : Task → Verb
  | .summary => .summary
  | .search _ _ => .search
  | .hierarchy _ => .hierarchy
  | .usages _ => .usages
  | .plugins _ _ => .plugins
  | .validate => .validate
  | .serve _ _ => .serve

/-- A task, the place of the project, and whether all lines of the journal are shown. There is no place
if its value was dropped. -/
structure Invocation where
  task : Task
  path : Option String
  verbose : Bool
deriving DecidableEq, Repr

def defaultPort : Int := 8000

def Verb.task (v : Verb) (r : Sorted) : Task :=
  let argument := r.argument.head?.getD ""
  match v with
  | .summary => .summary
  | .search =>
    .search argument (((r.value? .kind).getD (some SearchKind.all.label)).bind SearchKind.ofLabel?)
  | .hierarchy => .hierarchy argument
  | .usages => .usages argument
  | .plugins => .plugins ((r.value? .category).join) (r.has .enabledOnly)
  | .validate => .validate
  | .serve =>
    .serve ((r.value? .host).getD (some "127.0.0.1"))
      (match r.value? .port with
        | none => some defaultPort
        | some value => value.bind fun p => Text.readDecimal? p.toList)

/-- The words behind a command, the words that belong to nothing, and the command. -/
def Sorted.verb (r : Sorted) : Except ArgumentFault (Verb × List String) :=
  match r.argument with
  | [] => .error (.argumentMissing "command")
  | name :: rest =>
    match Verb.ofLabel? name with
    | some v => .ok (v, rest)
    | none => .error (.notAChoice "command" name (Verb.known.map Verb.label))

def Invocation.ofWords (words : List String) : Except Stop Invocation := do
  let outer ← outerGrammar.read words
  let (verb, rest) ← outer.verb.mapError outerGrammar.refuse
  let inner ← verb.grammar.read rest
  match outer.leftover ++ inner.leftover with
  | [] =>
    return {
      task := verb.task inner
      path := (inner.value? .path).getD (some ".")
      verbose := outer.has .verbose || inner.has .verbose }
  | leftover => .error (outerGrammar.refuse (.leftOver leftover))

end ProjectAtlas.Command
