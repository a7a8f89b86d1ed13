import ProjectAtlas.Command.Switch
import ProjectAtlas.Text.Pieces

/-!
Telling the words of a command line apart: switches, their values, the argument, and words that belong
to nothing.

A switch may be named by the beginning of a long name, if no other name begins so. A value stands
behind its switch or, after an equals sign, in the same word. Switches of one letter may share a word.
Behind a word of two hyphens no word is a switch.
-/

namespace ProjectAtlas.Command

/-- What a command line consists of: the program that reads it, its switches, and its argument if it
has one. The argument is one word, or a word and all words behind it. -/
structure Grammar where
  program : String
  switches : List Switch
  argument : Option String := none
  takesRest : Bool := false
deriving DecidableEq, Repr

/-- Why nothing is run: help was asked for, or the command line is refused. -/
inductive Stop
  | help (grammar : Grammar)
  | refused (program : String) (fault : ArgumentFault)
deriving DecidableEq, Repr

def divider : String := "--"

/-- What a word is. A switch may come with a value in the same word; `short` tells that it was named by
a single hyphen and a letter. -/
inductive Mark
  | plain
  | divider
  | switch (s : Switch) (short : Bool) (value : Option String)
  | unknown
deriving DecidableEq, Repr

/-- The text of a negative number: digits, with a point or without. A line break may follow. -/
def isNegativeNumber (w : List Char) : Bool :=
  match w with
  | '-' :: cs =>
    let cs := if cs.getLast? = some '\n' then cs.dropLast else cs
    let isDigit (c : Char) : Bool := (Text.decimalValue? c).isSome
    match cs.dropWhile isDigit with
    | [] => !cs.isEmpty
    | '.' :: ds => !ds.isEmpty && ds.all isDigit
    | _ => false
  | _ => false

/-- The name of a switch in front of the first equals sign, and the value behind it. -/
def cutValue (w : String) : String × Option String :=
  match Text.cutAt? ['='] w.toList with
  | some (name, value) => (String.ofList name, some (String.ofList value))
  | none => (w, none)

def isShort (name : String) : Bool :=
  !("--".isPrefixOf name)

namespace Grammar

def names (g : Grammar) : List (String × Switch) :=
  g.switches.flatMap fun s => s.names.map fun n => (n, s)

def switch? (g : Grammar) (name : String) : Option Switch :=
  g.names.lookup name

/-- The names that a word may stand for, each with its switch and the value in the word. -/
def candidates (g : Grammar) (w : String) : List (String × Switch × Option String) :=
  if isShort w then
    let name := String.ofList (w.toList.take 2)
    (g.names.filter fun n => n.1 == name).map fun n =>
      (n.1, n.2, some (String.ofList (w.toList.drop 2)))
  else
    let (start, value) := cutValue w
    (g.names.filter fun n => start.isPrefixOf n.1).map fun n => (n.1, n.2, value)

def markPart (g : Grammar) (w : String) : Except ArgumentFault Mark :=
  match g.candidates w with
  | [(name, s, value)] => .ok (.switch s (isShort name) value)
  | [] => .ok (if isNegativeNumber w.toList || w.toList.contains ' ' then .plain else .unknown)
  | several => .error (.ambiguous w (several.map (·.1)))

def mark (g : Grammar) (w : String) : Except ArgumentFault Mark :=
  if w.toList.head? != some '-' then .ok .plain
  else
    match g.switch? w with
    | some s => .ok (.switch s (isShort w) none)
    | none =>
      if w = "-" then .ok .plain
      else
        let (name, value) := cutValue w
        match g.switch? name with
        | some s => .ok (.switch s (isShort name) value)
        | none => g.markPart w

def marks (g : Grammar) : List String → Except ArgumentFault (List (String × Mark))
  | [] => .ok []
  | w :: ws =>
    if w = divider then .ok ((w, .divider) :: ws.map fun x => (x, .plain))
    else
      match g.mark w with
      | .error fault => .error fault
      | .ok m => (g.marks ws).map fun ms => (w, m) :: ms

/-- The switches of a word that begins with the letter of `s` and goes on with these characters: all
but the last of them, and the last with its value if there is one. -/
def letters (g : Grammar) (s : Switch) :
    List Char → Except ArgumentFault (List Switch × Switch × Option String)
  | [] => .ok ([], s, none)
  | c :: cs =>
    if s.takesValue then .ok ([], s, some (String.ofList (c :: cs)))
    else
      match g.switch? (String.ofList ['-', c]) with
      | none => .error (.ignoredValue s (String.ofList (c :: cs)))
      | some next => (g.letters next cs).map fun r => (s :: r.1, r.2)

/-- The switches of one word: all but the last of them, and the last with its value. -/
def wordSwitches (g : Grammar) (s : Switch) (short : Bool) :
    Option String → Except ArgumentFault (List Switch × Switch × Option String)
  | none => .ok ([], s, none)
  | some value =>
    if s.takesValue then .ok ([], s, some value)
    else if short && value != "" then g.letters s value.toList
    else .error (.ignoredValue s value)

end Grammar

/-- What the words of a command line were sorted into. A switch without a value, like one whose value
was a bare divider, has none here. -/
structure Sorted where
  switches : List (Switch × Option String) := []
  argument : List String := []
  leftover : List String := []
deriving DecidableEq, Repr

def Sorted.addSwitch (r : Sorted) (s : Switch) (value : Option String) : Sorted :=
  { r with switches := (s, value) :: r.switches }

def Sorted.addLeftover (r : Sorted) (w : String) : Sorted :=
  { r with leftover := w :: r.leftover }

def Sorted.value? (r : Sorted) (s : Switch) : Option (Option String) :=
  r.switches.reverse.lookup s

def Sorted.has (r : Sorted) (s : Switch) : Bool :=
  (r.value? s).isSome

/-- Where the argument is: still to come, in the word just read, or further ahead. A grammar without an
argument is past it from the start. -/
inductive Progress
  | awaited
  | justRead
  | past
deriving DecidableEq, Repr

/-- The value as it is kept: a bare divider is dropped. -/
def keptValue (value : String) : Option String :=
  if value = divider then none else some value

namespace Grammar

def refuse (g : Grammar) (fault : ArgumentFault) : Stop :=
  .refused g.program fault

/-- Stop at the first switch that asks for help. -/
def passFlags (g : Grammar) (flags : List Switch) : Except Stop Unit :=
  if flags.contains .help then .error (.help g) else .ok ()

/-- Take a value for a switch, if it may be taken. -/
def passValue (g : Grammar) (s : Switch) (value : String) : Except Stop Unit :=
  if value = divider then .ok () else (s.check value).mapError g.refuse

/-- Sort a switch and what follows it. `rest` sorts all words behind the switch. If the next word may be
a value, `behind` is that word, with what sorts the words behind it. -/
def sortSwitch (g : Grammar) (s : Switch) (short : Bool) (value : Option String)
    (rest : Unit → Except Stop Sorted) (behind : Option (String × (Unit → Except Stop Sorted))) :
    Except Stop Sorted := do
  let (flags, last, value) ← (g.wordSwitches s short value).mapError g.refuse
  let withFlags (r : Sorted) : Sorted := flags.foldr (fun f r => r.addSwitch f none) r
  if !last.takesValue then
    g.passFlags (flags ++ [last])
    return withFlags ((← rest ()).addSwitch last none)
  else
    g.passFlags flags
    match value, behind with
    | some x, _ =>
      g.passValue last x
      return withFlags ((← rest ()).addSwitch last (keptValue x))
    | none, some (x, rest) =>
      g.passValue last x
      return withFlags ((← rest ()).addSwitch last (keptValue x))
    | none, none => .error (g.refuse (.valueMissing last))

def sort (g : Grammar) (progress : Progress) : List (String × Mark) → Except Stop Sorted
  | [] => .ok {}
  | (w, .plain) :: ws =>
    if progress ≠ .awaited then (g.sort .past ws).map fun r => r.addLeftover w
    else if g.takesRest then .ok { argument := w :: ws.map (·.1) }
    else (g.sort .justRead ws).map fun r => { r with argument := [w] }
  | (w, .divider) :: ws =>
    match progress with
    | .justRead => g.sort .past ws
    | .past => (g.sort .past ws).map fun r => r.addLeftover w
    | .awaited =>
      if ws.isEmpty then .ok { leftover := [w] }
      else if g.takesRest then .ok { argument := w :: ws.map (·.1) }
      else g.sort .awaited ws
  | (w, .unknown) :: ws =>
    (g.sort (if progress = .awaited then .awaited else .past) ws).map fun r => r.addLeftover w
  | (_, .switch s short value) :: ws =>
    let next : Progress := if progress = .awaited then .awaited else .past
    g.sortSwitch s short value (fun _ => g.sort next ws) (match ws with
      | (x, .plain) :: ws => some (x, fun _ => g.sort next ws)
      | _ => none)

def read (g : Grammar) (words : List String) : Except Stop Sorted := do
  let marked ← (g.marks words).mapError g.refuse
  let sorted ← g.sort (if g.argument.isSome then .awaited else .past) marked
  match g.argument, sorted.argument with
  | some label, [] => .error (g.refuse (.argumentMissing label))
  | _, _ => return sorted

end Grammar

end ProjectAtlas.Command
