import ProjectAtlas.Text.CaseTable
import ProjectAtlas.Text.Word

/-!
Lower and upper case of whole texts.
-/

namespace ProjectAtlas.Text

/-- The image of `n` under the first run that holds it. -/
def mapRuns (runs : List CaseRun) (n : Nat) : Nat :=
  match runs.find? fun r => r.first ≤ n && n ≤ r.last && (n - r.first) % r.step == 0 with
  | some r => (n + r.delta).toNat
  | none => n

/-- The characters that replace `c`: its expansion if it has one, else its image under the runs. -/
def mapCase (runs : List CaseRun) (expansions : List (Nat × List Nat)) (c : Char) : List Char :=
  match expansions.lookup c.toNat with
  | some ns => ns.map Char.ofNat
  | none => [Char.ofNat (mapRuns runs c.toNat)]

def isCaseIgnorable (c : Char) : Bool :=
  inRanges caseIgnorableRanges c.toNat

def isCased (c : Char) : Bool :=
  inRanges casedRanges c.toNat

/-- The nearest character that is not passed over is a letter with case. -/
def meetsCased (cs : List Char) : Bool :=
  match cs.dropWhile isCaseIgnorable with
  | c :: _ => isCased c
  | [] => false

/-- Lower case of the characters `cs` that follow `seen` (nearest first). A capital sigma at the end
of a word becomes the final sigma. -/
def lowerAfter (seen : List Char) : List Char → List Char
  | [] => []
  | c :: cs =>
    if c.toNat < 128 then c.toLower :: lowerAfter (c :: seen) cs
    else if c = 'Σ' then
      (if meetsCased seen && !meetsCased cs then 'ς' else 'σ') :: lowerAfter (c :: seen) cs
    else mapCase lowerRuns lowerExpansions c ++ lowerAfter (c :: seen) cs

def lower (s : String) : String :=
  String.ofList (lowerAfter [] s.toList)

def upperChar (c : Char) : List Char :=
  if c.toNat < 128 then [c.toUpper] else mapCase upperRuns upperExpansions c

def upper (s : String) : String :=
  String.ofList (s.toList.flatMap upperChar)

end ProjectAtlas.Text
