import ProjectAtlas.Text.Glob
import ProjectAtlas.Text.Pieces

/-!
Exclusion rules, one from each line of a list. The last rule that matches a path decides.
-/

namespace ProjectAtlas

/-- A rule: its pattern, and the signs around it. -/
structure IgnoreRule where
  pattern : String
  directoryOnly : Bool
  anchored : Bool
  negate : Bool
  hasSlash : Bool
deriving DecidableEq, Repr

namespace IgnoreRule

/-- Take away a leading `c`, and say whether there was one. -/
def takeLeading (c : Char) : List Char → Bool × List Char
  | d :: cs => if d = c then (true, cs) else (false, d :: cs)
  | [] => (false, [])

/-- Take away a trailing `c`, and say whether there was one. -/
def takeTrailing (c : Char) (cs : List Char) : Bool × List Char :=
  if cs.getLast? = some c then (true, cs.dropLast) else (false, cs)

/-- The rule of a line. Blank lines and lines that begin with a number sign make none. An
exclamation mark in front negates the rule, a slash behind restricts it to directories, and a slash
in front ties it to the base. -/
def ofLine? (line : String) : Option IgnoreRule :=
  match Text.trim line.toList with
  | [] => none
  | '#' :: _ => none
  | cs =>
    let (negate, cs) := takeLeading '!' cs
    let (directoryOnly, cs) := takeTrailing '/' cs
    let (anchored, cs) := takeLeading '/' cs
    some ⟨String.ofList cs, directoryOnly, anchored, negate, cs.contains '/'⟩

/-- The rule matches a path relative to the base. A rule that is tied to the base or has a slash
inside is held against the whole path, any other against each name. -/
def matches? (r : IgnoreRule) (path : String) (isDir : Bool) : Bool :=
  if r.pattern.isEmpty || (r.directoryOnly && !isDir) then false
  else if r.anchored || r.hasSlash then
    Text.globMatch r.pattern path ||
      (r.directoryOnly && (r.pattern ++ "/").toList.isPrefixOf path.toList)
  else (List.splitOn '/' path.toList).any fun part => Text.globMatch r.pattern (String.ofList part)

end IgnoreRule

def ignoreRules (lines : List String) : List IgnoreRule :=
  lines.filterMap IgnoreRule.ofLine?

/-- The rules exclude a path: the last rule that matches it is not negated. -/
def shouldIgnore (rules : List IgnoreRule) (path : String) (isDir : Bool) : Bool :=
  rules.foldl (fun ignored r => if r.matches? path isDir then !r.negate else ignored) false

end ProjectAtlas
