import Mathlib.Data.List.Basic
import ProjectAtlas.Command.Task
import ProjectAtlas.Proofs.Text.Pieces

/-!
Command lines that ask for a given search, or for the plugins of a given category. A query of any text can be
given behind a divider, and a category of any text but the divider behind an equals sign.
-/

namespace ProjectAtlas.Command

namespace Grammar

variable {g : Grammar}

/-- A word that does not start with a hyphen is no switch. -/
theorem mark_of_noHyphen {w : String} (h : w.toList.head? ≠ some '-') : g.mark w = .ok .plain := by
  rw [mark, if_pos (by simpa using h)]

theorem ne_divider_of_noHyphen {w : String} (h : w.toList.head? ≠ some '-') : w ≠ divider := by
  rintro rfl
  exact h rfl

theorem marks_cons {w : String} {m : Mark} (hWord : w ≠ divider) (hMark : g.mark w = .ok m)
    (ws : List String) : g.marks (w :: ws) = (g.marks ws).map fun ms => (w, m) :: ms := by
  rw [marks, if_neg hWord]
  simp only [hMark]

theorem marks_plain {w : String} (h : w.toList.head? ≠ some '-') (ws : List String) :
    g.marks (w :: ws) = (g.marks ws).map fun ms => (w, .plain) :: ms :=
  marks_cons (ne_divider_of_noHyphen h) (mark_of_noHyphen h) ws

theorem marks_divider (ws : List String) :
    g.marks (divider :: ws) = .ok ((divider, .divider) :: ws.map fun x => (x, .plain)) := by
  rw [marks, if_pos rfl]

/-- Marking leaves the words as they are. -/
theorem map_fst_of_marks {ws : List String} {ms : List (String × Mark)} (h : g.marks ws = .ok ms) :
    ms.map (·.1) = ws := by
  induction ws generalizing ms with
  | nil =>
      cases h
      rfl
  | cons w ws ih =>
      rw [marks] at h
      split at h
      · cases h
        simp [Function.comp_def]
      · split at h
        · cases h
        · cases hRest : g.marks ws with
          | error fault => simp [hRest, Except.map] at h
          | ok rest =>
              simp only [hRest, Except.map, Except.ok.injEq] at h
              rw [← h, List.map_cons, ih hRest]

/-- A name with a value behind an equals sign is no whole name of a switch, if these have no such sign. -/
theorem switch?_eq_none_of_mem {w : String} (hSign : '=' ∈ w.toList)
    (hNames : ∀ n ∈ g.names, '=' ∉ n.1.toList) : g.switch? w = none := by
  rw [switch?, List.lookup_eq_none_iff]
  rintro n hn
  have hOther : w ≠ n.1 := fun hSame => hNames n hn (hSame ▸ hSign)
  simpa using hOther

/-- Where a value is joined to the name of a switch, both are told apart. -/
theorem cutValue_joined {name value : String} (hName : '=' ∉ name.toList) :
    cutValue (name ++ "=" ++ value) = (name, some value) := by
  have hChars : (name ++ "=" ++ value).toList = name.toList ++ '=' :: value.toList := by simp
  rw [cutValue, hChars, Text.cutAt?_append hName]
  simp

/-- A name with a value joined to it is the switch of that name with the value, or part of a name. -/
theorem mark_joined {name value : String} (hHyphen : name.toList.head? = some '-')
    (hName : '=' ∉ name.toList) (hNames : ∀ n ∈ g.names, '=' ∉ n.1.toList) :
    (∀ s, g.switch? name = some s →
        g.mark (name ++ "=" ++ value) = .ok (.switch s (isShort name) (some value))) ∧
      (g.switch? name = none → g.mark (name ++ "=" ++ value) = g.markPart (name ++ "=" ++ value)) := by
  have hSign : '=' ∈ (name ++ "=" ++ value).toList := by simp
  have hHead : (name ++ "=" ++ value).toList.head? = some '-' := by
    obtain ⟨cs, hChars⟩ := List.head?_eq_some_iff.mp hHyphen
    simp [hChars]
  have hOther : name ++ "=" ++ value ≠ "-" := by
    intro hSame
    rw [hSame] at hSign
    exact absurd hSign (by decide)
  have hStart : ¬ ((name ++ "=" ++ value).toList.head? != some '-') = true := by
    rw [hHead]
    decide
  have hWhole : g.switch? (name ++ "=" ++ value) = none := switch?_eq_none_of_mem hSign hNames
  constructor
  · intro s hSwitch
    simp only [mark, if_neg hStart, hWhole, if_neg hOther, cutValue_joined hName, hSwitch]
  · intro hNone
    simp only [mark, if_neg hStart, hWhole, if_neg hOther, cutValue_joined hName, hNone]

theorem passFlags_nil : g.passFlags [] = .ok () := rfl

section Value

variable {s : Switch} (hTakes : s.takesValue = true) {x : String} (hValue : x ≠ divider)
  (hCheck : s.check x = .ok ())

include hValue hCheck

theorem passValue_of_check : g.passValue s x = .ok () := by
  rw [passValue, if_neg hValue, hCheck]
  rfl

include hTakes

/-- A switch with its value behind it. -/
theorem sort_apart (w : String) (short : Bool) (progress : Progress) (ws : List (String × Mark)) :
    g.sort progress ((w, .switch s short none) :: (x, .plain) :: ws) =
      (g.sort (if progress = .awaited then .awaited else .past) ws).map fun r =>
        r.addSwitch s (some x) := by
  simp only [sort, sortSwitch, wordSwitches, Except.mapError, bind, Except.bind, hTakes, Bool.not_true,
    Bool.false_eq_true, if_false, passFlags_nil, passValue_of_check hValue hCheck, keptValue,
    if_neg hValue]
  cases g.sort (if progress = .awaited then .awaited else .past) ws <;> rfl

/-- A switch with its value in the same word. -/
theorem sort_joined (w : String) (progress : Progress) (ws : List (String × Mark)) :
    g.sort progress ((w, .switch s false (some x)) :: ws) =
      (g.sort (if progress = .awaited then .awaited else .past) ws).map fun r =>
        r.addSwitch s (some x) := by
  have hWord : g.wordSwitches s false (some x) = .ok ([], s, some x) := by
    rw [wordSwitches, if_pos hTakes]
  rw [sort.eq_def]
  simp only [sortSwitch, hWord, Except.mapError, bind, Except.bind, hTakes, Bool.not_true,
    Bool.false_eq_true, if_false, passFlags_nil, passValue_of_check hValue hCheck, keptValue,
    if_neg hValue]
  cases g.sort (if progress = .awaited then .awaited else .past) ws <;> rfl

end Value

/-- The words of an argument that is one word are read as the marks are sorted. -/
theorem read_of_sort {words : List String} {ms : List (String × Mark)} {r : Sorted}
    (hMarks : g.marks words = .ok ms)
    (hSort : g.sort (if g.argument.isSome then .awaited else .past) ms = .ok r)
    (hArgument : g.argument.isSome = true → r.argument ≠ []) : g.read words = .ok r := by
  simp only [read, hMarks, Except.mapError, bind, Except.bind, hSort]
  cases hLabel : g.argument with
  | none => rfl
  | some label =>
      cases hWords : r.argument with
      | nil => exact absurd hWords (hArgument (by simp [hLabel]))
      | cons w ws => rfl

end Grammar

/-- A command takes all words behind it, if each of them can be told for a switch or none. -/
theorem read_outerGrammar (verb : Verb) {rest : List String} {ms : List (String × Mark)}
    (hMarks : outerGrammar.marks rest = .ok ms) :
    outerGrammar.read (verb.label :: rest) = .ok { argument := verb.label :: rest } := by
  have hLabel : verb.label.toList.head? ≠ some '-' := by cases verb <;> decide
  have hAll : outerGrammar.marks (verb.label :: rest) = .ok ((verb.label, .plain) :: ms) := by
    rw [Grammar.marks_plain hLabel, hMarks]
    rfl
  refine Grammar.read_of_sort hAll ?_ (by simp)
  show (.ok { argument := verb.label :: ms.map (·.1) } : Except Stop Sorted) = _
  rw [Grammar.map_fst_of_marks hMarks]

/-- What a command line asks for, by what the words behind its command are read as. -/
theorem ofWords_of_read (verb : Verb) {rest : List String} {ms : List (String × Mark)} {r : Sorted}
    (hMarks : outerGrammar.marks rest = .ok ms) (hRead : verb.grammar.read rest = .ok r)
    (hLeft : r.leftover = []) :
    Invocation.ofWords (verb.label :: rest) =
      .ok ⟨verb.task r, (r.value? .path).getD (some "."), r.has .verbose⟩ := by
  have hVerb : Sorted.verb { argument := verb.label :: rest } = .ok (verb, rest) := by
    cases verb <;> rfl
  simp only [Invocation.ofWords, read_outerGrammar verb hMarks, bind, Except.bind, hVerb,
    Except.mapError, hRead, hLeft, List.append_nil]
  rfl

/-- A kind of search as a word. -/
theorem noHyphen_label (kind : SearchKind) : kind.label.toList.head? ≠ some '-' := by
  cases kind <;> decide

theorem check_kind (kind : SearchKind) : Switch.kind.check kind.label = .ok () := by
  cases kind <;> rfl

theorem mark_kind :
    outerGrammar.mark "--kind" = .ok .unknown ∧
      Verb.search.grammar.mark "--kind" = .ok (.switch .kind false none) := by
  decide +kernel

/-- Every query can be asked for behind a divider. -/
theorem ofWords_search_divided (kind : SearchKind) (query : String) :
    Invocation.ofWords ["search", "--kind", kind.label, divider, query] =
      .ok ⟨.search query (some kind), some ".", false⟩ := by
  have hMarks {g : Grammar} {m : Mark} (hMark : g.mark "--kind" = .ok m) :
      g.marks ["--kind", kind.label, divider, query] = .ok
        [("--kind", m), (kind.label, .plain), (divider, .divider), (query, .plain)] := by
    rw [Grammar.marks_cons (by decide) hMark, Grammar.marks_plain (noHyphen_label kind),
      Grammar.marks_divider]
    rfl
  have hRead : Verb.search.grammar.read ["--kind", kind.label, divider, query] =
      .ok { switches := [(.kind, some kind.label)], argument := [query] } := by
    refine Grammar.read_of_sort (hMarks mark_kind.2) ?_ (by simp)
    exact Grammar.sort_apart rfl (Grammar.ne_divider_of_noHyphen (noHyphen_label kind))
      (check_kind kind) "--kind" false .awaited _
  refine (ofWords_of_read .search (hMarks mark_kind.1) hRead rfl).trans ?_
  cases kind <;> rfl

/-- A query that does not start with a hyphen can be asked for as it is. -/
theorem ofWords_search_plain (kind : SearchKind) {query : String}
    (hQuery : query.toList.head? ≠ some '-') :
    Invocation.ofWords ["search", query, "--kind", kind.label] =
      .ok ⟨.search query (some kind), some ".", false⟩ := by
  have hMarks {g : Grammar} {m : Mark} (hMark : g.mark "--kind" = .ok m) :
      g.marks [query, "--kind", kind.label] = .ok
        [(query, .plain), ("--kind", m), (kind.label, .plain)] := by
    rw [Grammar.marks_plain hQuery, Grammar.marks_cons (by decide) hMark,
      Grammar.marks_plain (noHyphen_label kind)]
    rfl
  have hRead : Verb.search.grammar.read [query, "--kind", kind.label] =
      .ok { switches := [(.kind, some kind.label)], argument := [query] } := by
    refine Grammar.read_of_sort (hMarks mark_kind.2) ?_ (by simp)
    have hSwitch := Grammar.sort_apart rfl (Grammar.ne_divider_of_noHyphen (noHyphen_label kind))
      (check_kind kind) (g := Verb.search.grammar) "--kind" false .justRead []
    show (Verb.search.grammar.sort .justRead _).map _ = _
    rw [hSwitch]
    rfl
  refine (ofWords_of_read .search (hMarks mark_kind.1) hRead rfl).trans ?_
  cases kind <;> rfl

theorem mark_category :
    outerGrammar.mark "--category" = .ok .unknown ∧
      Verb.plugins.grammar.mark "--category" = .ok (.switch .category false none) := by
  decide +kernel

/-- No name of a switch starts with the one that a category stands behind, up to the equals sign. -/
theorem candidates_category (category : String) :
    outerGrammar.candidates ("--category" ++ "=" ++ category) = [] := by
  have hLong : outerGrammar.names.filter (fun n => "--category".isPrefixOf n.1) = [] := rfl
  have hShort : outerGrammar.names.filter (fun n => n.1 == "--") = [] := rfl
  have hStart : String.ofList (("--category" ++ "=" ++ category).toList.take 2) = "--" := by simp
  have hNoSign : '=' ∉ "--category".toList := by decide
  rw [Grammar.candidates, Grammar.cutValue_joined hNoSign]
  simp only [hStart, hShort, hLong]
  split <;> rfl

/-- A category behind an equals sign is marked as one by its command, and gets some mark from the
command line as a whole. -/
theorem mark_category_joined (category : String) :
    (∃ m, outerGrammar.mark ("--category=" ++ category) = .ok m) ∧
      Verb.plugins.grammar.mark ("--category=" ++ category) =
        .ok (.switch .category false (some category)) := by
  have hWord : "--category=" ++ category = "--category" ++ "=" ++ category := by
    rw [show "--category" ++ "=" = "--category=" from rfl]
  have hHyphen : "--category".toList.head? = some '-' := rfl
  have hNoSign : '=' ∉ "--category".toList := by decide
  have hNames : ∀ g ∈ [outerGrammar, Verb.plugins.grammar], ∀ n ∈ g.names, '=' ∉ n.1.toList := by
    decide
  rw [hWord]
  constructor
  · have hNone : outerGrammar.switch? "--category" = none := rfl
    rw [(Grammar.mark_joined hHyphen hNoSign (hNames _ (by simp))).2 hNone, Grammar.markPart]
    simp only [candidates_category]
    exact ⟨_, rfl⟩
  · have hSwitch : Verb.plugins.grammar.switch? "--category" = some .category := rfl
    have hLong : isShort "--category" = false := by decide +kernel
    rw [(Grammar.mark_joined hHyphen hNoSign (hNames _ (by simp))).1 _ hSwitch, hLong]

/-- The plugins of every category but the divider can be asked for behind an equals sign. -/
theorem ofWords_plugins_joined {category : String} (hCategory : category ≠ divider) :
    Invocation.ofWords ["plugins", "--category=" ++ category] =
      .ok ⟨.plugins (some category) false, some ".", false⟩ := by
  have hOther : "--category=" ++ category ≠ divider := by
    intro hSame
    have hSign : '=' ∈ ("--category=" ++ category).toList := by simp
    rw [hSame] at hSign
    exact absurd hSign (by decide)
  obtain ⟨⟨m, hOuter⟩, hInner⟩ := mark_category_joined category
  have hMarks {g : Grammar} {m : Mark} (hMark : g.mark ("--category=" ++ category) = .ok m) :
      g.marks ["--category=" ++ category] = .ok [("--category=" ++ category, m)] := by
    rw [Grammar.marks_cons hOther hMark]
    rfl
  have hRead : Verb.plugins.grammar.read ["--category=" ++ category] =
      .ok { switches := [(.category, some category)] } := by
    refine Grammar.read_of_sort (hMarks hInner) ?_ (by simp [Verb.grammar, Verb.argument])
    exact Grammar.sort_joined rfl hCategory rfl _ .past []
  refine (ofWords_of_read .plugins (hMarks hOuter) hRead rfl).trans ?_
  rfl

/-- A category that does not start with a hyphen can be asked for as it is. -/
theorem ofWords_plugins_apart {category : String} (hCategory : category.toList.head? ≠ some '-') :
    Invocation.ofWords ["plugins", "--category", category] =
      .ok ⟨.plugins (some category) false, some ".", false⟩ := by
  have hMarks {g : Grammar} {m : Mark} (hMark : g.mark "--category" = .ok m) :
      g.marks ["--category", category] = .ok [("--category", m), (category, .plain)] := by
    rw [Grammar.marks_cons (by decide) hMark, Grammar.marks_plain hCategory]
    rfl
  have hRead : Verb.plugins.grammar.read ["--category", category] =
      .ok { switches := [(.category, some category)] } := by
    refine Grammar.read_of_sort (hMarks mark_category.2) ?_ (by simp [Verb.grammar, Verb.argument])
    exact Grammar.sort_apart rfl (Grammar.ne_divider_of_noHyphen hCategory) rfl "--category" false
      .past []
  refine (ofWords_of_read .plugins (hMarks mark_category.1) hRead rfl).trans ?_
  rfl

end ProjectAtlas.Command
