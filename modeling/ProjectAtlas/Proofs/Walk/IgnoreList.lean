import Mathlib.Data.List.Induction
import ProjectAtlas.Proofs.Text.Blank
import ProjectAtlas.Walk.IgnoreRule

/-!
Lists of exclusion lines. The last line that makes a matching rule decides about a path, and every rule can
be written as a line that makes it.
-/

namespace ProjectAtlas

namespace IgnoreRule

/-- The line is blank, or begins with a number sign. -/
def isNote (line : String) : Bool :=
  let cs := Text.trim line.toList
  cs.isEmpty || cs.head? = some '#'

/-- The line begins with an exclamation mark. -/
def isException (line : String) : Bool :=
  (Text.trim line.toList).head? = some '!'

/-- A sign, if it is wanted. -/
def sign (wanted : Bool) (c : Char) : List Char :=
  if wanted then [c] else []

/-- The line with the signs of a rule around its pattern. -/
def written (negate anchored directoryOnly : Bool) (body : String) : String :=
  String.ofList (sign negate '!' ++ (sign anchored '/' ++ (body.toList ++ sign directoryOnly '/')))

/-- A pattern that is not taken for a sign, a note or a blank at either end. -/
structure IsPattern (body : String) : Prop where
  nonempty : body.toList ≠ []
  trimmed : Text.IsTrimmed body.toList
  first : ∀ c ∈ body.toList.head?, c ≠ '/' ∧ c ≠ '!' ∧ c ≠ '#'
  last : ∀ c ∈ body.toList.getLast?, c ≠ '/'

theorem takeLeading_sign {c : Char} {cs : List Char} (h : cs.head? ≠ some c) (wanted : Bool) :
    takeLeading c (sign wanted c ++ cs) = (wanted, cs) := by
  cases wanted with
  | true => simp [sign, takeLeading]
  | false =>
      cases cs with
      | nil => rfl
      | cons d cs =>
          have hOther : d ≠ c := fun hSame => h (by rw [hSame]; rfl)
          simp [sign, takeLeading, hOther]

theorem takeTrailing_sign {c : Char} {cs : List Char} (h : cs.getLast? ≠ some c) (wanted : Bool) :
    takeTrailing c (cs ++ sign wanted c) = (wanted, cs) := by
  cases wanted with
  | true => simp [sign, takeTrailing]
  | false => simp [sign, takeTrailing, h]

/-- The rule of a line that is no note: the signs are taken away from the outside to the inside. -/
theorem ofLine?_of_trim {line : String} {cs : List Char} (hTrim : Text.trim line.toList = cs)
    (hSome : cs ≠ []) (hNote : cs.head? ≠ some '#') {negate directoryOnly anchored : Bool}
    {signed ended body : List Char} (hNegate : takeLeading '!' cs = (negate, signed))
    (hEnd : takeTrailing '/' signed = (directoryOnly, ended))
    (hTied : takeLeading '/' ended = (anchored, body)) :
    ofLine? line =
      some ⟨String.ofList body, directoryOnly, anchored, negate, body.contains '/'⟩ := by
  unfold ofLine?
  rw [hTrim]
  split
  · exact absurd rfl hSome
  · exact absurd rfl hNote
  · simp only [hNegate, hEnd, hTied]

/-- Exactly the notes make no rule. -/
theorem ofLine?_eq_none_iff {line : String} : ofLine? line = none ↔ isNote line = true := by
  simp only [isNote, Bool.or_eq_true, List.isEmpty_iff, decide_eq_true_eq]
  generalize hTrim : Text.trim line.toList = cs
  by_cases hSome : cs = []
  · subst hSome
    simp [ofLine?, hTrim]
  · by_cases hNote : cs.head? = some '#'
    · obtain ⟨rest, rfl⟩ := List.head?_eq_some_iff.mp hNote
      simp [ofLine?, hTrim]
    · simp [ofLine?_of_trim hTrim hSome hNote rfl rfl rfl, hSome, hNote]

/-- Exactly the lines with an exclamation mark in front make negated rules. -/
theorem negate_of_ofLine? {line : String} {r : IgnoreRule} (h : ofLine? line = some r) :
    r.negate = isException line := by
  have hRule : ofLine? line ≠ none := by simp [h]
  rw [Ne, ofLine?_eq_none_iff, isNote] at hRule
  rw [isException]
  generalize hTrim : Text.trim line.toList = cs at hRule
  simp only [Bool.or_eq_true, List.isEmpty_iff, decide_eq_true_eq, not_or] at hRule
  rw [ofLine?_of_trim hTrim hRule.1 hRule.2 rfl rfl rfl] at h
  cases h
  cases cs with
  | nil => exact absurd rfl hRule.1
  | cons c cs =>
      by_cases hMark : c = '!' <;> simp [hMark]

theorem isTrimmed_sign_append {c : Char} (hMark : Text.isBlank c = false) {cs : List Char}
    (h : Text.IsTrimmed cs) (hSome : cs ≠ []) (wanted : Bool) :
    Text.IsTrimmed (sign wanted c ++ cs) where
  first := by
    cases wanted with
    | true => simpa [sign] using hMark
    | false => exact h.first
  last := by
    rw [List.getLast?_append_of_ne_nil _ hSome]
    exact h.last

theorem isTrimmed_append_sign {c : Char} (hMark : Text.isBlank c = false) {cs : List Char}
    (h : Text.IsTrimmed cs) (hSome : cs ≠ []) (wanted : Bool) :
    Text.IsTrimmed (cs ++ sign wanted c) where
  first := by
    rw [List.head?_append_of_ne_nil _ hSome]
    exact h.first
  last := by
    cases wanted with
    | true => simpa [sign] using hMark
    | false => simpa [sign] using h.last

theorem IsPattern.isTrimmed_written {body : String} (h : IsPattern body)
    (negate anchored directoryOnly : Bool) :
    Text.IsTrimmed (written negate anchored directoryOnly body).toList := by
  rw [written, String.toList_ofList]
  have hEnd := isTrimmed_append_sign (c := '/') (by decide) h.trimmed h.nonempty directoryOnly
  have hTied := isTrimmed_sign_append (c := '/') (by decide) hEnd (by simp [h.nonempty]) anchored
  exact isTrimmed_sign_append (by decide) hTied (by simp [h.nonempty]) negate

/-- A written line makes the rule that it was written for. -/
theorem IsPattern.ofLine?_written {body : String} (h : IsPattern body)
    (negate anchored directoryOnly : Bool) :
    ofLine? (written negate anchored directoryOnly body) =
      some ⟨body, directoryOnly, anchored, negate, body.toList.contains '/'⟩ := by
  have hTrim := (h.isTrimmed_written negate anchored directoryOnly).trim
  obtain ⟨c, rest, hBody⟩ := List.exists_cons_of_ne_nil h.nonempty
  obtain ⟨hSlash, hMark, hNumber⟩ := h.first c (by simp [hBody])
  have hBare : body.toList.head? ≠ some '/' := by simpa [hBody] using hSlash
  have hLast : body.toList.getLast? ≠ some '/' := fun hEnd => h.last '/' (by simp [hEnd]) rfl
  have hTied : (sign anchored '/' ++ body.toList).getLast? ≠ some '/' := by
    rwa [List.getLast?_append_of_ne_nil _ h.nonempty]
  have hPlain : (sign anchored '/' ++ (body.toList ++ sign directoryOnly '/')).head? ≠ some '!' := by
    cases anchored <;> simp [sign, hBody, hMark]
  have hNote : (written negate anchored directoryOnly body).toList.head? ≠ some '#' := by
    cases negate <;> cases anchored <;> simp [written, sign, hBody, hNumber]
  have hNegate : takeLeading '!' (written negate anchored directoryOnly body).toList =
      (negate, sign anchored '/' ++ body.toList ++ sign directoryOnly '/') := by
    rw [written, String.toList_ofList, takeLeading_sign hPlain, List.append_assoc]
  rw [ofLine?_of_trim hTrim (by simp [written, h.nonempty]) hNote hNegate
    (takeTrailing_sign hTied directoryOnly) (takeLeading_sign hBare anchored), String.ofList_toList]

end IgnoreRule

variable {path : String} {isDir : Bool}

/-- One more rule decides if it matches, and otherwise leaves the decision as it is. -/
theorem shouldIgnore_concat (rules : List IgnoreRule) (r : IgnoreRule) :
    shouldIgnore (rules ++ [r]) path isDir =
      if r.matches? path isDir then !r.negate else shouldIgnore rules path isDir := by
  simp only [shouldIgnore, List.foldl_append, List.foldl_cons, List.foldl_nil]

theorem ignoreRules_concat (lines : List String) (line : String) :
    ignoreRules (lines ++ [line]) = ignoreRules lines ++ (IgnoreRule.ofLine? line).toList := by
  rw [ignoreRules, List.filterMap_append, ignoreRules]
  cases hRule : IgnoreRule.ofLine? line <;> simp [hRule]

/-- What a line says about a path: that it is excluded, that it is not, or nothing. -/
def verdict? (line path : String) (isDir : Bool) : Option Bool :=
  ((IgnoreRule.ofLine? line).filter fun r => r.matches? path isDir).map fun r => !r.negate

/-- One more line decides if it says something. -/
theorem shouldIgnore_line (lines : List String) (line : String) :
    shouldIgnore (ignoreRules (lines ++ [line])) path isDir =
      (verdict? line path isDir).getD (shouldIgnore (ignoreRules lines) path isDir) := by
  rw [ignoreRules_concat, verdict?]
  cases IgnoreRule.ofLine? line with
  | none => simp
  | some r =>
      rw [Option.toList_some, shouldIgnore_concat]
      cases hMatch : r.matches? path isDir <;> simp [Option.filter, hMatch]

/-- The last line that says something decides. -/
theorem shouldIgnore_iff_verdict? (lines : List String) :
    shouldIgnore (ignoreRules lines) path isDir = true ↔
      ∃ front line back, lines = front ++ line :: back ∧ verdict? line path isDir = some true ∧
        ∀ other ∈ back, verdict? other path isDir = none := by
  induction lines using List.reverseRecOn with
  | nil => simp [shouldIgnore, ignoreRules]
  | append_singleton lines line ih =>
      rw [shouldIgnore_line]
      constructor
      · intro h
        cases hVerdict : verdict? line path isDir with
        | some b =>
            rw [hVerdict] at h
            exact ⟨lines, line, [], rfl, by rw [hVerdict]; exact congrArg some h, by simp⟩
        | none =>
            rw [hVerdict] at h
            obtain ⟨front, last, back, rfl, hLast, hBack⟩ := ih.mp h
            refine ⟨front, last, back ++ [line], by simp, hLast, ?_⟩
            exact List.forall_mem_append.mpr ⟨hBack, by simpa using hVerdict⟩
      · rintro ⟨front, last, back, hLines, hLast, hBack⟩
        cases back using List.reverseRecOn with
        | nil =>
            obtain ⟨rfl, hSame⟩ := List.append_inj' hLines rfl
            cases hSame
            rw [hLast]
            rfl
        | append_singleton back other =>
            rw [← List.cons_append, ← List.append_assoc] at hLines
            obtain ⟨rfl, hSame⟩ := List.append_inj' hLines rfl
            cases hSame
            obtain ⟨hBack, hOther⟩ := List.forall_mem_append.mp hBack
            rw [hOther _ (by simp)]
            exact ih.mpr ⟨front, last, back, rfl, hLast, hBack⟩

theorem verdict?_eq_some_true_iff {line : String} :
    verdict? line path isDir = some true ↔
      ∃ r, IgnoreRule.ofLine? line = some r ∧ r.matches? path isDir = true ∧ r.negate = false := by
  simp [verdict?, Option.filter_eq_some_iff, and_assoc]

theorem verdict?_eq_none_iff {line : String} :
    verdict? line path isDir = none ↔
      ∀ r, IgnoreRule.ofLine? line = some r → r.matches? path isDir = false := by
  simp [verdict?, Option.filter_eq_none_iff]

/-- A line that says something says what its first sign says. -/
theorem eq_not_isException_of_verdict? {line : String} {b : Bool}
    (h : verdict? line path isDir = some b) : b = !IgnoreRule.isException line := by
  obtain ⟨r, hRule, rfl⟩ := Option.map_eq_some_iff.mp h
  rw [IgnoreRule.negate_of_ofLine? (Option.filter_eq_some_iff.mp hRule).1]

/-- Notes make no rules. -/
theorem ignoreRules_filter_isNote (lines : List String) :
    ignoreRules (lines.filter fun line => !IgnoreRule.isNote line) = ignoreRules lines := by
  rw [ignoreRules, ignoreRules, List.filterMap_filter]
  refine List.filterMap_congr fun line _ => ?_
  cases hNote : IgnoreRule.isNote line with
  | false => rfl
  | true => exact (IgnoreRule.ofLine?_eq_none_iff.mpr hNote).symm

/-- One more line with an exclamation mark excludes nothing that was not excluded before. -/
theorem shouldIgnore_of_exception {lines : List String} {line : String}
    (hException : IgnoreRule.isException line = true)
    (h : shouldIgnore (ignoreRules (lines ++ [line])) path isDir = true) :
    shouldIgnore (ignoreRules lines) path isDir = true := by
  rw [shouldIgnore_line] at h
  cases hVerdict : verdict? line path isDir with
  | none => simpa [hVerdict] using h
  | some b =>
      have hSign := eq_not_isException_of_verdict? hVerdict
      simp [hVerdict, hSign, hException] at h

/-- One more line of any other sort leaves excluded what was. -/
theorem shouldIgnore_of_plain {lines : List String} {line : String}
    (hPlain : IgnoreRule.isException line = false)
    (h : shouldIgnore (ignoreRules lines) path isDir = true) :
    shouldIgnore (ignoreRules (lines ++ [line])) path isDir = true := by
  rw [shouldIgnore_line]
  cases hVerdict : verdict? line path isDir with
  | none => simpa using h
  | some b =>
      have hSign := eq_not_isException_of_verdict? hVerdict
      simp [hSign, hPlain]

/-- A list of exclusion lines decides by the last line that makes a matching rule. So notes count for
nothing, one more line with an exclamation mark can only let a path in, and one more line of any other
sort can only leave it out. Every combination of signs around a pattern is read back. -/
theorem shouldIgnore_by_last_line :
    (∀ lines path isDir, shouldIgnore (ignoreRules lines) path isDir = true ↔
      ∃ front line back, lines = front ++ line :: back ∧
        (∃ r, IgnoreRule.ofLine? line = some r ∧ r.matches? path isDir = true ∧ r.negate = false) ∧
        ∀ other ∈ back, ∀ r, IgnoreRule.ofLine? other = some r → r.matches? path isDir = false) ∧
    (∀ lines path isDir, shouldIgnore (ignoreRules lines) path isDir =
      shouldIgnore (ignoreRules (lines.filter fun line => !IgnoreRule.isNote line)) path isDir) ∧
    (∀ lines line path isDir, IgnoreRule.isException line = true →
      shouldIgnore (ignoreRules (lines ++ [line])) path isDir = true →
        shouldIgnore (ignoreRules lines) path isDir = true) ∧
    (∀ lines line path isDir, IgnoreRule.isException line = false →
      shouldIgnore (ignoreRules lines) path isDir = true →
        shouldIgnore (ignoreRules (lines ++ [line])) path isDir = true) ∧
    ∀ negate anchored directoryOnly body, IgnoreRule.IsPattern body →
      IgnoreRule.ofLine? (IgnoreRule.written negate anchored directoryOnly body) =
        some ⟨body, directoryOnly, anchored, negate, body.toList.contains '/'⟩ := by
  refine ⟨fun lines path isDir => ?_, fun lines path isDir => ?_,
    fun lines line path isDir hException => shouldIgnore_of_exception hException,
    fun lines line path isDir hPlain => shouldIgnore_of_plain hPlain,
    fun negate anchored directoryOnly body hBody => hBody.ofLine?_written negate anchored directoryOnly⟩
  · simp only [shouldIgnore_iff_verdict?, verdict?_eq_some_true_iff, verdict?_eq_none_iff]
  · rw [ignoreRules_filter_isNote]

/-- The statement on exclusion lines, for headers of which one is kept: a note in between changes nothing, and
neither the exception nor a further line lets the others in. -/
theorem shouldIgnore_by_last_line_headers :
    let lines := ["*.h", "# but not:", "!Keep.h"]
    shouldIgnore (ignoreRules lines) "A.h" false = true ∧
      shouldIgnore (ignoreRules lines) "Keep.h" false = false ∧
      shouldIgnore (ignoreRules ["*.h", "!Keep.h"]) "A.h" false = true ∧
      shouldIgnore (ignoreRules ["*.h"]) "A.h" false = true ∧
      shouldIgnore (ignoreRules (lines ++ ["*.cpp"])) "A.h" false = true ∧
      IgnoreRule.ofLine? "!/Source/Gen*/" = some ⟨"Source/Gen*", true, true, true, true⟩ := by
  intro lines
  obtain ⟨hLast, hNotes, hException, hPlain, hWritten⟩ := shouldIgnore_by_last_line
  have hLine : IgnoreRule.ofLine? "*.h" = some ⟨"*.h", false, false, false, false⟩ := by decide +kernel
  have hNote : IgnoreRule.ofLine? "# but not:" = none := by decide +kernel
  have hKeep : IgnoreRule.ofLine? "!Keep.h" = some ⟨"Keep.h", false, false, true, false⟩ := by
    decide +kernel
  have hAll : shouldIgnore (ignoreRules lines) "A.h" false = true := by
    refine (hLast _ _ _).mpr ⟨[], "*.h", _, rfl, ⟨_, hLine, by decide +kernel, rfl⟩, ?_⟩
    intro other hOther r hRule
    rcases List.mem_pair.mp hOther with rfl | rfl
    · cases hNote.symm.trans hRule
    · cases hKeep.symm.trans hRule
      decide +kernel
  have hKept : shouldIgnore (ignoreRules lines) "Keep.h" false = false := by decide +kernel
  have hFew : shouldIgnore (ignoreRules ["*.h", "!Keep.h"]) "A.h" false = true := by
    have hKnown : lines.filter (fun line => !IgnoreRule.isNote line) = ["*.h", "!Keep.h"] := by
      decide +kernel
    rw [hNotes, hKnown] at hAll
    exact hAll
  have hBody : IgnoreRule.IsPattern "Source/Gen*" :=
    ⟨by decide, by decide +kernel, by decide, by decide⟩
  have hText : IgnoreRule.written true true true "Source/Gen*" = "!/Source/Gen*/" := by decide +kernel
  have hSlash : "Source/Gen*".toList.contains '/' = true := by decide
  have hRule := hWritten true true true _ hBody
  rw [hText, hSlash] at hRule
  exact ⟨hAll, hKept, hFew, hException ["*.h"] "!Keep.h" _ _ (by decide +kernel) hFew,
    hPlain lines "*.cpp" _ _ (by decide +kernel) hAll, hRule⟩

end ProjectAtlas
