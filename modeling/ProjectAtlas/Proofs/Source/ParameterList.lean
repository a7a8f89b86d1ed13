import ProjectAtlas.Proofs.Source.Enclosed
import ProjectAtlas.Proofs.Source.Signature

/-!
Parameter lists with default values. A default value may hold commas in quotation marks and in parentheses,
and equals signs; the parameters of the list are read from what stands in front of the default values.
-/

namespace ProjectAtlas.Source

open ProjectAtlas.Text

/-- A parameter as it is written, with the text of its default value if it has one. -/
structure WrittenParameter extends Parameter where
  default : Option String
deriving DecidableEq, Repr

namespace WrittenParameter

/-- The default value behind its equals sign. -/
def defaultText (p : WrittenParameter) : List Char :=
  p.default.elim [] fun d => " = ".toList ++ d.toList

/-- The text of a parameter. -/
def text (p : WrittenParameter) : List Char :=
  parameterText p.toParameter ++ p.defaultText

/-- The type is a text without blanks at its ends that no comma cuts and that has no equals sign, the
name is an identifier, and the default value is any text that no comma cuts. -/
structure WellFormed (p : WrittenParameter) : Prop where
  hasType : p.type ≠ ""
  trimmed : IsTrimmed p.type.toList
  type : Enclosed p.type.toList
  noEquals : '=' ∉ p.type.toList
  name : IsName p.name.toList
  default : ∀ d ∈ p.default, Enclosed d.toList

variable {p : WrittenParameter}

theorem WellFormed.inside (h : p.WellFormed) : staysInside {} p.text = true := by
  have hName : staysInside {} (' ' :: p.name.toList) = true := by
    apply staysInside_of_plain
    exact List.forall_mem_cons.mpr ⟨by decide, fun c hc => isPlain_of_isWord (h.name.isWord c hc)⟩
  have hDefault : staysInside {} p.defaultText = true := by
    rw [defaultText]
    cases hWritten : p.default with
    | none => rfl
    | some d => exact staysInside_append (by decide) (h.default d hWritten).staysInside
  exact staysInside_append (staysInside_append h.type.staysInside hName) hDefault

/-- What is in front of the default value declares the parameter. -/
theorem WellFormed.parameterOf? (h : p.WellFormed) :
    Source.parameterOf? (trim p.text) = some p.toParameter := by
  have hSome : p.type.toList ≠ [] := by simpa using h.hasType
  have hTrimmed : IsTrimmed (parameterText p.toParameter) := by
    rw [parameterText_eq]
    exact isTrimmed_append hSome h.name.ne_nil h.trimmed.first
      (fun c hc => h.name.not_blank c (List.mem_of_mem_getLast? hc)) [' ']
  have hEquals : '=' ∉ parameterText p.toParameter := by
    simp [parameterText, h.noEquals, h.name.not_mem (show isWord '=' = false by decide)]
  apply parameterOf?_of_declared _ hSome h.trimmed h.name
  rw [text, defaultText]
  cases p.default with
  | none =>
      have hAll := hTrimmed.trim
      rw [Option.elim_none, List.append_nil, hAll, before_eq_self hEquals, hAll]
  | some d =>
      -- The blank in front of the equals sign is trimmed with what is cut off.
      have hShape : parameterText p.toParameter ++ (" = ".toList ++ d.toList) =
          (parameterText p.toParameter ++ [' ']) ++ '=' :: (' ' :: d.toList) := by
        simp
      have hTrim : trim ((parameterText p.toParameter ++ [' ']) ++ '=' :: (' ' :: d.toList)) =
          (parameterText p.toParameter ++ [' ']) ++ '=' :: trimEnd (' ' :: d.toList) := by
        rw [trim, trimStart_eq_self, trimEnd_append_cons (by decide)]
        intro c hc
        apply hTrimmed.first c
        simpa [parameterText] using hc
      have hFront : '=' ∉ parameterText p.toParameter ++ [' '] := by simpa using hEquals
      rw [Option.elim_some, hShape, hTrim, before_append hFront, trim_append_blanks (by decide),
        hTrimmed.trim]

/-- The blank between the type and the name of a parameter is not trimmed away. -/
theorem WellFormed.mem_trim (h : p.WellFormed) (t : List Char) : ' ' ∈ trim (p.text ++ t) := by
  obtain ⟨a, as, hType⟩ := List.exists_cons_of_ne_nil
    (show p.type.toList ≠ [] by simpa using h.hasType)
  have hFirst : isBlank a = false := h.trimmed.first a (by simp [hType])
  obtain ⟨b, hb⟩ := List.exists_mem_of_ne_nil _ h.name.ne_nil
  have hShape : p.text ++ t = p.type.toList ++ ' ' :: (p.name.toList ++ (p.defaultText ++ t)) := by
    simp [text, parameterText]
  rw [hShape]
  exact mem_trim_between (by simp [hType]) hFirst (List.mem_append_left _ hb)
    (h.name.not_blank b hb)

end WrittenParameter

theorem filterMap_parameterOf? {ps : List WrittenParameter} (h : ∀ p ∈ ps, p.WellFormed) :
    ((ps.map WrittenParameter.text).map trim).filterMap parameterOf? =
      ps.map WrittenParameter.toParameter := by
  rw [List.filterMap_map, List.filterMap_map, ← List.filterMap_eq_map]
  apply List.filterMap_congr
  intro p hp
  rw [Function.comp_apply, Function.comp_apply, Function.comp_apply]
  exact (h p hp).parameterOf?

/-- Parameters are read from a list as they are written, and nothing of their default values is read. -/
theorem parseParameters_written {ps : List WrittenParameter} (h : ∀ p ∈ ps, p.WellFormed) :
    parseParameters (listText (ps.map WrittenParameter.text)) =
      ps.map WrittenParameter.toParameter := by
  cases ps with
  | nil => rfl
  | cons p ps =>
      have hFirst := h p List.mem_cons_self
      have hBlank : ' ' ∈ trim (listText ((p :: ps).map WrittenParameter.text)) := by
        cases ps with
        | nil => simpa using hFirst.mem_trim []
        | cons q ps =>
            rw [List.map_cons, List.map_cons, listText_cons_cons]
            exact hFirst.mem_trim _
      have hSome : trim p.text ≠ [] := by
        have hMem := hFirst.mem_trim []
        rw [List.append_nil] at hMem
        exact List.ne_nil_of_mem hMem
      have hInside : ∀ a ∈ (p :: ps).map WrittenParameter.text, staysInside {} a = true :=
        List.forall_mem_map.mpr fun q hq => (h q hq).inside
      have hSplit := splitTopLevel_listText_trim hSome hInside
      rw [parseParameters_of_mem hBlank, ← filterMap_parameterOf? h]
      exact congrArg (List.filterMap parameterOf?) hSplit

/-- A type with parentheses, and default values with commas, equals signs and parentheses of their own. -/
theorem parseParameters_written_fire :
    parseParameters ("const FString& Name = TEXT(\"a, b)\"), TFunction<void(bool)> Done, " ++
        "int32 N = Max(1, N = 2) ").toList =
      [⟨"Name", "const FString&"⟩, ⟨"Done", "TFunction<void(bool)>"⟩, ⟨"N", "int32"⟩] := by
  have hText : Enclosed "TEXT(\"a, b)\")".toList := by
    have hInner : Balanced ('"' :: ("a, b)".toList ++ ['"'])) := .quoted rfl (by decide) .nil
    have hCall := (enclosed_of_plain (show ∀ c ∈ "TEXT".toList, IsPlain c by decide)).append
      (.group hInner .nil)
    simpa using hCall
  have hMax : Enclosed "Max(1, N = 2) ".toList := by
    have hInner := balanced_of_other (show ∀ c ∈ "1, N = 2".toList,
      c ≠ '(' ∧ c ≠ ')' ∧ isQuote c = false by decide)
    have hCall := (enclosed_of_plain (show ∀ c ∈ "Max".toList, IsPlain c by decide)).append
      (.group hInner (enclosed_of_plain (show ∀ c ∈ " ".toList, IsPlain c by decide)))
    simpa using hCall
  have hFunction : Enclosed "TFunction<void(bool)>".toList := by
    have hInner := balanced_of_other (show ∀ c ∈ "bool".toList,
      c ≠ '(' ∧ c ≠ ')' ∧ isQuote c = false by decide)
    have hType := (enclosed_of_plain (show ∀ c ∈ "TFunction<void".toList, IsPlain c by decide)).append
      (.group hInner (enclosed_of_plain (show ∀ c ∈ ">".toList, IsPlain c by decide)))
    simpa using hType
  let ps : List WrittenParameter :=
    [⟨⟨"Name", "const FString&"⟩, some "TEXT(\"a, b)\")"⟩, ⟨⟨"Done", "TFunction<void(bool)>"⟩, none⟩,
      ⟨⟨"N", "int32"⟩, some "Max(1, N = 2) "⟩]
  have hRead : ∀ p ∈ ps, p.WellFormed := by
    simp only [ps, List.forall_mem_cons]
    refine ⟨?_, ?_, ?_, by simp⟩
    · exact ⟨by decide, by decide, enclosed_of_plain (by decide), by decide, by decide, by simpa using hText⟩
    · exact ⟨by decide, by decide, hFunction, by decide, by decide, by simp⟩
    · exact ⟨by decide, by decide, enclosed_of_plain (by decide), by decide, by decide, by simpa using hMax⟩
  have hShape : ("const FString& Name = TEXT(\"a, b)\"), TFunction<void(bool)> Done, " ++
      "int32 N = Max(1, N = 2) ").toList = listText (ps.map WrittenParameter.text) := by
    decide +kernel
  exact (congrArg parseParameters hShape).trans (parseParameters_written hRead)

end ProjectAtlas.Source
