import ProjectAtlas.Proofs.Source.AnnotatedLine
import ProjectAtlas.Proofs.Source.EnumHead

/-!
Comment lines in the body of an enumeration. The body is searched for its closing brace before comments
are taken off, and a comment between `/*` and `*/` is not taken off at all; so a comment line leaves the
entries as they are only if it holds no closing brace and reads as no entry.
-/

namespace ProjectAtlas.Source

open ProjectAtlas.Text

/-- A comment that is a line of its own: from `//` to the end, or between `/*` and the next `*/`. -/
inductive FullLineComment : List Char → Prop where
  | toEnd (t : List Char) : FullLineComment ('/' :: '/' :: t)
  | block {t : List Char} (hEnd : ¬['*', '/'] <:+: t) :
      FullLineComment ('/' :: '*' :: (t ++ ['*', '/']))

/-- If the body is open behind the header then it goes on below. -/
theorem exists_enumEntries_eq {header : List Char} (h : ∀ r ∈ cutAt? ['{'] header, '}' ∉ r.2)
    (window : Nat) :
    ∃ front, ∀ rest, enumEntries window header rest = front ++ bodyEntries (rest.take window) := by
  cases hCut : cutAt? ['{'] header with
  | none => exact ⟨[], fun rest => by rw [enumEntries, hCut]; rfl⟩
  | some r =>
      have hBody : r.2.contains '}' = false := by simpa using h r hCut
      refine ⟨entriesOn (before ['}'] r.2), fun rest => ?_⟩
      rw [enumEntries, hCut]
      simp only [hBody, Bool.false_eq_true, if_false]

/-- The line behind these lines is in a window that is longer than they are. -/
theorem exists_take_append_cons {ls : List (List Char)} {window : Nat} (h : ls.length < window)
    (close : List Char) (rest : List (List Char)) :
    ∃ rest', (ls ++ close :: rest).take window = ls ++ close :: rest' := by
  obtain ⟨k, rfl⟩ : ∃ k, window = ls.length + (k + 1) := ⟨window - ls.length - 1, by omega⟩
  rw [List.take_length_add_append, List.take_succ_cons]
  exact ⟨_, rfl⟩

section Comment

variable {comment : List Char}

theorem FullLineComment.exists_cons (h : FullLineComment comment) : ∃ t, comment = '/' :: t := by
  cases h <;> exact ⟨_, rfl⟩

/-- A comment line adds the entries that it reads as, and ends the body if it holds a closing brace. -/
theorem FullLineComment.bodyEntries_cons (h : FullLineComment comment) (ls : List (List Char)) :
    bodyEntries (comment :: ls) =
      if '}' ∈ comment then entriesOn (before ['}'] comment)
      else entriesOn comment ++ bodyEntries ls := by
  obtain ⟨t, rfl⟩ := h.exists_cons
  by_cases hClose : '}' ∈ t <;> simp [bodyEntries, hClose]

/-- What begins with two slashes reads as no entry. -/
theorem entriesOn_comment (t : List Char) : entriesOn ('/' :: '/' :: t) = [] := by
  have hBefore : before ['/', '/'] ('/' :: '/' :: t) = [] := by simp [before, cutAt?]
  rw [entriesOn, hBefore]
  rfl

/-- A text that begins with a slash and has no comma reads as no entry. -/
theorem entriesOn_slash {t : List Char} (h : ',' ∉ t) : entriesOn ('/' :: t) = [] := by
  by_cases hTwo : ∃ r, t = '/' :: r
  · obtain ⟨r, rfl⟩ := hTwo
    exact entriesOn_comment r
  · have hBefore : before ['/', '/'] ('/' :: t) = '/' :: before ['/', '/'] t := by
      have hOther : ['/', '/'].isPrefixOf ('/' :: t) = false := by
        rw [Bool.eq_false_iff, Ne, List.isPrefixOf_iff_prefix]
        rintro ⟨r, hShape⟩
        exact hTwo ⟨r, by simpa using hShape.symm⟩
      rw [before, before, cutAt?, hOther]
      cases cutAt? ['/', '/'] t <;> rfl
    have hMeta (cs : List Char) : afterMeta? ('/' :: cs) = none := by
      simp [afterMeta?, toList_metaName, metaName]
    have hComma : ',' ∉ '/' :: dropMeta (before ['/', '/'] t) := by
      intro hMem
      have hLeft : ',' ∈ dropMeta (before ['/', '/'] t) := by simpa using hMem
      exact h ((prefix_before _ _).mem ((dropMeta_sublist _).mem hLeft))
    rw [entriesOn, hBefore, dropMeta_cons (hMeta _), filterMap_splitTopLevel,
      rawPieces_eq_singleton hComma, List.filterMap_cons, trim_cons (by decide)]
    rfl

/-- A comment without a closing brace reads as no entry if it goes to the end of the line or holds no
comma. -/
theorem FullLineComment.entriesOn_eq_nil (h : FullLineComment comment)
    (hPlain : ['/', '/'] <+: comment ∨ ',' ∉ comment) : entriesOn comment = [] := by
  rcases hPlain with ⟨t, rfl⟩ | hComma
  · exact entriesOn_comment t
  · obtain ⟨t, rfl⟩ := h.exists_cons
    exact entriesOn_slash fun hMem => hComma (List.mem_cons_of_mem '/' hMem)

end Comment

/-- Which comment lines leave the entries of an enumeration as they are. The line `comment` is put in front
of the lines `mid` of a body that the line `close` closes, and the longer body fits into the window. If it
holds no closing brace then it is without effect exactly if it reads as no entry, which is so if it goes to
the end of the line or holds no comma. Otherwise the body ends in it, which is without effect exactly if
the lines below it give what is in front of the brace. -/
theorem enumValues_comment {windows : Windows} {head : List (List Char)} {header : List Char}
    (hHead : EnumHead windows head header) (hOpen : ∀ r ∈ cutAt? ['{'] header, '}' ∉ r.2)
    {upTo mid : List (List Char)} (hInside : ∀ l ∈ upTo ++ mid, '}' ∉ l) {close : List Char}
    (hClose : '}' ∈ close) {comment : List Char} (hComment : FullLineComment comment)
    (hWindow : upTo.length + mid.length + 2 ≤ windows.enumBody) {above rest : List (List Char)}
    {text commented : List Char}
    (hText : (lines text).map trim = above ++ head ++ (upTo ++ (mid ++ close :: rest)))
    (hCommented : (lines commented).map trim =
      above ++ head ++ (upTo ++ comment :: (mid ++ close :: rest)))
    (origin : Origin) :
    ∃ d ∈ declarationsOf (reflected windows origin text),
      ∃ e ∈ declarationsOf (reflected windows origin commented),
        d.kind = .enumType ∧ d.line = above.length + head.length ∧ e = { d with values := e.values } ∧
          ('}' ∉ comment → (e = d ↔ entriesOn comment = [])) ∧
          ('}' ∉ comment → (['/', '/'] <+: comment ∨ ',' ∉ comment) → e = d) ∧
          ('}' ∈ comment →
            (e = d ↔ entriesOn (before ['}'] comment) = bodyEntries (mid ++ [close]))) := by
  obtain ⟨d, hKind, hLine, hRead⟩ := hHead.exists_declaration origin above
  obtain ⟨front, hFront⟩ := exists_enumEntries_eq hOpen windows.enumBody
  obtain ⟨hUpTo, hMid⟩ := List.forall_mem_append.mp hInside
  let kept := front ++ bodyEntries upTo
  have hPlain : enumEntries windows.enumBody header (upTo ++ (mid ++ close :: rest)) =
      front ++ (bodyEntries upTo ++ bodyEntries (mid ++ [close])) := by
    have hLess : (upTo ++ mid).length < windows.enumBody := by
      rw [List.length_append]
      omega
    obtain ⟨rest', hTake⟩ := exists_take_append_cons hLess close rest
    rw [hFront, ← List.append_assoc, hTake, List.append_assoc, bodyEntries_append hUpTo,
      bodyEntries_append_close hMid hClose]
  have hMore : enumEntries windows.enumBody header (upTo ++ comment :: (mid ++ close :: rest)) =
      front ++ (bodyEntries upTo ++ if '}' ∈ comment then entriesOn (before ['}'] comment)
        else entriesOn comment ++ bodyEntries (mid ++ [close])) := by
    have hLess : (upTo ++ comment :: mid).length < windows.enumBody := by
      rw [List.length_append, List.length_cons]
      omega
    obtain ⟨rest', hTake⟩ := exists_take_append_cons hLess close rest
    have hSplit (more : List (List Char)) : upTo ++ comment :: (mid ++ close :: more) =
        (upTo ++ comment :: mid) ++ close :: more := by simp
    rw [hFront, hSplit, hTake, ← hSplit, bodyEntries_append hUpTo, hComment.bodyEntries_cons,
      bodyEntries_append_close hMid hClose]
  have hSame {values values' : List EnumValue} :
      ({ d with values := values } : Declaration) = { d with values := values' } ↔ values = values' :=
    ⟨fun h => congrArg Declaration.values h, fun h => by rw [h]⟩
  refine ⟨_, hRead text _ hText, _, hRead commented _ hCommented, hKind, hLine, rfl, ?_⟩
  rw [hSame, hPlain, hMore, List.append_right_inj, List.append_right_inj]
  by_cases hEnds : '}' ∈ comment
  · simp [hEnds]
  · simp only [hEnds, not_false_eq_true, if_false, forall_const, false_implies, and_true]
    have hNone : entriesOn comment ++ bodyEntries (mid ++ [close]) = bodyEntries (mid ++ [close]) ↔
        entriesOn comment = [] := List.append_left_eq_self
    exact ⟨hNone, fun hHarmless => hNone.mpr (hComment.entriesOn_eq_nil hHarmless)⟩

/-- An enumeration of two entries, with these lines between them. -/
def modeText (between : List String) : List Char :=
  ['\n'].intercalate ((["UENUM()", "enum class EMode : uint8", "\x7b", "Idle,"] ++ between ++
    ["Run,", "\x7d;"]).map String.toList)

/-- A comment with a comma that goes to the end of its line is without effect. -/
theorem enumValues_comment_modeText :
    ∃ d ∈ declarationsOf (reflected {} ⟨"Mode.h", none⟩ (modeText [])),
      d ∈ declarationsOf (reflected {} ⟨"Mode.h", none⟩ (modeText ["// no Wait, Rest"])) ∧
        d.line = 2 ∧ d.values = [⟨"Idle", none⟩, ⟨"Run", none⟩] := by
  let header := "enum class EMode : uint8".toList
  let comment := "// no Wait, Rest".toList
  have hHead : EnumHead {} ("UENUM()".toList :: [] ++ [header]) header := by
    refine .below ?_ ?_ ?_ ?_ ?_ ?_ <;> decide
  have hOpen : ∀ r ∈ cutAt? ['{'] header, '}' ∉ r.2 := by decide
  have hInside : ∀ l ∈ [['{'], "Idle,".toList] ++ ["Run,".toList], '}' ∉ l := by decide
  have hClose : '}' ∈ "\x7d;".toList := by decide
  have hComment : FullLineComment comment := .toEnd " no Wait, Rest".toList
  have hText : (lines (modeText [])).map trim = [] ++ ("UENUM()".toList :: [] ++ [header]) ++
      ([['{'], "Idle,".toList] ++ (["Run,".toList] ++ "\x7d;".toList :: [])) := by
    decide +kernel
  have hCommented : (lines (modeText ["// no Wait, Rest"])).map trim =
      [] ++ ("UENUM()".toList :: [] ++ [header]) ++
        ([['{'], "Idle,".toList] ++ comment :: (["Run,".toList] ++ "\x7d;".toList :: [])) := by
    decide +kernel
  have hValues : ∀ d ∈ declarationsOf (reflected {} ⟨"Mode.h", none⟩ (modeText [])),
      d.values = [⟨"Idle", none⟩, ⟨"Run", none⟩] := by
    decide +kernel
  obtain ⟨d, hd, e, he, -, hLine, -, -, hHarmless, -⟩ := enumValues_comment hHead hOpen hInside hClose
    hComment (by decide) hText hCommented ⟨"Mode.h", none⟩
  have hSame : e = d := hHarmless (by decide) (.inl ⟨" no Wait, Rest".toList, rfl⟩)
  exact ⟨d, hd, hSame ▸ he, hLine, hValues d hd⟩

/-- A closing brace in a comment ends the body, and a comment between `/*` and `*/` gives what stands
between its commas. -/
theorem enumValues_braceComment :
    (declarationsOf (reflected {} ⟨"Mode.h", none⟩ (modeText []))).map (·.values) =
        [[⟨"Idle", none⟩, ⟨"Run", none⟩]] ∧
      (declarationsOf (reflected {} ⟨"Mode.h", none⟩ (modeText ["// was \x7bWait\x7d"]))).map (·.values) =
        [[⟨"Idle", none⟩]] ∧
      (declarationsOf (reflected {} ⟨"Mode.h", none⟩ (modeText ["/* Walk, Crawl, Swim */"]))).map
          (·.values) =
        [[⟨"Idle", none⟩, ⟨"Crawl", none⟩, ⟨"Run", none⟩]] := by
  refine ⟨?_, ?_, ?_⟩ <;> decide +kernel

end ProjectAtlas.Source
