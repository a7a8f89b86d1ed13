import Mathlib.Data.List.Infix
import ProjectAtlas.Proofs.Source.AnnotatedLine
import ProjectAtlas.Proofs.Source.EnumHead

/-!
Layouts of the body of an enumeration. The entries may stand on any number of lines and the braces beside
them or on lines of their own: what is read is what stands on the header line and on the lines of the
window.
-/

namespace ProjectAtlas.Source

open ProjectAtlas.Text

/-- The text writes the entry, with blanks where they may stand. -/
inductive Writes : WrittenEntry → EnumValue → Prop where
  | bare {lead trail : List Char} {name : String} (hName : IsName name.toList)
      (hLead : ∀ c ∈ lead, isBlank c = true) (hTrail : ∀ c ∈ trail, isBlank c = true) :
      Writes { lead := lead, name := name.toList, trail := trail } ⟨name, none⟩
  | valued {lead before after text trail : List Char} {name : String} {n : Int}
      (hName : IsName name.toList) (hText : IntegerText text n)
      (hLead : ∀ c ∈ lead, isBlank c = true) (hBefore : ∀ c ∈ before, isBlank c = true)
      (hAfter : ∀ c ∈ after, isBlank c = true) (hTrail : ∀ c ∈ trail, isBlank c = true) :
      Writes
        { lead := lead, name := name.toList,
          assigned := some { before := before, after := after, text := text }, trail := trail }
        ⟨name, some n⟩

/-- The line lists the entries, with commas between them and behind the last one or not. -/
def Lists (line : List Char) (vs : List EnumValue) : Prop :=
  ∃ es comma, List.Forall₂ Writes es vs ∧ line = entryLine es comma

/-- Lines of entries down to the closing brace, with the entries on each of them. -/
inductive BodyRows : List (List Char) → List (List EnumValue) → Prop where
  | last {line : List Char} {vs : List EnumValue} (h : Lists line vs) (tail : List Char) :
      BodyRows [line ++ '}' :: tail] [vs]
  | more {line : List Char} {vs : List EnumValue} {ls : List (List Char)}
      {rows : List (List EnumValue)} (h : Lists line vs) (rest : BodyRows ls rows) :
      BodyRows (line :: ls) (vs :: rows)

/-- A body whose opening brace is on the header line or begins the next one: the header line, the lines
below it down to the closing brace, the entries on the header line, and those on each line below. -/
inductive Layout : List Char → List (List Char) → List EnumValue → List (List EnumValue) → Prop where
  | inline {title line : List Char} {vs : List EnumValue} (hTitle : '{' ∉ title) (h : Lists line vs)
      (tail : List Char) : Layout (title ++ '{' :: (line ++ '}' :: tail)) [] vs []
  | opened {title line : List Char} {vs : List EnumValue} {ls : List (List Char)}
      {rows : List (List EnumValue)} (hTitle : '{' ∉ title) (h : Lists line vs)
      (rest : BodyRows ls rows) : Layout (title ++ '{' :: line) ls vs rows
  | below {header line : List Char} {ls : List (List Char)} {rows : List (List EnumValue)}
      (hHeader : '{' ∉ header) (rest : BodyRows (line :: ls) rows) :
      Layout header (('{' :: line) :: ls) [] rows

section Entry

variable {e : WrittenEntry} {v : EnumValue}

theorem Writes.read (h : Writes e v) : e.read = v := by
  cases h with
  | bare => simp [WrittenEntry.read]
  | valued hName hText => simp [WrittenEntry.read, hText.readLiteral?]

theorem Writes.noteTexts (h : Writes e v) : e.noteTexts = [] := by
  cases h <;> rfl

theorem isBlank_of_mem_integerText {text : List Char} {n : Int} (h : IntegerText text n) :
    ∀ c ∈ text, isBlank c = false := by
  intro c hc
  rcases h.isWord_of_mem hc with hWord | rfl
  · exact isBlank_eq_false_of_isWord hWord
  · decide

/-- An integer may stand for a value. -/
theorem wellFormed_assigned {text before after : List Char} {n : Int} (h : IntegerText text n)
    (hBefore : ∀ c ∈ before, isBlank c = true) (hAfter : ∀ c ∈ after, isBlank c = true) :
    Assigned.WellFormed { before := before, after := after, text := text } where
  before := hBefore
  after := hAfter
  ne_nil := h.ne_nil
  trimmed := ⟨fun c hc => isBlank_of_mem_integerText h c (List.mem_of_mem_head? hc),
    fun c hc => isBlank_of_mem_integerText h c (List.mem_of_mem_getLast? hc)⟩
  plain := by
    intro c hc
    refine ⟨?_, ?_, ?_⟩
    · rcases h.isWord_of_mem hc with hWord | rfl
      · exact isPlain_of_isWord hWord
      · decide
    · rcases h.isWord_of_mem hc with hWord | rfl
      · exact ne_slash_of_isWord hWord
      · decide
    · rintro rfl
      exact absurd (isBlank_of_mem_integerText h _ hc) (by decide)
  notes := by simp

theorem Writes.wellFormed (h : Writes e v) : e.WellFormed := by
  cases h with
  | bare hName hLead hTrail => exact ⟨hLead, hName, by simp, by simp, hTrail⟩
  | valued hName hText hLead hBefore hAfter hTrail =>
      refine ⟨hLead, hName, by simp, ?_, hTrail⟩
      intro a ha
      cases ha
      exact wellFormed_assigned hText hBefore hAfter

/-- The characters of an entry. -/
theorem Writes.isWord_of_mem (h : Writes e v) {c : Char} (hc : c ∈ e.text) :
    isWord c = true ∨ isBlank c = true ∨ c = '=' ∨ c = '-' := by
  cases h with
  | bare hName hLead hTrail =>
      simp only [WrittenEntry.text, WrittenEntry.segments, Segment.text, List.flatMap_nil,
        Option.elim_none, List.append_nil, List.cons_append, List.nil_append, List.flatMap_cons,
        List.mem_append] at hc
      rcases hc with (hc | hc) | hc
      · exact .inr (.inl (hLead c hc))
      · exact .inl (hName.isWord c hc)
      · exact .inr (.inl (hTrail c hc))
  | valued hName hText hLead hBefore hAfter hTrail =>
      simp only [WrittenEntry.text, WrittenEntry.segments, Assigned.segments, Segment.text,
        List.flatMap_nil, Option.elim_some, List.append_nil, List.cons_append, List.nil_append,
        List.flatMap_cons, List.mem_append, List.mem_cons] at hc
      rcases hc with (hc | hc) | ((hc | rfl | hc) | hc) | hc
      · exact .inr (.inl (hLead c hc))
      · exact .inl (hName.isWord c hc)
      · exact .inr (.inl (hBefore c hc))
      · exact .inr (.inr (.inl rfl))
      · exact .inr (.inl (hAfter c hc))
      · rcases hText.isWord_of_mem hc with hWord | hMinus
        · exact .inl hWord
        · exact .inr (.inr (.inr hMinus))
      · exact .inr (.inl (hTrail c hc))

theorem exists_writes_of_mem {es : List WrittenEntry} {vs : List EnumValue}
    (h : List.Forall₂ Writes es vs) : ∀ e ∈ es, ∃ v, Writes e v := by
  induction h with
  | nil => simp
  | cons first rest ih => exact List.forall_mem_cons.mpr ⟨⟨_, first⟩, ih⟩

theorem map_read_eq {es : List WrittenEntry} {vs : List EnumValue}
    (h : List.Forall₂ Writes es vs) : es.map (·.read) = vs := by
  induction h with
  | nil => rfl
  | cons first rest ih => rw [List.map_cons, first.read, ih]

end Entry

section Line

variable {line : List Char} {vs : List EnumValue}

/-- No brace stands in a line of entries. -/
theorem Lists.not_mem (h : Lists line vs) : '{' ∉ line ∧ '}' ∉ line := by
  obtain ⟨es, comma, hEntries, rfl⟩ := h
  have hOther {c : Char} (hc : c ∈ entryLine es comma) :
      isWord c = true ∨ isBlank c = true ∨ c = '=' ∨ c = '-' ∨ c = ',' := by
    rcases mem_intercalate hc with hComma | ⟨p, hp, hMem⟩
    · exact .inr (.inr (.inr (.inr (List.mem_singleton.mp hComma))))
    · rcases List.mem_append.mp hp with hp | hp
      · obtain ⟨e, he, rfl⟩ := List.mem_map.mp hp
        obtain ⟨v, hWrites⟩ := exists_writes_of_mem hEntries e he
        rcases hWrites.isWord_of_mem hMem with hWord | hBlank | hEquals | hMinus
        · exact .inl hWord
        · exact .inr (.inl hBlank)
        · exact .inr (.inr (.inl hEquals))
        · exact .inr (.inr (.inr (.inl hMinus)))
      · cases comma with
        | false => cases hp
        | true =>
            rw [List.mem_singleton.mp hp] at hMem
            cases hMem
  constructor <;>
    · intro hMem
      exact absurd (hOther hMem) (by decide)

/-- A line gives the entries that it lists. -/
theorem Lists.entriesOn (h : Lists line vs) : Source.entriesOn line = vs := by
  obtain ⟨es, comma, hEntries, rfl⟩ := h
  rw [entriesOn_entryLine _ _ comma, map_read_eq hEntries]
  · intro e he
    obtain ⟨v, hWrites⟩ := exists_writes_of_mem hEntries e he
    exact hWrites.wellFormed
  · intro e he
    obtain ⟨v, hWrites⟩ := exists_writes_of_mem hEntries e he
    simp [hWrites.noteTexts]

end Line

section Rows

variable {ls : List (List Char)} {rows : List (List EnumValue)}

/-- The lines of the window give their entries, whatever follows the closing brace. -/
theorem BodyRows.bodyEntries_take (h : BodyRows ls rows) (window : Nat) (rest : List (List Char)) :
    bodyEntries ((ls ++ rest).take window) = (rows.take window).flatten := by
  induction h generalizing window with
  | @last line vs h tail =>
      cases window with
      | zero => rfl
      | succ w =>
          rw [List.cons_append, List.take_succ_cons, bodyEntries_close h.not_mem.1 h.not_mem.2,
            h.entriesOn]
          simp
  | @more line vs ls rows h rest ih =>
      cases window with
      | zero => rfl
      | succ w =>
          rw [List.cons_append, List.take_succ_cons, bodyEntries_cons h.not_mem.1 h.not_mem.2,
            h.entriesOn, ih]
          simp

theorem BodyRows.head?_ne {line : List Char} (h : BodyRows (line :: ls) rows) :
    line.head? ≠ some '{' := by
  cases h with
  | @last row _ h tail =>
      cases row with
      | nil => simp
      | cons c row =>
          intro hHead
          exact h.not_mem.1 (List.mem_of_mem_head? hHead)
  | more h rest => exact fun hHead => h.not_mem.1 (List.mem_of_mem_head? hHead)

variable {header : List Char} {front : List EnumValue}

/-- The entries of the header line and of the lines in the window are read. -/
theorem Layout.enumEntries (h : Layout header ls front rows) (window : Nat)
    (rest : List (List Char)) :
    Source.enumEntries window header (ls ++ rest) = front ++ (rows.take window).flatten := by
  cases h with
  | @inline title line vs hTitle h tail =>
      have hBefore := before_append h.not_mem.2 tail
      rw [Source.enumEntries, cutAt?_append hTitle]
      simp [hBefore, h.entriesOn]
  | @opened title line vs ls rows hTitle h rest' =>
      have hInside : line.contains '}' = false := by simpa using h.not_mem.2
      rw [Source.enumEntries, cutAt?_append hTitle]
      simp only [hInside, Bool.false_eq_true, if_false]
      rw [before_eq_self h.not_mem.2, h.entriesOn, rest'.bodyEntries_take]
  | @below header line ls rows hHeader rest' =>
      rw [Source.enumEntries, cutAt?_eq_none hHeader]
      show bodyEntries _ = _
      rw [← rest'.bodyEntries_take window rest]
      cases window with
      | zero => rfl
      | succ w =>
          rw [List.cons_append, List.cons_append, List.take_succ_cons, List.take_succ_cons,
            bodyEntries_open rest'.head?_ne, List.nil_append]

/-- Rows without entries may be left out at the end. -/
theorem flatten_take_eq {n : Nat} (h : ∀ vs ∈ rows.drop n, vs = []) :
    (rows.take n).flatten = rows.flatten := by
  calc (rows.take n).flatten
      = (rows.take n).flatten ++ (rows.drop n).flatten := by
        rw [List.flatten_eq_nil_iff.mpr h, List.append_nil]
    _ = rows.flatten := by rw [← List.flatten_append, List.take_append_drop]

end Rows

/-- An enumeration is read independently of the layout of its body. Its entries are those on the header
line and on the lines of the window, in order: the first ones of all, and all of them if none stands below
the window. -/
theorem enumValues_layout {windows : Windows} {head : List (List Char)} {header : List Char}
    (hHead : EnumHead windows head header) {ls : List (List Char)} {front : List EnumValue}
    {rows : List (List EnumValue)} (hLayout : Layout header ls front rows)
    {above rest : List (List Char)} {text : List Char}
    (hText : (lines text).map trim = above ++ head ++ (ls ++ rest)) (origin : Origin) :
    ∃ d ∈ declarationsOf (reflected windows origin text),
      d.kind = .enumType ∧ d.line = above.length + head.length ∧
        d.values = front ++ (rows.take windows.enumBody).flatten ∧
          d.values <+: front ++ rows.flatten ∧
            ((∀ vs ∈ rows.drop windows.enumBody, vs = []) → d.values = front ++ rows.flatten) := by
  obtain ⟨d, hKind, hLine, hRead⟩ := hHead.exists_declaration origin above
  refine ⟨_, hRead text _ hText, hKind, hLine, hLayout.enumEntries _ rest, ?_, fun hNone => ?_⟩
  · rw [hLayout.enumEntries]
    refine (List.prefix_append_right_inj front).mpr ?_
    exact List.IsPrefix.flatten (List.take_prefix _ rows)
  · rw [hLayout.enumEntries, flatten_take_eq hNone]

/-- An enumeration that opens its body on the header line, with two entries on the next. -/
def stepText : List Char :=
  ['\n'].intercalate (["UENUM()", "enum class EStep : uint8 \x7b Idle,", "\tWalk = 0x1F, Run = -2 \x7d;"].map
    String.toList)

theorem enumValues_layout_stepText :
    ∃ d ∈ declarationsOf (reflected {} ⟨"Step.h", none⟩ stepText), d.line = 2 ∧
      d.values = [⟨"Idle", none⟩, ⟨"Walk", some 31⟩, ⟨"Run", some (-2)⟩] := by
  let title := "enum class EStep : uint8 ".toList
  let header := "enum class EStep : uint8 \x7b Idle,".toList
  have hHead : EnumHead {} ("UENUM()".toList :: [] ++ [header]) header := by
    refine .below ?_ ?_ ?_ ?_ ?_ ?_ <;> decide
  have hIdle : Lists " Idle,".toList [⟨"Idle", none⟩] := by
    refine ⟨[{ lead := [' '], name := "Idle".toList }], true, ?_, by decide⟩
    exact .cons (.bare (by decide) (by decide) (by decide)) .nil
  have hHex : IntegerText "0x1F".toList 31 :=
    .hexadecimal false (.inl rfl) (show ['1', 'F'] ≠ [] by decide) (by decide)
  have hShort : 2 < Nat.pow 10 maxDecimalDigits := by decide +kernel
  have hMinus : IntegerText "-2".toList (-2) := .decimal true hShort
  have hRest : Lists "Walk = 0x1F, Run = -2 ".toList [⟨"Walk", some 31⟩, ⟨"Run", some (-2)⟩] := by
    refine ⟨[{ name := "Walk".toList,
               assigned := some { before := [' '], after := [' '], text := "0x1F".toList } },
      { lead := [' '], name := "Run".toList,
        assigned := some { before := [' '], after := [' '], text := "-2".toList }, trail := [' '] }],
      false, ?_, by decide⟩
    refine .cons (.valued ?_ hHex ?_ ?_ ?_ ?_) (.cons (.valued ?_ hMinus ?_ ?_ ?_ ?_) .nil) <;> decide
  have hLayout : Layout header ["Walk = 0x1F, Run = -2 \x7d;".toList] [⟨"Idle", none⟩]
      [[⟨"Walk", some 31⟩, ⟨"Run", some (-2)⟩]] :=
    .opened (show '{' ∉ title by decide) hIdle (.last hRest [';'])
  have hText : (lines stepText).map trim =
      [] ++ ("UENUM()".toList :: [] ++ [header]) ++ (["Walk = 0x1F, Run = -2 \x7d;".toList] ++ []) := by
    decide +kernel
  obtain ⟨d, hd, -, hLine, -, -, hAll⟩ := enumValues_layout hHead hLayout hText ⟨"Step.h", none⟩
  exact ⟨d, hd, hLine, hAll (by decide)⟩

end ProjectAtlas.Source
