import ProjectAtlas.Proofs.Source.AnnotatedLine

/-!
Which annotations are transparent. Lines whose annotations are harmless are read as without them; for every
other text of an annotation there is a line of few entries that is read otherwise with it.
-/

namespace ProjectAtlas.Source

open ProjectAtlas.Text

/-- A comment that begins in an annotation hides the entries behind it. -/
theorem exists_line_of_comment {m : List Char} (h : ['/', '/'] <:+: m) :
    ∃ es, (∀ e ∈ es, e.WellFormed ∧ ∀ t ∈ e.noteTexts, t = m) ∧
      entriesOn (entryLine es false) ≠ es.map WrittenEntry.read := by
  let first : WrittenEntry := { name := ['A'], notes := [⟨[' '], m⟩] }
  let second : WrittenEntry := { name := ['B'] }
  have hFirst : first.WellFormed := by
    constructor <;> simp [first, isBlank, IsName, isIdentStart]
  have hSecond : second.WellFormed := by
    constructor <;> simp [second, IsName, isIdentStart]
  let front := ['A', ' '] ++ metaName ++ '(' :: m
  have hOne : entryLine [first] false = front ++ [')'] := by
    simp [entryLine, List.intercalate, WrittenEntry.text, WrittenEntry.segments, Note.segments,
      Segment.text, noteText, first, front]
  have hTwo : entryLine [first, second] false = front ++ [')', ',', 'B'] := by
    simp [entryLine, List.intercalate, WrittenEntry.text, WrittenEntry.segments, Note.segments,
      Segment.text, noteText, first, second, front]
  have hInside : ['/', '/'] <:+: front :=
    h.trans ⟨['A', ' '] ++ metaName ++ ['('], [], by simp [front]⟩
  have hSame : entriesOn (entryLine [first, second] false) = entriesOn (entryLine [first] false) := by
    rw [entriesOn, entriesOn, hOne, hTwo, before_append_of_infix hInside,
      before_append_of_infix hInside]
  have hNotes : ∀ e ∈ [first, second], e.WellFormed ∧ ∀ t ∈ e.noteTexts, t = m := by
    intro e he
    simp only [List.mem_cons, List.not_mem_nil, or_false] at he
    rcases he with rfl | rfl
    · exact ⟨hFirst, by simp [WrittenEntry.noteTexts, first]⟩
    · exact ⟨hSecond, by simp [WrittenEntry.noteTexts, second]⟩
  by_cases hRead : entriesOn (entryLine [first] false) = [first].map WrittenEntry.read
  · refine ⟨[first, second], hNotes, ?_⟩
    rw [hSame, hRead]
    simp
  · exact ⟨[first], fun e he => hNotes e (by simp [List.mem_singleton.mp he]), hRead⟩

/-- A name that is longer than an annotation with this text. -/
def longName (m : List Char) : List Char :=
  List.replicate (m.length + 20) 'A'

/-- An entry with that name, an annotation, and a digit for its value. -/
def probe (m : List Char) (digit : Char) : WrittenEntry where
  name := longName m
  notes := [⟨[' '], m⟩]
  assigned := some { before := [' '], after := [' '], text := [digit] }

theorem isName_longName (m : List Char) : IsName (longName m) := by
  refine ⟨by decide, fun c hc => ?_⟩
  rw [List.eq_of_mem_replicate hc]
  decide

theorem wellFormed_probe (m : List Char) {digit : Char} (hDigit : digit.isDigit = true) :
    (probe m digit).WellFormed where
  lead := by simp [probe]
  name := isName_longName m
  notes := by simp [probe, isBlank]
  assigned := by
    intro a ha
    cases ha
    have hWord := isWord_of_isDigit hDigit
    have hBlank := isBlank_eq_false_of_isWord hWord
    have hLine : digit ≠ '\n' := by
      rintro rfl
      exact absurd hBlank (by decide)
    constructor
    case before | after => simp [isBlank]
    case ne_nil | notes => simp
    case trimmed => constructor <;> simp [hBlank]
    case plain => simpa [hLine] using ⟨isPlain_of_isWord hWord, ne_slash_of_isWord hWord⟩
  trail := by simp [probe]

theorem noteTexts_probe (m : List Char) (digit : Char) : (probe m digit).noteTexts = [m] := rfl

/-- The entries on the line of the entry with the long name. -/
theorem entriesOn_probe {m : List Char} (hComment : ¬['/', '/'] <:+: m) {digit : Char}
    (hDigit : digit.isDigit = true) :
    entriesOn (entryLine [probe m digit] false) =
      (rawPieces {} (longName m ++ ' ' :: (residue m ++ [' ', '=', ' ', digit]))).filterMap
        fun p => entryOf? (trim p) := by
  have hNotes : ∀ e ∈ [probe m digit], ∀ t ∈ e.noteTexts, ¬['/', '/'] <:+: t := by
    simpa [noteTexts_probe] using hComment
  have hEntries : ∀ e ∈ [probe m digit], e.WellFormed := by
    simpa using wellFormed_probe m hDigit
  have hKept : [','].intercalate ([probe m digit].map (·.segments.flatMap Segment.kept) ++
      if false then [[]] else []) = longName m ++ ' ' :: (residue m ++ [' ', '=', ' ', digit]) := by
    simp [List.intercalate, WrittenEntry.segments, Note.segments, Assigned.segments, Segment.kept, probe]
  rw [entriesOn, dropMeta_entryLine hEntries hNotes, filterMap_splitTopLevel, hKept]

/-- If the entry with the long name is read then its value is in the piece that its name begins. -/
theorem entryOf?_first_of_probe {m : List Char} (hComment : ¬['/', '/'] <:+: m) {digit : Char}
    (hDigit : digit.isDigit = true) {n : Int} {q : List Char} {qs : List (List Char)}
    (hPieces : rawPieces {} (residue m ++ [' ', '=', ' ', digit]) = q :: qs)
    (hRead : entriesOn (entryLine [probe m digit] false) = [⟨String.ofList (longName m), some n⟩]) :
    entryOf? (trim (longName m ++ ' ' :: q)) = some ⟨String.ofList (longName m), some n⟩ := by
  have hPlain : staysInside {} (longName m ++ [' ']) = true := by
    apply staysInside_of_plain
    intro c hc
    rcases List.mem_append.mp hc with hc | hc
    · exact isPlain_of_isWord ((isName_longName m).isWord c hc)
    · rw [List.mem_singleton.mp hc]
      decide
  have hAll := rawPieces_append hPlain hPieces
  rw [List.append_assoc, List.append_assoc, List.singleton_append, List.singleton_append] at hAll
  rw [entriesOn_probe hComment hDigit, hAll, List.filterMap_cons] at hRead
  split at hRead
  · -- The other pieces are too short for the name.
    have hMem : (⟨String.ofList (longName m), some n⟩ : EnumValue) ∈
        qs.filterMap fun p => entryOf? (trim p) := by
      rw [hRead]
      exact List.mem_singleton_self _
    obtain ⟨p, hp, hEntry⟩ := List.mem_filterMap.mp hMem
    have hName := Nat.le_trans (length_name_le hEntry) (length_trim_le p)
    have hPiece := length_le_of_mem_rawPieces (hPieces ▸ List.mem_cons_of_mem q hp)
    have hLeft : (residue m).length ≤ (noteText m).length := (dropMeta_sublist _).length_le
    simp [longName, noteText, metaName] at hName hPiece hLeft
    omega
  · rename_i v hFirst
    rw [hFirst, (List.cons.inj hRead).1]

/-- What an annotation leaves spoils the value that follows, or makes it another one than is written. -/
theorem exists_line_of_residue {m : List Char} (hComment : ¬['/', '/'] <:+: m)
    (h : ¬ReadsAsNotes m) :
    ∃ es, (∀ e ∈ es, e.WellFormed ∧ ∀ t ∈ e.noteTexts, t = m) ∧
      entriesOn (entryLine es false) ≠ es.map WrittenEntry.read := by
  have hProbe {digit : Char} (hDigit : digit.isDigit = true) : ∀ e ∈ [probe m digit],
      e.WellFormed ∧ ∀ t ∈ e.noteTexts, t = m := by
    simpa [noteTexts_probe] using wellFormed_probe m hDigit
  by_cases hOne : entriesOn (entryLine [probe m '1'] false) = [probe m '1'].map WrittenEntry.read
  · by_cases hTwo : entriesOn (entryLine [probe m '2'] false) = [probe m '2'].map WrittenEntry.read
    · exfalso
      have hReadOne : readLiteral? ['1'] = some 1 := by decide
      have hReadTwo : readLiteral? ['2'] = some 2 := by decide
      have hSome (digit : Char) : [probe m digit].map WrittenEntry.read =
          [⟨String.ofList (longName m), readLiteral? [digit]⟩] := rfl
      rw [hSome, hReadOne] at hOne
      rw [hSome, hReadTwo] at hTwo
      rcases rawPieces_cases {} (residue m) with ⟨p, hCut⟩ | ⟨s, hWhole⟩
      · -- The first piece ends before the digit, so it cannot tell the digits apart.
        obtain ⟨qs, hPieces⟩ := hCut [' ', '=', ' ', '1']
        obtain ⟨qs', hPieces'⟩ := hCut [' ', '=', ' ', '2']
        have hEntry := entryOf?_first_of_probe hComment (by decide) hPieces hOne
        rw [entryOf?_first_of_probe hComment (by decide) hPieces' hTwo] at hEntry
        simp at hEntry
      · -- The first piece is all that is left, so what the annotation left stands before the equals sign.
        have hComma : ',' ∉ [' ', '=', ' ', '1'] := by decide
        have hPieces := hWhole _ _ _ (rawPieces_eq_singleton hComma s)
        have hEntry := entryOf?_first_of_probe hComment (by decide) hPieces hOne
        have hName := isName_longName m
        have hDigit : ['1'] ≠ [] := by simp
        have hTrimmed := isTrimmed_append hName.ne_nil hDigit
          (fun c hc => hName.not_blank c (List.mem_of_mem_head? hc)) (by simp [isBlank])
          (' ' :: (residue m ++ [' ', '=', ' ']))
        have hShape : longName m ++ ' ' :: (residue m ++ [' ', '=', ' ', '1']) =
            longName m ++ ' ' :: (residue m ++ [' ', '=', ' ']) ++ ['1'] := by simp
        rw [hShape, hTrimmed.trim, ← hShape] at hEntry
        have hNone := value_of_entryOf? hName (mt readsAsNotes_of_residue h) (by simp) hEntry
        cases hNone
    · exact ⟨_, hProbe (by decide), hTwo⟩
  · exact ⟨_, hProbe (by decide), hOne⟩

/-- Annotations are transparent to the entries of a line exactly as far as their texts are harmless. With
harmless annotations, behind any names and values, every line gives the entries that it gives without
them, each with its name and value. For any other text `m` there is a line whose annotations all have it
and which gives other entries than without them. -/
theorem entriesOn_transparent {es : List WrittenEntry} (hEntries : ∀ e ∈ es, e.WellFormed)
    (comma : Bool) (m : List Char) :
    ((∀ e ∈ es, ∀ t ∈ e.noteTexts, IsHarmless t) →
      entriesOn (entryLine es comma) = entriesOn (entryLine (es.map (·.bare)) comma) ∧
        entriesOn (entryLine es comma) = es.map (·.read)) ∧
    (¬IsHarmless m → ∃ line, (∀ e ∈ line, e.WellFormed ∧ ∀ t ∈ e.noteTexts, t = m) ∧
      entriesOn (entryLine line false) ≠ entriesOn (entryLine (line.map (·.bare)) false)) := by
  constructor
  · intro hNotes
    have hRead := entriesOn_entryLine hEntries hNotes comma
    exact ⟨hRead.trans (entriesOn_bare hEntries comma).symm, hRead⟩
  · intro hHarm
    obtain ⟨line, hLine, hOther⟩ :
        ∃ line, (∀ e ∈ line, e.WellFormed ∧ ∀ t ∈ e.noteTexts, t = m) ∧
          entriesOn (entryLine line false) ≠ line.map WrittenEntry.read := by
      by_cases hComment : ['/', '/'] <:+: m
      · exact exists_line_of_comment hComment
      · exact exists_line_of_residue hComment fun hNotes => hHarm ⟨hComment, hNotes⟩
    refine ⟨line, hLine, ?_⟩
    rw [entriesOn_bare (fun e he => (hLine e he).1)]
    exact hOther

/-- Two entries, the first with an annotation that holds a comma between quotation marks. -/
def quotedEntries : List WrittenEntry :=
  [{ name := "Sword".toList, notes := [⟨[' '], "DisplayName = \"Sword, Long\"".toList⟩] },
    { lead := [' '], name := "Bow".toList,
      assigned := some { before := [' '], after := [' '], text := "0x10".toList } }]

/-- The annotation of these entries is harmless, so that they are read with their names and values. With
parentheses between the quotation marks it is not, and some line is read otherwise with it. -/
theorem entriesOn_quotedEntries :
    let nested := "DisplayName = \"x (y)\"".toList
    entryLine quotedEntries false =
        "Sword UMETA(DisplayName = \"Sword, Long\"), Bow = 0x10".toList ∧
      (∀ e ∈ quotedEntries, e.WellFormed ∧ ∀ m ∈ e.noteTexts, IsHarmless m) ∧
      entriesOn (entryLine quotedEntries false) = [⟨"Sword", none⟩, ⟨"Bow", some 16⟩] ∧
      ¬IsHarmless nested ∧
      ∃ es, (∀ e ∈ es, e.WellFormed ∧ ∀ m ∈ e.noteTexts, m = nested) ∧
        entriesOn (entryLine es false) ≠ entriesOn (entryLine (es.map (·.bare)) false) := by
  intro nested
  have hEntries : ∀ e ∈ quotedEntries, e.WellFormed ∧ ∀ m ∈ e.noteTexts, IsHarmless m := by
    decide +kernel
  have hNested : ¬IsHarmless nested := by
    decide +kernel
  obtain ⟨hHarmless, hHarmful⟩ :=
    entriesOn_transparent (fun e he => (hEntries e he).1) false nested
  have hRead := (hHarmless fun e he => (hEntries e he).2).2
  have hValues : quotedEntries.map (·.read) = [⟨"Sword", none⟩, ⟨"Bow", some 16⟩] := by
    decide
  exact ⟨by decide, hEntries, hRead.trans hValues, hNested, hHarmful hNested⟩

/-- Nested parentheses between quotation marks, and a text that looks like a comment there, make the
entry and all later ones vanish. -/
theorem entriesOn_nested :
    entriesOn "A UMETA(DisplayName = \"x (y)\"), B".toList = [] ∧
      entriesOn "A UMETA(DisplayName = \"http://x\"), B".toList = [] ∧
      entriesOn "A , B".toList = [⟨"A", none⟩, ⟨"B", none⟩] := by
  refine ⟨?_, ?_, ?_⟩ <;> decide +kernel

end ProjectAtlas.Source
