import ProjectAtlas.Proofs.Source.Annotation

/-!
Lines of annotated entries. Each entry is read as if it had no annotations, provided that they leave only
blanks and that none of them holds the beginning of a comment.
-/

namespace ProjectAtlas.Source

open ProjectAtlas.Text

/-- An annotation, with the blanks in front of it. -/
structure Note where
  gap : List Char := []
  text : List Char

/-- The value of an entry as it is written, with the blanks around the equals sign and the annotations
that follow. -/
structure Assigned where
  before : List Char := []
  after : List Char := []
  text : List Char
  notes : List Note := []

/-- An entry as it is written, with the annotations behind its name and the blanks at both ends. -/
structure WrittenEntry where
  lead : List Char := []
  name : List Char
  notes : List Note := []
  assigned : Option Assigned := none
  trail : List Char := []

/-- The segments of an annotation and the blanks in front of it. -/
def Note.segments (n : Note) : List Segment :=
  [.plain n.gap, .note n.text]

/-- The segments of a value. -/
def Assigned.segments (a : Assigned) : List Segment :=
  .plain (a.before ++ '=' :: a.after ++ a.text) :: a.notes.flatMap Note.segments

namespace WrittenEntry

/-- The segments of an entry. -/
def segments (e : WrittenEntry) : List Segment :=
  .plain (e.lead ++ e.name) :: e.notes.flatMap Note.segments ++
    e.assigned.elim [] Assigned.segments ++ [.plain e.trail]

/-- The text of an entry. -/
def text (e : WrittenEntry) : List Char :=
  e.segments.flatMap Segment.text

/-- The texts of the annotations of an entry. -/
def noteTexts (e : WrittenEntry) : List (List Char) :=
  (e.notes ++ e.assigned.elim [] (·.notes)).map (·.text)

/-- The entry without its annotations. -/
def bare (e : WrittenEntry) : WrittenEntry :=
  { e with notes := [], assigned := e.assigned.map fun a => { a with notes := [] } }

/-- The entry that is read if annotations do not count. -/
def read (e : WrittenEntry) : EnumValue :=
  ⟨String.ofList e.name, e.assigned.bind fun a => readLiteral? a.text⟩

end WrittenEntry

/-- A value that may be written: not empty, without blanks at the ends, and without the characters that
end an entry or a line or begin something else. -/
structure Assigned.WellFormed (a : Assigned) : Prop where
  before : ∀ c ∈ a.before, isBlank c = true
  after : ∀ c ∈ a.after, isBlank c = true
  ne_nil : a.text ≠ []
  trimmed : IsTrimmed a.text
  plain : ∀ c ∈ a.text, IsPlain c ∧ c ≠ '/' ∧ c ≠ '\n'
  notes : ∀ n ∈ a.notes, ∀ c ∈ n.gap, isBlank c = true

/-- An entry that may be written: a name, and a value or none. -/
structure WrittenEntry.WellFormed (e : WrittenEntry) : Prop where
  lead : ∀ c ∈ e.lead, isBlank c = true
  name : IsName e.name
  notes : ∀ n ∈ e.notes, ∀ c ∈ n.gap, isBlank c = true
  assigned : ∀ a ∈ e.assigned, a.WellFormed
  trail : ∀ c ∈ e.trail, isBlank c = true

instance (a : Assigned) : Decidable a.WellFormed :=
  decidable_of_iff
    ((∀ c ∈ a.before, isBlank c = true) ∧ (∀ c ∈ a.after, isBlank c = true) ∧ a.text ≠ [] ∧
      IsTrimmed a.text ∧ (∀ c ∈ a.text, IsPlain c ∧ c ≠ '/' ∧ c ≠ '\n') ∧
      ∀ n ∈ a.notes, ∀ c ∈ n.gap, isBlank c = true)
    ⟨fun ⟨before, after, ne_nil, trimmed, plain, notes⟩ => ⟨before, after, ne_nil, trimmed, plain, notes⟩,
      fun h => ⟨h.before, h.after, h.ne_nil, h.trimmed, h.plain, h.notes⟩⟩

instance (e : WrittenEntry) : Decidable e.WellFormed :=
  decidable_of_iff
    ((∀ c ∈ e.lead, isBlank c = true) ∧ IsName e.name ∧ (∀ n ∈ e.notes, ∀ c ∈ n.gap, isBlank c = true) ∧
      (∀ a ∈ e.assigned, a.WellFormed) ∧ ∀ c ∈ e.trail, isBlank c = true)
    ⟨fun ⟨lead, name, notes, assigned, trail⟩ => ⟨lead, name, notes, assigned, trail⟩,
      fun h => ⟨h.lead, h.name, h.notes, h.assigned, h.trail⟩⟩

/-- Entries on one line, with commas between them and behind the last one or not. -/
def entryLine (es : List WrittenEntry) (comma : Bool) : List Char :=
  [','].intercalate (es.map (·.text) ++ if comma then [[]] else [])

/-- A text that an annotation may hold: no comment begins in it, and it leaves nothing. -/
structure IsHarmless (m : List Char) : Prop where
  comment : ¬['/', '/'] <:+: m
  notes : ReadsAsNotes m

instance (m : List Char) : Decidable (IsHarmless m) :=
  decidable_of_iff (containsText ['/', '/'] m ≠ true ∧ ReadsAsNotes m)
    ⟨fun ⟨comment, notes⟩ => ⟨mt containsText_iff.mpr comment, notes⟩,
      fun h => ⟨mt containsText_iff.mp h.comment, h.notes⟩⟩

theorem quiet_of_isBlank {c : Char} (h : isBlank c = true) : IsPlain c ∧ c ≠ '/' := by
  refine ⟨isPlain_of_isBlank h, ?_⟩
  rintro rfl
  exact absurd h (by decide)

theorem ne_slash_of_isWord {c : Char} (h : isWord c = true) : c ≠ '/' := by
  rintro rfl
  exact absurd h (by decide)

theorem not_comment_append {front back : List Char} (hFront : '/' ∉ front)
    (hBack : ¬['/', '/'] <:+: back) : ¬['/', '/'] <:+: front ++ back := by
  induction front with
  | nil => exact hBack
  | cons c front ih =>
      rw [List.mem_cons, not_or] at hFront
      rw [List.cons_append, List.infix_cons_iff, not_or]
      refine ⟨fun hPrefix => hFront.1 ?_, ih hFront.2⟩
      exact (List.cons_prefix_cons.mp hPrefix).1

theorem not_comment_append_cons {front back : List Char} {c : Char} (hc : c ≠ '/')
    (hFront : ¬['/', '/'] <:+: front) (hBack : ¬['/', '/'] <:+: back) :
    ¬['/', '/'] <:+: front ++ c :: back := by
  induction front with
  | nil =>
      have hFirst : '/' ∉ [c] := by simpa using hc.symm
      have hBoth := not_comment_append hFirst hBack
      exact hBoth
  | cons d front ih =>
      rw [List.infix_cons_iff, not_or] at hFront
      rw [List.cons_append, List.infix_cons_iff, not_or]
      refine ⟨fun hPrefix => ?_, ih hFront.2⟩
      obtain ⟨hSlash, hNext⟩ := List.cons_prefix_cons.mp hPrefix
      cases front with
      | nil => exact hc (List.cons_prefix_cons.mp hNext).1.symm
      | cons e front =>
          have hSecond := (List.cons_prefix_cons.mp hNext).1
          exact hFront.1 (by rw [← hSlash, ← hSecond]; simp)

/-- A segment that means nothing to a line but for the annotation that it is. -/
def Segment.IsQuiet : Segment → Prop
  | .plain text => ∀ c ∈ text, IsPlain c ∧ c ≠ '/'
  | .note _ => True

theorem isQuiet_blanks {gap : List Char} (hGap : ∀ c ∈ gap, isBlank c = true) :
    (Segment.plain gap).IsQuiet :=
  fun c hc => quiet_of_isBlank (hGap c hc)

theorem isQuiet_of_mem_notes {notes : List Note}
    (hNotes : ∀ n ∈ notes, ∀ c ∈ n.gap, isBlank c = true) :
    ∀ s ∈ notes.flatMap Note.segments, s.IsQuiet := by
  intro s hs
  obtain ⟨n, hn, hs⟩ := List.mem_flatMap.mp hs
  simp only [Note.segments, List.mem_cons, List.not_mem_nil, or_false] at hs
  rcases hs with rfl | rfl
  · exact isQuiet_blanks (hNotes n hn)
  · trivial

theorem Assigned.WellFormed.isQuiet {a : Assigned} (h : a.WellFormed) :
    ∀ s ∈ a.segments, s.IsQuiet := by
  refine List.forall_mem_cons.mpr ⟨?_, isQuiet_of_mem_notes h.notes⟩
  intro c hc
  simp only [List.mem_append, List.mem_cons] at hc
  rcases hc with (hc | rfl | hc) | hc
  · exact quiet_of_isBlank (h.before c hc)
  · decide
  · exact quiet_of_isBlank (h.after c hc)
  · exact ⟨(h.plain c hc).1, (h.plain c hc).2.1⟩

theorem WrittenEntry.WellFormed.isQuiet {e : WrittenEntry} (h : e.WellFormed) :
    ∀ s ∈ e.segments, s.IsQuiet := by
  intro s hs
  simp only [WrittenEntry.segments, List.mem_append, List.mem_cons, List.not_mem_nil,
    or_false] at hs
  rcases hs with ((rfl | hs) | hs) | rfl
  · intro c hc
    rcases List.mem_append.mp hc with hc | hc
    · exact quiet_of_isBlank (h.lead c hc)
    · have hWord := h.name.isWord c hc
      exact ⟨isPlain_of_isWord hWord, ne_slash_of_isWord hWord⟩
  · exact isQuiet_of_mem_notes h.notes s hs
  · cases hSome : e.assigned with
    | none => simp [hSome] at hs
    | some a =>
        rw [hSome] at hs
        exact (h.assigned a hSome).isQuiet s hs
  · exact isQuiet_blanks h.trail

theorem note_mem_segments {notes : List Note} {m : List Char}
    (h : .note m ∈ notes.flatMap Note.segments) : m ∈ notes.map (·.text) := by
  obtain ⟨n, hn, hm⟩ := List.mem_flatMap.mp h
  simp only [Note.segments, List.mem_cons, reduceCtorEq, Segment.note.injEq, false_or,
    List.not_mem_nil, or_false] at hm
  exact List.mem_map.mpr ⟨n, hn, hm.symm⟩

/-- The annotations among the segments of an entry are its own. -/
theorem mem_noteTexts {e : WrittenEntry} {m : List Char} (h : .note m ∈ e.segments) :
    m ∈ e.noteTexts := by
  simp only [WrittenEntry.segments, List.mem_append, List.mem_cons, reduceCtorEq, false_or,
    List.not_mem_nil, or_false] at h
  rw [WrittenEntry.noteTexts, List.map_append, List.mem_append]
  rcases h with h | h
  · exact .inl (note_mem_segments h)
  · cases hSome : e.assigned with
    | none => simp [hSome] at h
    | some a =>
        simp only [hSome, Option.elim_some, Assigned.segments, List.mem_cons, reduceCtorEq,
          false_or] at h
        exact .inr (note_mem_segments h)

/-- The segments of a line of entries. -/
def lineSegments (es : List WrittenEntry) (comma : Bool) : List Segment :=
  [Segment.plain [',']].intercalate (es.map (·.segments) ++ if comma then [[]] else [])

theorem intercalate_flatMap {f : Segment → List Char} (hComma : f (.plain [',']) = [','])
    (parts : List (List Segment)) :
    [','].intercalate (parts.map (·.flatMap f)) =
      ([Segment.plain [',']].intercalate parts).flatMap f := by
  induction parts with
  | nil => rfl
  | cons p parts ih =>
      cases parts with
      | nil => simp
      | cons q parts =>
          rw [List.map_cons, List.map_cons, List.intercalate_cons_cons, ← List.map_cons, ih]
          simp [List.intercalate_cons_cons, hComma]

theorem forall_mem_intercalate {P : Segment → Prop} {sep : Segment} (hSep : P sep)
    {parts : List (List Segment)} (hParts : ∀ p ∈ parts, ∀ s ∈ p, P s) :
    ∀ s ∈ [sep].intercalate parts, P s := by
  induction parts with
  | nil => simp
  | cons p parts ih =>
      obtain ⟨hFirst, hRest⟩ := List.forall_mem_cons.mp hParts
      cases parts with
      | nil => simpa using hFirst
      | cons q parts =>
          intro s hs
          rw [List.intercalate_cons_cons, List.mem_append, List.mem_append] at hs
          rcases hs with (hs | hs) | hs
          · exact hFirst s hs
          · rw [List.mem_singleton.mp hs]
            exact hSep
          · exact ih hRest s hs

/-- No comment begins in segments that have no slashes but in annotations, and in those no comment. -/
theorem not_comment_segments {segments : List Segment}
    (hPlain : ∀ w, .plain w ∈ segments → '/' ∉ w)
    (hNotes : ∀ m, .note m ∈ segments → ¬['/', '/'] <:+: m) :
    ¬['/', '/'] <:+: segments.flatMap Segment.text := by
  induction segments with
  | nil => simp
  | cons s segments ih =>
      have hTail := ih (fun w hw => hPlain w (List.mem_cons_of_mem s hw))
        fun m hm => hNotes m (List.mem_cons_of_mem s hm)
      rw [List.flatMap_cons]
      cases s with
      | plain w => exact not_comment_append (hPlain w List.mem_cons_self) hTail
      | note m =>
          have hOwn := hNotes m List.mem_cons_self
          have hShape : noteText m ++ segments.flatMap Segment.text =
              (metaName ++ ['(']) ++ (m ++ ')' :: segments.flatMap Segment.text) := by
            simp [noteText]
          rw [Segment.text, hShape]
          exact not_comment_append (by decide) (not_comment_append_cons (by decide) hOwn hTail)

/-- What is left of a line of entries, blanks instead of their annotations included. -/
theorem dropMeta_entryLine {es : List WrittenEntry} (hEntries : ∀ e ∈ es, e.WellFormed)
    (hNotes : ∀ e ∈ es, ∀ m ∈ e.noteTexts, ¬['/', '/'] <:+: m) (comma : Bool) :
    dropMeta (before ['/', '/'] (entryLine es comma)) =
      [','].intercalate (es.map (·.segments.flatMap Segment.kept) ++ if comma then [[]] else []) := by
  let parts := es.map (·.segments) ++ if comma then [[]] else []
  have hParts (f : Segment → List Char) : parts.map (·.flatMap f) =
      es.map (·.segments.flatMap f) ++ if comma then [[]] else [] := by
    cases comma <;> simp [parts]
  have hLine : entryLine es comma = (lineSegments es comma).flatMap Segment.text := by
    rw [lineSegments, ← intercalate_flatMap rfl, hParts]
    rfl
  have hEach {P : Segment → Prop} (hComma : P (.plain [',']))
      (hEntry : ∀ e ∈ es, ∀ s ∈ e.segments, P s) : ∀ s ∈ lineSegments es comma, P s := by
    apply forall_mem_intercalate hComma
    intro p hp
    rcases List.mem_append.mp hp with hp | hp
    · obtain ⟨e, he, rfl⟩ := List.mem_map.mp hp
      exact hEntry e he
    · cases comma <;> simp_all
  have hPlain : ∀ w, .plain w ∈ lineSegments es comma → '(' ∉ w ∧ '/' ∉ w := by
    intro w hw
    refine hEach (P := fun s => ∀ w, s = .plain w → '(' ∉ w ∧ '/' ∉ w) ?_ ?_ _ hw w rfl
    · rintro w hComma
      cases hComma
      decide
    · rintro e he s hs w rfl
      have hQuiet := (hEntries e he).isQuiet _ hs
      exact ⟨fun hc => (hQuiet _ hc).1.2.1 rfl, fun hc => (hQuiet _ hc).2 rfl⟩
  have hComments : ∀ m, .note m ∈ lineSegments es comma → ¬['/', '/'] <:+: m := by
    intro m hm
    refine hEach (P := fun s => ∀ m, s = .note m → ¬['/', '/'] <:+: m) ?_ ?_ _ hm m rfl
    · rintro m hComma
      cases hComma
    · rintro e he s hs m rfl
      exact hNotes e he m (mem_noteTexts hs)
  have hDrop := dropMeta_segments (fun w hw => (hPlain w hw).1) (List.not_mem_nil : '(' ∉ [])
  rw [hLine, before_eq_self_of_not_infix
    (not_comment_segments (fun w hw => (hPlain w hw).2) hComments), ← hParts,
    intercalate_flatMap rfl]
  exact hDrop

/-- Annotations that read as such leave only blanks. -/
theorem isBlank_kept_notes {notes : List Note}
    (hGaps : ∀ n ∈ notes, ∀ c ∈ n.gap, isBlank c = true)
    (hNotes : ∀ m ∈ notes.map (·.text), ReadsAsNotes m) :
    ∀ c ∈ (notes.flatMap Note.segments).flatMap Segment.kept, isBlank c = true := by
  intro c hc
  obtain ⟨s, hs, hc⟩ := List.mem_flatMap.mp hc
  obtain ⟨n, hn, hs⟩ := List.mem_flatMap.mp hs
  simp only [Note.segments, List.mem_cons, List.not_mem_nil, or_false] at hs
  rcases hs with rfl | rfl
  · exact hGaps n hn c hc
  · exact (hNotes n.text (List.mem_map_of_mem hn)).residue c hc

namespace WrittenEntry

variable {e : WrittenEntry}

/-- What is left of an entry: its name, its value if it has one, and blanks. -/
theorem WellFormed.exists_kept (h : e.WellFormed) (hNotes : ∀ m ∈ e.noteTexts, ReadsAsNotes m) :
    ∃ core trail, e.segments.flatMap Segment.kept = e.lead ++ core ++ trail ∧
      (∀ c ∈ trail, isBlank c = true) ∧ core ≠ [] ∧ IsTrimmed core ∧ entryOf? core = some e.read := by
  let gap := (e.notes.flatMap Note.segments).flatMap Segment.kept
  have hGap : ∀ c ∈ gap, isBlank c = true :=
    isBlank_kept_notes h.notes fun m hm => hNotes m (by simp [noteTexts, List.mem_map.mp hm])
  have hHead : ∀ c ∈ e.name.head?, isBlank c = false := fun c hc =>
    h.name.not_blank c (List.mem_of_mem_head? hc)
  cases hSome : e.assigned with
  | none =>
      refine ⟨e.name, gap ++ e.trail, ?_, ?_, h.name.ne_nil, ⟨hHead, ?_⟩, ?_⟩
      · simp [segments, hSome, gap, Segment.kept]
      · intro c hc
        exact (List.mem_append.mp hc).elim (hGap c) (h.trail c)
      · exact fun c hc => h.name.not_blank c (List.mem_of_mem_getLast? hc)
      · rw [entryOf?_name h.name, read, hSome]
        rfl
  | some a =>
      have hWritten := h.assigned a hSome
      let behind := (a.notes.flatMap Note.segments).flatMap Segment.kept
      have hBehind : ∀ c ∈ behind, isBlank c = true := by
        apply isBlank_kept_notes hWritten.notes
        intro m hm
        exact hNotes m (by rw [noteTexts, hSome, List.map_append]; exact List.mem_append_right _ hm)
      refine ⟨e.name ++ (gap ++ a.before ++ '=' :: (a.after ++ a.text)), behind ++ e.trail, ?_, ?_, ?_,
        ?_, ?_⟩
      · simp [segments, hSome, gap, behind, Assigned.segments, Segment.kept]
      · intro c hc
        exact (List.mem_append.mp hc).elim (hBehind c) (h.trail c)
      · simp [h.name.ne_nil]
      · have hEnds := isTrimmed_append h.name.ne_nil hWritten.ne_nil hHead hWritten.trimmed.last
          (gap ++ a.before ++ '=' :: a.after)
        simpa using hEnds
      · have hBefore : ∀ c ∈ gap ++ a.before, isBlank c = true := by
          intro c hc
          exact (List.mem_append.mp hc).elim (hGap c) (hWritten.before c)
        rw [entryOf?_assigned h.name hBefore hWritten.after hWritten.ne_nil hWritten.trimmed
          fun hc => (hWritten.plain _ hc).2.2 rfl, read, hSome]
        rfl

theorem WellFormed.entryOf?_trim_kept (h : e.WellFormed)
    (hNotes : ∀ m ∈ e.noteTexts, ReadsAsNotes m) :
    entryOf? (trim (e.segments.flatMap Segment.kept)) = some e.read := by
  obtain ⟨core, trail, hKept, hTrail, hSome, hTrimmed, hRead⟩ := h.exists_kept hNotes
  rw [hKept, hTrimmed.trim_blanks hSome e.lead trail h.lead hTrail, hRead]

theorem WellFormed.staysInside_kept (h : e.WellFormed)
    (hNotes : ∀ m ∈ e.noteTexts, ReadsAsNotes m) :
    staysInside {} (e.segments.flatMap Segment.kept) = true := by
  apply staysInside_of_plain
  intro c hc
  obtain ⟨s, hs, hc⟩ := List.mem_flatMap.mp hc
  cases s with
  | plain w => exact (h.isQuiet _ hs c hc).1
  | note m => exact isPlain_of_isBlank ((hNotes m (mem_noteTexts hs)).residue c hc)

end WrittenEntry

theorem filterMap_splitTopLevel (cs : List Char) :
    (splitTopLevel cs).filterMap entryOf? = (rawPieces {} cs).filterMap fun p => entryOf? (trim p) := by
  have hPieces : (rawPieces {} cs).filterMap (fun p => entryOf? (trim p)) =
      ((rawPieces {} cs).map trim).filterMap entryOf? := by
    rw [List.filterMap_map]
    rfl
  rw [hPieces, splitTopLevel]
  split
  · rename_i hNone
    rw [hNone]
    rfl
  · rfl

/-- Entries with harmless annotations are read as if they had none. -/
theorem entriesOn_entryLine {es : List WrittenEntry} (hEntries : ∀ e ∈ es, e.WellFormed)
    (hNotes : ∀ e ∈ es, ∀ m ∈ e.noteTexts, IsHarmless m) (comma : Bool) :
    entriesOn (entryLine es comma) = es.map (·.read) := by
  let pieces := es.map (·.segments.flatMap Segment.kept) ++ if comma then [[]] else []
  have hInside : ∀ p ∈ pieces, staysInside {} p = true := by
    intro p hp
    rcases List.mem_append.mp hp with hp | hp
    · obtain ⟨e, he, rfl⟩ := List.mem_map.mp hp
      exact (hEntries e he).staysInside_kept fun m hm => (hNotes e he m hm).notes
    · cases comma with
      | false => cases hp
      | true =>
          rw [List.mem_singleton.mp hp]
          rfl
  have hRead : pieces.filterMap (fun p => entryOf? (trim p)) = es.map (·.read) := by
    have hLast : (if comma then [[]] else []).filterMap (fun p => entryOf? (trim p)) = [] := by
      cases comma <;> rfl
    rw [List.filterMap_append, hLast, List.append_nil, List.filterMap_map, ← List.filterMap_eq_map]
    exact List.filterMap_congr fun e he =>
      (hEntries e he).entryOf?_trim_kept fun m hm => (hNotes e he m hm).notes
  rw [entriesOn, dropMeta_entryLine hEntries (fun e he m hm => (hNotes e he m hm).comment),
    filterMap_splitTopLevel, ← hRead]
  by_cases hNone : pieces = []
  · show (rawPieces {} ([','].intercalate pieces)).filterMap _ = _
    rw [hNone]
    rfl
  · rw [rawPieces_intercalate hNone hInside]

theorem WrittenEntry.WellFormed.bare {e : WrittenEntry} (h : e.WellFormed) : e.bare.WellFormed where
  lead := h.lead
  name := h.name
  notes := by simp [WrittenEntry.bare]
  assigned := by
    intro a ha
    obtain ⟨b, hb, rfl⟩ := Option.map_eq_some_iff.mp ha
    have hWritten := h.assigned b hb
    exact ⟨hWritten.before, hWritten.after, hWritten.ne_nil, hWritten.trimmed, hWritten.plain, by simp⟩
  trail := h.trail

theorem noteTexts_bare (e : WrittenEntry) : e.bare.noteTexts = [] := by
  cases h : e.assigned <;> simp [WrittenEntry.bare, WrittenEntry.noteTexts, h]

theorem read_bare (e : WrittenEntry) : e.bare.read = e.read := by
  cases h : e.assigned <;> simp [WrittenEntry.bare, WrittenEntry.read, h]

/-- A line without annotations is read as it is written. -/
theorem entriesOn_bare {es : List WrittenEntry} (hEntries : ∀ e ∈ es, e.WellFormed) (comma : Bool) :
    entriesOn (entryLine (es.map (·.bare)) comma) = es.map (·.read) := by
  have hBare : ∀ e ∈ es.map (·.bare), e.WellFormed ∧ ∀ m ∈ e.noteTexts, IsHarmless m := by
    intro e he
    obtain ⟨f, hf, rfl⟩ := List.mem_map.mp he
    exact ⟨(hEntries f hf).bare, by simp [noteTexts_bare]⟩
  rw [entriesOn_entryLine (fun e he => (hBare e he).1) (fun e he => (hBare e he).2), List.map_map]
  exact List.map_congr_left fun e _ => read_bare e

end ProjectAtlas.Source
