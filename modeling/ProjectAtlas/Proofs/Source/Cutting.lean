import ProjectAtlas.Proofs.Text.Pieces
import ProjectAtlas.Proofs.Text.Word
import ProjectAtlas.Source.Nesting

/-!
Cutting a text at the commas at its top. What the pieces are is said without the way in which they are
found: joined they are the text, none of them has a comma at the top, and each but the last comes back to
the top. From this follows that pieces can be trimmed and joined, and are found again.
-/

namespace ProjectAtlas.Source

open ProjectAtlas.Text

section Characters

/-- A character that means nothing to the nesting. -/
def IsPlain (c : Char) : Prop :=
  c ≠ ',' ∧ c ≠ '(' ∧ c ≠ ')' ∧ isQuote c = false

instance (c : Char) : Decidable (IsPlain c) :=
  inferInstanceAs (Decidable (_ ∧ _))

/-- A class that holds none of the characters that mean something holds plain ones only. -/
theorem isPlain_of_holds {p : Char → Bool} (hNone : ∀ d ∈ [',', '(', ')', '"', '\''], p d = false)
    {c : Char} (h : p c = true) : IsPlain c := by
  have hOther {d : Char} (hd : d ∈ [',', '(', ')', '"', '\'']) : c ≠ d := by
    rintro rfl
    rw [hNone c hd] at h
    cases h
  have hQuote : isQuote c = false := by
    simp [isQuote, hOther (show '"' ∈ _ by simp), hOther (show '\'' ∈ _ by simp)]
  exact ⟨hOther (by simp), hOther (by simp), hOther (by simp), hQuote⟩

theorem isPlain_of_isWord {c : Char} (h : isWord c = true) : IsPlain c :=
  isPlain_of_holds (by decide) h

theorem isPlain_of_isBlank {c : Char} (h : isBlank c = true) : IsPlain c :=
  isPlain_of_holds (by decide) h

end Characters

namespace Nesting

variable {s : Nesting}

theorem eq_of_atTop (h : s.atTop = true) : s = {} := by
  obtain ⟨quote, depth⟩ := s
  simp only [atTop, Bool.and_eq_true, Option.isNone_iff_eq_none, beq_iff_eq] at h
  obtain ⟨rfl, rfl⟩ := h
  rfl

/-- The nesting behind a text that begins in the nesting `s`. -/
def after (s : Nesting) (cs : List Char) : Nesting :=
  cs.foldl step s

@[simp]
theorem after_nil (s : Nesting) : s.after [] = s := rfl

@[simp]
theorem after_cons (s : Nesting) (c : Char) (cs : List Char) :
    s.after (c :: cs) = (s.step c).after cs := rfl

theorem after_append (s : Nesting) (cs ds : List Char) :
    s.after (cs ++ ds) = (s.after cs).after ds :=
  List.foldl_append

/-- What is open is a quotation mark. -/
def WellFormed (s : Nesting) : Prop :=
  ∀ q ∈ s.quote, isQuote q = true

theorem wellFormed_start : WellFormed {} := by
  intro q hq
  cases hq

/-- A plain character leaves the nesting as it is. -/
theorem WellFormed.step_plain (h : s.WellFormed) {c : Char} (hPlain : IsPlain c) : s.step c = s := by
  obtain ⟨-, hOpen, hClose, hQuote⟩ := hPlain
  -- Between quotation marks only the open mark counts, and a plain character is no mark.
  cases hInside : s.quote with
  | none => simp [step, hInside, hQuote, hOpen, hClose]
  | some q =>
      have hOther : c ≠ q := by
        rintro rfl
        rw [h c hInside] at hQuote
        cases hQuote
      simp [step, hInside, hOther]

theorem WellFormed.after_blanks (h : s.WellFormed) {gap : List Char}
    (hGap : ∀ c ∈ gap, isBlank c = true) : s.after gap = s := by
  induction gap with
  | nil => rfl
  | cons c gap ih =>
      obtain ⟨hFirst, hRest⟩ := List.forall_mem_cons.mp hGap
      rw [after_cons, h.step_plain (isPlain_of_isBlank hFirst), ih hRest]

/-- A character opens a quotation mark, leaves the open one open or closes it. -/
theorem WellFormed.step (h : s.WellFormed) (c : Char) : (s.step c).WellFormed := by
  obtain ⟨quote, depth⟩ := s
  cases quote with
  | none =>
      by_cases hQuote : isQuote c = true
      · have hOpened : Nesting.step ⟨none, depth⟩ c = ⟨some c, depth⟩ := by
          simp [Nesting.step, hQuote]
        rw [hOpened]
        rintro q ⟨⟩
        exact hQuote
      · have hOutside : (Nesting.step ⟨none, depth⟩ c).quote = none := by
          simp only [Nesting.step, if_neg hQuote]
          split_ifs <;> rfl
        intro q hq
        rw [hOutside] at hq
        cases hq
  | some p =>
      by_cases hSame : c = p
      · have hClosed : Nesting.step ⟨some p, depth⟩ c = ⟨none, depth⟩ := by
          simp [Nesting.step, hSame]
        rw [hClosed]
        rintro q ⟨⟩
      · have hInside : Nesting.step ⟨some p, depth⟩ c = ⟨some p, depth⟩ := by
          simp [Nesting.step, hSame]
        rw [hInside]
        exact h

theorem WellFormed.after (h : s.WellFormed) (cs : List Char) : (s.after cs).WellFormed := by
  induction cs generalizing s with
  | nil => exact h
  | cons c cs ih => exact ih (h.step c)

/-- Blanks at the ends of a text make no difference to the nesting behind it. -/
theorem WellFormed.after_trim (h : s.WellFormed) (cs : List Char) :
    s.after (trim cs) = s.after cs := by
  obtain ⟨front, back, hFront, hBack, hShape⟩ := exists_blanks_around_trim cs
  calc
    s.after (trim cs) = ((s.after front).after (trim cs)).after back := by
      rw [h.after_blanks hFront, (h.after (trim cs)).after_blanks hBack]
    _ = s.after (front ++ trim cs ++ back) := by rw [after_append, after_append]
    _ = s.after cs := by rw [hShape]

end Nesting

section Uncut

variable {s : Nesting}

/-- Read from the nesting `s` on, the text has no comma at the top. -/
def Uncut (s : Nesting) (cs : List Char) : Prop :=
  ∀ front back, cs = front ++ ',' :: back → (s.after front).atTop = false

theorem uncut_of_not_mem {cs : List Char} (h : ',' ∉ cs) (s : Nesting) : Uncut s cs := by
  rintro front back rfl
  exact absurd (by simp) h

theorem uncut_cons_iff {c : Char} {cs : List Char} :
    Uncut s (c :: cs) ↔ ¬(c = ',' ∧ s.atTop = true) ∧ Uncut (s.step c) cs := by
  constructor
  · intro h
    constructor
    · rintro ⟨rfl, hTop⟩
      have hInside := h [] cs rfl
      rw [Nesting.after_nil, hTop] at hInside
      cases hInside
    · intro front back hShape
      exact h (c :: front) back (by rw [hShape, List.cons_append])
  · rintro ⟨hFirst, hRest⟩ front back hShape
    cases front with
    | nil =>
        obtain ⟨rfl, -⟩ := List.cons.inj hShape
        rw [Nesting.after_nil, Bool.eq_false_iff]
        exact fun hTop => hFirst ⟨rfl, hTop⟩
    | cons d front =>
        obtain ⟨rfl, rfl⟩ := List.cons.inj hShape
        exact hRest front back rfl

theorem uncut_append_iff {cs ds : List Char} :
    Uncut s (cs ++ ds) ↔ Uncut s cs ∧ Uncut (s.after cs) ds := by
  induction cs generalizing s with
  | nil =>
      have hNone : Uncut s [] := uncut_of_not_mem List.not_mem_nil s
      simp [hNone]
  | cons c cs ih =>
      rw [List.cons_append, uncut_cons_iff, uncut_cons_iff, ih, and_assoc, Nesting.after_cons]

theorem Uncut.trim {cs : List Char} (h : Uncut s cs) (hQuote : s.WellFormed) :
    Uncut s (trim cs) := by
  obtain ⟨front, back, hFront, -, hShape⟩ := exists_blanks_around_trim cs
  rw [← hShape, uncut_append_iff, uncut_append_iff, hQuote.after_blanks hFront] at h
  exact h.1.2

end Uncut

section Pieces

variable {s : Nesting}

theorem rawPieces_comma (hTop : s.atTop = true) (cs : List Char) :
    rawPieces s (',' :: cs) = [] :: rawPieces {} cs := by
  rw [Nesting.eq_of_atTop hTop]
  rfl

theorem rawPieces_other {c : Char} (h : ¬(c = ',' ∧ s.atTop = true)) (cs : List Char) :
    rawPieces s (c :: cs) = consFirst c (rawPieces (s.step c) cs) := by
  rw [rawPieces, if_neg]
  simpa using h

/-- The pieces of a text that begins in the nesting `s`: none has a comma at the top, and each but the last
comes back to the top, where the comma behind it stands. -/
inductive CutAtTop : Nesting → List (List Char) → Prop where
  | last {s : Nesting} {p : List Char} (uncut : Uncut s p) : CutAtTop s [p]
  | comma {s : Nesting} {p : List Char} {ps : List (List Char)} (uncut : Uncut s p)
      (top : (s.after p).atTop = true) (rest : CutAtTop {} ps) : CutAtTop s (p :: ps)

theorem CutAtTop.ne_nil {ps : List (List Char)} (h : CutAtTop s ps) : ps ≠ [] := by
  cases h <;> exact List.cons_ne_nil _ _

/-- A character in front of the first piece, unless it is a comma at the top. -/
theorem CutAtTop.consFirst {c : Char} {ps : List (List Char)} (h : CutAtTop (s.step c) ps)
    (hFirst : ¬(c = ',' ∧ s.atTop = true)) : CutAtTop s (consFirst c ps) := by
  cases h with
  | last uncut => exact .last (uncut_cons_iff.mpr ⟨hFirst, uncut⟩)
  | comma uncut top rest => exact .comma (uncut_cons_iff.mpr ⟨hFirst, uncut⟩) top rest

theorem CutAtTop.uncut_of_mem {p : List Char} {ps : List (List Char)} (h : CutAtTop {} ps)
    (hp : p ∈ ps) : Uncut {} p := by
  induction ps with
  | nil => cases hp
  | cons q ps ih =>
      cases h with
      | last uncut =>
          rw [List.mem_singleton.mp hp]
          exact uncut
      | comma uncut top rest =>
          rcases List.mem_cons.mp hp with rfl | hp
          · exact uncut
          · exact ih rest hp

theorem cutAtTop_rawPieces (s : Nesting) (cs : List Char) : CutAtTop s (rawPieces s cs) := by
  -- The first piece begins in `s`, wherever that is; every later one begins at the top.
  induction cs generalizing s with
  | nil => exact .last (uncut_of_not_mem List.not_mem_nil s)
  | cons c cs ih =>
      by_cases hComma : c = ',' ∧ s.atTop = true
      · obtain ⟨rfl, hTop⟩ := hComma
        rw [rawPieces_comma hTop]
        exact .comma (uncut_of_not_mem List.not_mem_nil s) hTop (ih {})
      · rw [rawPieces_other hComma]
        exact (ih (s.step c)).consFirst hComma

/-- The pieces with commas between them are the text. -/
theorem intercalate_rawPieces (s : Nesting) (cs : List Char) :
    [','].intercalate (rawPieces s cs) = cs := by
  induction cs generalizing s with
  | nil => rfl
  | cons c cs ih =>
      by_cases hComma : c = ',' ∧ s.atTop = true
      · obtain ⟨rfl, hTop⟩ := hComma
        rw [rawPieces_comma hTop, List.intercalate_cons_of_ne_nil (cutAtTop_rawPieces {} cs).ne_nil, ih]
        rfl
      · rw [rawPieces_other hComma, intercalate_consFirst _ _ (cutAtTop_rawPieces _ cs).ne_nil, ih]

/-- A text without a comma at the top lengthens the first piece of what follows it. -/
theorem Uncut.rawPieces_append {p : List Char} (h : Uncut s p) {t q : List Char}
    {qs : List (List Char)} (hNext : rawPieces (s.after p) t = q :: qs) :
    rawPieces s (p ++ t) = (p ++ q) :: qs := by
  induction p generalizing s with
  | nil => exact hNext
  | cons c p ih =>
      obtain ⟨hFirst, hRest⟩ := uncut_cons_iff.mp h
      rw [List.cons_append, rawPieces_other hFirst, ih hRest hNext]
      rfl

theorem Uncut.rawPieces {p : List Char} (h : Uncut s p) : rawPieces s p = [p] := by
  simpa using h.rawPieces_append (t := []) rfl

/-- Pieces that are joined are found again. -/
theorem CutAtTop.rawPieces_intercalate {ps : List (List Char)} (h : CutAtTop s ps) :
    rawPieces s ([','].intercalate ps) = ps := by
  induction h with
  | last uncut => rw [List.intercalate_singleton, uncut.rawPieces]
  | @comma s p ps uncut top rest ih =>
      have hComma := rawPieces_comma top ([','].intercalate ps)
      rw [ih] at hComma
      rw [List.intercalate_cons_of_ne_nil rest.ne_nil, List.append_assoc, List.singleton_append,
        uncut.rawPieces_append hComma, List.append_nil]

/-- A text is cut into pieces in exactly one way. -/
theorem rawPieces_eq_iff {cs : List Char} {ps : List (List Char)} :
    rawPieces s cs = ps ↔ CutAtTop s ps ∧ [','].intercalate ps = cs := by
  constructor
  · rintro rfl
    exact ⟨cutAtTop_rawPieces s cs, intercalate_rawPieces s cs⟩
  · rintro ⟨hCut, rfl⟩
    exact hCut.rawPieces_intercalate

/-- Trimmed pieces are pieces. -/
theorem CutAtTop.map_trim {ps : List (List Char)} (h : CutAtTop s ps) (hQuote : s.WellFormed) :
    CutAtTop s (ps.map trim) := by
  induction h with
  | last uncut => exact .last (uncut.trim hQuote)
  | comma uncut top rest ih =>
      rw [← hQuote.after_trim] at top
      exact .comma (uncut.trim hQuote) top (ih Nesting.wellFormed_start)

/-- A text without any comma is one piece. -/
theorem rawPieces_eq_singleton {text : List Char} (hComma : ',' ∉ text) (s : Nesting) :
    rawPieces s text = [text] :=
  (uncut_of_not_mem hComma s).rawPieces

/-- Either the first piece ends in the text, or the text is cut nowhere. -/
theorem rawPieces_cases (s : Nesting) (text : List Char) :
    (∃ p, ∀ t, ∃ qs, rawPieces s (text ++ t) = p :: qs) ∨
      ∃ s', ∀ t q qs, rawPieces s' t = q :: qs → rawPieces s (text ++ t) = (text ++ q) :: qs := by
  obtain ⟨hCut, hJoin⟩ := rawPieces_eq_iff.mp (show rawPieces s text = _ from rfl)
  cases hPieces : rawPieces s text with
  | nil => exact absurd hPieces hCut.ne_nil
  | cons p ps =>
      rw [hPieces] at hCut hJoin
      cases hCut with
      | last uncut =>
          obtain rfl : p = text := by simpa using hJoin
          exact .inr ⟨s.after p, fun t q qs hNext => uncut.rawPieces_append hNext⟩
      | comma uncut top rest =>
          rw [List.intercalate_cons_of_ne_nil rest.ne_nil] at hJoin
          refine .inl ⟨p, fun t => ⟨rawPieces {} ([','].intercalate ps ++ t), ?_⟩⟩
          have hNext := uncut.rawPieces_append (rawPieces_comma top ([','].intercalate ps ++ t))
          simpa [← hJoin] using hNext

theorem length_le_of_mem_rawPieces {cs p : List Char} (hp : p ∈ rawPieces s cs) :
    p.length ≤ cs.length := by
  rw [← intercalate_rawPieces s cs]
  exact length_le_intercalate hp

/-- Blanks at the end of a text belong to its last piece. -/
theorem exists_rawPieces_append_blanks {gap : List Char} (h : ∀ c ∈ gap, isBlank c = true)
    (s : Nesting) (cs : List Char) :
    ∃ ps p, rawPieces s cs = ps ++ [p] ∧ rawPieces s (cs ++ gap) = ps ++ [p ++ gap] := by
  induction cs generalizing s with
  | nil =>
      refine ⟨[], [], rfl, ?_⟩
      exact rawPieces_eq_singleton (fun hComma => absurd (h ',' hComma) (by decide)) s
  | cons c cs ih =>
      by_cases hComma : c = ',' ∧ s.atTop = true
      · obtain ⟨rfl, hTop⟩ := hComma
        obtain ⟨ps, p, hPieces, hMore⟩ := ih {}
        refine ⟨[] :: ps, p, ?_, ?_⟩
        · rw [rawPieces_comma hTop, hPieces, List.cons_append]
        · rw [List.cons_append, rawPieces_comma hTop, hMore, List.cons_append]
      · obtain ⟨ps, p, hPieces, hMore⟩ := ih (s.step c)
        rw [List.cons_append, rawPieces_other hComma, rawPieces_other hComma, hPieces, hMore]
        cases ps with
        | nil => exact ⟨[], c :: p, rfl, rfl⟩
        | cons q ps => exact ⟨(c :: q) :: ps, p, rfl, rfl⟩

end Pieces

section Split

/-- Blanks at the ends of a text are none of its pieces. -/
theorem splitTopLevel_trim (cs : List Char) : splitTopLevel (trim cs) = splitTopLevel cs := by
  obtain ⟨front, back, hFront, hBack, hShape⟩ := exists_blanks_around_trim cs
  obtain ⟨ps, p, hPieces, hMore⟩ := exists_rawPieces_append_blanks hBack {} (trim cs)
  obtain ⟨q, qs, hFirst⟩ :=
    List.exists_cons_of_ne_nil (cutAtTop_rawPieces {} (trim cs ++ back)).ne_nil
  have hWhole : rawPieces {} cs = (front ++ q) :: qs := by
    have hComma : ',' ∉ front := fun hMem => absurd (hFront ',' hMem) (by decide)
    have hNext : rawPieces (Nesting.after {} front) (trim cs ++ back) = q :: qs := by
      rw [Nesting.wellFormed_start.after_blanks hFront, hFirst]
    have hAll := (uncut_of_not_mem hComma {}).rawPieces_append hNext
    rwa [← List.append_assoc, hShape] at hAll
  have hSame : (rawPieces {} (trim cs)).map trim = (rawPieces {} cs).map trim := by
    calc
      _ = (rawPieces {} (trim cs ++ back)).map trim := by
        rw [hPieces, hMore, List.map_append, List.map_append, List.map_singleton,
          List.map_singleton, trim_append_blanks hBack]
      _ = (rawPieces {} cs).map trim := by
        rw [hFirst, hWhole, List.map_cons, List.map_cons, trim_blanks_append hFront]
  rw [splitTopLevel, splitTopLevel, hSame]

/-- A blank text has no pieces. -/
theorem splitTopLevel_of_blanks {cs : List Char} (h : ∀ c ∈ cs, isBlank c = true) :
    splitTopLevel cs = [] := by
  have hComma : ',' ∉ cs := fun hc => absurd (h ',' hc) (by decide)
  rw [splitTopLevel, rawPieces_eq_singleton hComma, List.map_singleton, trim_nil_of_blanks h]

/-- In every other text the pieces are trimmed. -/
theorem splitTopLevel_of_mem {cs : List Char} {c : Char} (hc : c ∈ cs) (hSome : isBlank c = false) :
    splitTopLevel cs = (rawPieces {} cs).map trim := by
  rw [splitTopLevel]
  split
  · rename_i hNone
    obtain ⟨p, hPieces, hTrim⟩ := List.map_eq_singleton_iff.mp hNone
    have hWhole := intercalate_rawPieces {} cs
    rw [hPieces, List.intercalate_singleton] at hWhole
    subst hWhole
    have hKept := mem_trim hc hSome
    rw [hTrim] at hKept
    cases hKept
  · rfl

theorem splitTopLevel_cases (cs : List Char) :
    (∀ c ∈ cs, isBlank c = true) ∧ splitTopLevel cs = [] ∨
      (∃ c ∈ cs, isBlank c = false) ∧ splitTopLevel cs = (rawPieces {} cs).map trim := by
  by_cases hBlank : ∀ c ∈ cs, isBlank c = true
  · exact .inl ⟨hBlank, splitTopLevel_of_blanks hBlank⟩
  · simp only [not_forall, Bool.not_eq_true] at hBlank
    obtain ⟨c, hc, hSome⟩ := hBlank
    exact .inr ⟨⟨c, hc, hSome⟩, splitTopLevel_of_mem hc hSome⟩

theorem splitTopLevel_eq_nil_iff {cs : List Char} :
    splitTopLevel cs = [] ↔ ∀ c ∈ cs, isBlank c = true := by
  constructor
  · intro hNone
    rcases splitTopLevel_cases cs with ⟨hBlank, -⟩ | ⟨-, hSplit⟩
    · exact hBlank
    · rw [hSplit, List.map_eq_nil_iff] at hNone
      exact absurd hNone (cutAtTop_rawPieces {} cs).ne_nil
  · exact splitTopLevel_of_blanks

theorem mem_splitTopLevel {cs p : List Char} (hp : p ∈ splitTopLevel cs) :
    IsTrimmed p ∧ Uncut {} p := by
  rcases splitTopLevel_cases cs with ⟨-, hSplit⟩ | ⟨-, hSplit⟩
  · rw [hSplit] at hp
    cases hp
  · rw [hSplit] at hp
    obtain ⟨r, hr, rfl⟩ := List.mem_map.mp hp
    exact ⟨isTrimmed_trim r, ((cutAtTop_rawPieces {} cs).uncut_of_mem hr).trim Nesting.wellFormed_start⟩

/-- A trimmed text without a comma at the top is one piece. -/
theorem splitTopLevel_eq_singleton {p : List Char} (hTrimmed : IsTrimmed p) (hUncut : Uncut {} p)
    (hSome : p ≠ []) : splitTopLevel p = [p] := by
  obtain ⟨c, cs, rfl⟩ := List.exists_cons_of_ne_nil hSome
  have hFirst : isBlank c = false := hTrimmed.first c rfl
  rw [splitTopLevel_of_mem List.mem_cons_self hFirst, hUncut.rawPieces, List.map_singleton,
    hTrimmed.trim]

/-- The pieces hold all characters of a text but blanks, and with commas between them no others. -/
theorem filter_intercalate_splitTopLevel (cs : List Char) :
    ([','].intercalate (splitTopLevel cs)).filter (!isBlank ·) = cs.filter (!isBlank ·) := by
  rcases splitTopLevel_cases cs with ⟨hBlank, hSplit⟩ | ⟨-, hSplit⟩
  · have hNone : cs.filter (!isBlank ·) = [] := by simpa [List.filter_eq_nil_iff] using hBlank
    rw [hSplit, hNone]
    rfl
  · calc
      _ = List.intercalate ([','].filter (!isBlank ·))
          (((rawPieces {} cs).map trim).map fun p => p.filter (!isBlank ·)) := by
        rw [hSplit, filter_intercalate]
      _ = List.intercalate ([','].filter (!isBlank ·))
          ((rawPieces {} cs).map fun p => p.filter (!isBlank ·)) := by
        rw [List.map_map]
        exact congrArg _ (List.map_congr_left fun p _ => filter_trim p)
      _ = cs.filter (!isBlank ·) := by rw [← filter_intercalate, intercalate_rawPieces]

/-- The pieces are found again in their join. -/
theorem splitTopLevel_intercalate_splitTopLevel (cs : List Char) :
    splitTopLevel ([','].intercalate (splitTopLevel cs)) = splitTopLevel cs := by
  have hKept := filter_intercalate_splitTopLevel cs
  rcases splitTopLevel_cases cs with ⟨-, hSplit⟩ | ⟨⟨c, hc, hSome⟩, hSplit⟩
  · rw [hSplit]
    rfl
  · have hMem : c ∈ [','].intercalate (splitTopLevel cs) := by
      have hBoth : c ∈ cs.filter (!isBlank ·) := List.mem_filter.mpr ⟨hc, by simp [hSome]⟩
      rw [← hKept] at hBoth
      exact (List.mem_filter.mp hBoth).1
    have hCut := (cutAtTop_rawPieces {} cs).map_trim Nesting.wellFormed_start
    have hTrimmed : ∀ p ∈ (rawPieces {} cs).map trim, IsTrimmed p :=
      List.forall_mem_map.mpr fun p _ => isTrimmed_trim p
    rw [splitTopLevel_of_mem hMem hSome, hSplit, hCut.rawPieces_intercalate,
      map_trim_of_isTrimmed hTrimmed]

/-- A text that is not blank is cut at the commas at its top, and the pieces are trimmed: nothing is lost or
invented but blanks at their ends. With commas between them the pieces hold the other characters of the text
in their order; a piece cannot be cut further, and the pieces are found again in their join. -/
theorem splitTopLevel_stable (cs : List Char) :
    (splitTopLevel cs = [] ↔ ∀ c ∈ cs, isBlank c = true) ∧
      (splitTopLevel cs ≠ [] →
        ∃ ps, CutAtTop {} ps ∧ [','].intercalate ps = cs ∧ splitTopLevel cs = ps.map trim) ∧
      ([','].intercalate (splitTopLevel cs)).filter (!isBlank ·) = cs.filter (!isBlank ·) ∧
      (∀ p ∈ splitTopLevel cs, IsTrimmed p ∧ (p ≠ [] → splitTopLevel p = [p])) ∧
      splitTopLevel ([','].intercalate (splitTopLevel cs)) = splitTopLevel cs := by
  refine ⟨splitTopLevel_eq_nil_iff, ?_, filter_intercalate_splitTopLevel cs, ?_,
    splitTopLevel_intercalate_splitTopLevel cs⟩
  · intro hSome
    rcases splitTopLevel_cases cs with ⟨-, hSplit⟩ | ⟨-, hSplit⟩
    · exact absurd hSplit hSome
    · exact ⟨rawPieces {} cs, cutAtTop_rawPieces {} cs, intercalate_rawPieces {} cs, hSplit⟩
  · intro p hp
    obtain ⟨hTrimmed, hUncut⟩ := mem_splitTopLevel hp
    exact ⟨hTrimmed, splitTopLevel_eq_singleton hTrimmed hUncut⟩

/-- A parenthesis that closes nothing does not hold back the comma behind it, and behind a quotation mark that
is not closed nothing is cut. -/
theorem splitTopLevel_stable_unclosed :
    splitTopLevel "A ), meta=(B, C) ,\"x, y".toList =
        ["A )".toList, "meta=(B, C)".toList, "\"x, y".toList] ∧
      splitTopLevel "\"x, y".toList = ["\"x, y".toList] ∧
      splitTopLevel "A ),meta=(B, C),\"x, y".toList =
        ["A )".toList, "meta=(B, C)".toList, "\"x, y".toList] := by
  have hSplit : splitTopLevel "A ), meta=(B, C) ,\"x, y".toList =
      ["A )".toList, "meta=(B, C)".toList, "\"x, y".toList] := by
    decide
  obtain ⟨-, -, -, hPieces, hJoin⟩ := splitTopLevel_stable "A ), meta=(B, C) ,\"x, y".toList
  rw [hSplit] at hPieces hJoin
  exact ⟨hSplit, (hPieces "\"x, y".toList (by simp)).2 (by simp), hJoin⟩

end Split

end ProjectAtlas.Source
