import ProjectAtlas.Proofs.Source.Balanced
import ProjectAtlas.Proofs.Source.Context
import ProjectAtlas.Proofs.Source.EnumBody
import ProjectAtlas.Proofs.Source.RawLines
import ProjectAtlas.Proofs.Text.LineEnds

/-!
Blanks around lines, and the characters that end them. Neither changes what a text declares: two texts whose
lines agree once they are trimmed give the same entities on the same lines.

An empty line at the end of a text is the one case where the number of lines may change, since it gets to be a
line as soon as blanks stand on it. It makes no difference either.
-/

namespace ProjectAtlas.Source

open ProjectAtlas.Text

section EmptyLine

variable (windows : Windows) (origin : Origin)

/-- The place with one more line below it, which is empty. -/
def Candidate.withEmpty (c : Candidate) : Candidate :=
  { c with below := c.below ++ [[]] }

theorem candidatesBelow_concat_nil (window number : Nat) (ls : List (List Char)) :
    ∃ extra, (∀ c ∈ extra, c.text = []) ∧ candidatesBelow window number (ls ++ [[]]) =
      (candidatesBelow window number ls).map Candidate.withEmpty ++ extra := by
  induction ls generalizing window number with
  | nil =>
      cases window with
      | zero => exact ⟨[], by simp, rfl⟩
      | succ w =>
          refine ⟨[⟨number, [], [], w⟩], by simp, ?_⟩
          cases w <;> rfl
  | cons line ls ih =>
      cases window with
      | zero => exact ⟨[], by simp, rfl⟩
      | succ w =>
          obtain ⟨extra, hExtra, hRest⟩ := ih w (number + 1)
          rw [List.cons_append, candidatesBelow, candidatesBelow, hRest]
          cases isMarker line with
          | true => exact ⟨[], by simp, rfl⟩
          | false => cases isComment line <;> exact ⟨extra, hExtra, rfl⟩

/-- What is found first among the places for a header does not change with an empty line at the end, if it
does not depend on that line and the line itself is nothing to be found. -/
theorem findSome?_candidates_concat_nil {α : Type} {f : Candidate → Option α}
    (hSame : ∀ c, f c.withEmpty = f c) (hEmpty : ∀ c, c.text = [] → f c = none)
    (window number : Nat) (marker : List Char) (ls : List (List Char)) :
    (candidates window number marker (ls ++ [[]])).findSome? f =
      (candidates window number marker ls).findSome? f := by
  obtain ⟨extra, hExtra, hBelow⟩ := candidatesBelow_concat_nil window (number + 1) ls
  have hInWindow : (candidatesBelow window (number + 1) (ls ++ [[]])).findSome? f =
      (candidatesBelow window (number + 1) ls).findSome? f := by
    have hNone : extra.findSome? f = none :=
      List.findSome?_eq_none_iff.mpr fun c hc => hEmpty c (hExtra c hc)
    have hKept : f ∘ Candidate.withEmpty = f := funext hSame
    rw [hBelow, List.findSome?_append, hNone, Option.or_none, List.findSome?_map, hKept]
  simp only [candidates]
  split
  · exact hInWindow
  · have hMarker := hSame ⟨number, (extractSpecifiers marker).2, ls, window⟩
    rw [Candidate.withEmpty] at hMarker
    rw [List.findSome?_cons, List.findSome?_cons, hMarker, hInWindow]

/-- A window either reaches to the last line or does not. -/
theorem take_concat (window : Nat) (ls : List (List Char)) (l : List Char) :
    (ls ++ [l]).take window = ls.take window ∨ (ls ++ [l]).take window = ls.take window ++ [l] := by
  rw [List.take_append]
  cases window - ls.length with
  | zero => exact .inl (List.append_nil _)
  | succ w => exact .inr (by rw [List.take_succ_cons, List.take_nil])

theorem bodyEntries_concat_nil (ls : List (List Char)) :
    bodyEntries (ls ++ [[]]) = bodyEntries ls := by
  induction ls with
  | nil => rfl
  | cons line ls ih =>
      rw [List.cons_append, bodyEntries_cons_eq, ih, ← bodyEntries_cons_eq]

theorem enumEntries_concat_nil (window : Nat) (header : List Char) (ls : List (List Char)) :
    enumEntries window header (ls ++ [[]]) = enumEntries window header ls := by
  have hBody : bodyEntries ((ls ++ [[]]).take window) = bodyEntries (ls.take window) := by
    rcases take_concat window ls [] with hTake | hTake
    · rw [hTake]
    · rw [hTake, bodyEntries_concat_nil]
  simp only [enumEntries, hBody]

/-- An empty line adds a blank to an open header, or nothing. -/
theorem joinWrapped_concat_nil (cs : List Char) (ls : List (List Char)) :
    joinWrapped cs (ls ++ [[]]) = joinWrapped cs ls ∨
      joinWrapped cs (ls ++ [[]]) = joinWrapped cs ls ++ [' '] := by
  induction ls generalizing cs with
  | nil =>
      rw [List.nil_append, joinWrapped, joinWrapped]
      cases isOpen cs with
      | true => exact .inr rfl
      | false => exact .inl rfl
  | cons line ls ih =>
      rw [List.cons_append, joinWrapped, joinWrapped]
      split
      · exact ih (cs ++ ' ' :: line)
      · exact .inl rfl

/-- A blank at the end of a line neither makes a header nor takes one away. -/
theorem signatureOf?_append_blank (line : List Char) :
    signatureOf? (line ++ [' ']) = signatureOf? line := by
  cases hLine : signatureOf? line with
  | some s => exact signatureOf?_append hLine [' ']
  | none =>
      cases hMore : signatureOf? (line ++ [' ']) with
      | none => rfl
      | some s =>
          -- The parenthesis that closes the list is not the blank, so it stands in the line already.
          obtain ⟨u, after, rest, hShape, -, -, -, hGroup, hAny⟩ := exists_open_of_signatureOf? hMore
          obtain ⟨hBalanced, rfl⟩ := group?_eq_some_iff.mp hGroup
          rcases List.eq_nil_or_concat rest with rfl | ⟨rest', c, rfl⟩
          · have hSplit : line ++ [' '] = (u ++ '(' :: s.parameters) ++ [')'] := by
              rw [hShape, List.append_assoc, List.cons_append]
            cases (List.append_inj' hSplit rfl).2
          · have hSplit : line ++ [' '] =
                (u ++ '(' :: (s.parameters ++ ')' :: rest')) ++ [c] := by
              rw [hShape]
              simp
            rw [(List.append_inj' hSplit rfl).1, hAny,
              group?_eq_some_iff.mpr ⟨hBalanced, rfl⟩] at hLine
            cases hLine

theorem signatureOf?_joinWrapped_concat_nil (cs : List Char) (window : Nat)
    (ls : List (List Char)) :
    signatureOf? (joinWrapped cs ((ls ++ [[]]).take window)) =
      signatureOf? (joinWrapped cs (ls.take window)) := by
  rcases take_concat window ls [] with hTake | hTake
  · rw [hTake]
  · rw [hTake]
    rcases joinWrapped_concat_nil cs (ls.take window) with hJoined | hJoined
    · rw [hJoined]
    · rw [hJoined, signatureOf?_append_blank]

theorem readMarker?_concat_nil (owner : String) (number : Nat) (line : List Char)
    (ls : List (List Char)) :
    readMarker? windows origin owner number line (ls ++ [[]]) =
      readMarker? windows origin owner number line ls := by
  have hDeclaration (kind : DeclarationKind) :
      readDeclaration? windows origin kind number line (ls ++ [[]]) =
        readDeclaration? windows origin kind number line ls := by
    apply findSome?_candidates_concat_nil
    · intro c
      simp only [Candidate.withEmpty, enumEntries_concat_nil]
    · intro c hText
      rw [hText]
      cases kind <;> rfl
  have hCallable : readCallable? windows origin owner number line (ls ++ [[]]) =
      readCallable? windows origin owner number line ls := by
    apply findSome?_candidates_concat_nil
    · intro c
      simp only [Candidate.withEmpty, signatureOf?_joinWrapped_concat_nil]
    · intro c hText
      rw [hText]
      cases c.below.take c.remaining <;> rfl
  simp only [readMarker?, hDeclaration, hCallable]

theorem reflectedFrom_concat_nil (owner : String) (number : Nat) (ls : List (List Char)) :
    reflectedFrom windows origin owner number (ls ++ [[]]) =
      reflectedFrom windows origin owner number ls := by
  induction ls generalizing owner number with
  | nil => rfl
  | cons line ls ih =>
      rw [List.cons_append, reflectedFrom_cons, reflectedFrom_cons, readMarker?_concat_nil, ih]

end EmptyLine

/-- The entities of a text are those of the lines it is laid out of. -/
theorem reflected_of_laidOut (windows : Windows) (origin : Origin) {ls : List (List Char)}
    {text : List Char} (h : LaidOut ls text) :
    reflected windows origin text = reflectedFrom windows origin "" 1 (ls.map trim) := by
  rcases h.lines with hAll | hButLast
  · rw [reflected, hAll]
  · rw [← hButLast, List.map_append]
    exact (reflectedFrom_concat_nil windows origin "" 1 ((lines text).map trim)).symm

/-- The lines are the same but for blanks around them. -/
def SameStripped (ls ls' : List (List Char)) : Prop :=
  List.Forall₂ (fun l l' => trim l = trim l') ls ls'

theorem sameStripped_iff {ls ls' : List (List Char)} :
    SameStripped ls ls' ↔ ls.map trim = ls'.map trim := by
  rw [← List.forall₂_eq_eq_eq, List.forall₂_map_left_iff, List.forall₂_map_right_iff]
  exact Iff.rfl

/-- What a text declares depends on its stripped lines only, whatever the windows are: texts whose lines agree
but for the blanks around them give the same entities, with the same line numbers. So it does not matter that a
text with plain line feeds gets other blanks around its lines and other line ends behind them. And a reader
that strips a line in each place where it looks at it reads the same. -/
theorem reflected_stripped (windows : Windows) (origin : Origin) (text text' : List Char) :
    (SameStripped (lines text) (lines text') →
        reflected windows origin text = reflected windows origin text') ∧
      (∀ ls', (∀ c ∈ text, isLineEnd c = true → c = '\n') →
        SameStripped (List.splitOn '\n' text) ls' → LaidOut ls' text' →
          reflected windows origin text = reflected windows origin text') ∧
        Raw.reflected windows origin text = reflected windows origin text := by
  refine ⟨fun hSame => ?_, fun ls' hFeeds hSame hLaid => ?_, ?_⟩
  · rw [reflected, sameStripped_iff.mp hSame, reflected]
  · rw [reflected_of_laidOut windows origin (laidOut_splitOn hFeeds),
      reflected_of_laidOut windows origin hLaid, sameStripped_iff.mp hSame]
  · exact (Raw.reflectedFrom_trim windows origin "" 1 (lines text)).symm

/-- A class with a function whose header is wrapped. -/
def wrappedText : List Char :=
  "UCLASS()\nclass AHero \x7b\nUFUNCTION(Exec)\nvoid Fire(\nint32 N);\n\x7d;\n".toList

/-- Its lines with other blanks around them, and blanks behind the last line end. -/
def indentedLines : List (List Char) :=
  ["  UCLASS()", "class AHero \x7b\t", "\tUFUNCTION(Exec)  ", "\t\tvoid Fire(", "int32 N);\t", "\x7d; ",
    " \t"].map String.toList

/-- The class and its function are read from all of these texts, at lines two and four. -/
theorem reflected_stripped_wrapped :
    let read := reflected {} ⟨"Hero.h", none⟩
    (read wrappedText).map (·.line) = [2, 4] ∧
      read wrappedText = read (['\r', '\n'].intercalate indentedLines.dropLast) ∧
        ∀ e ∈ lineEnds, read wrappedText = read (e.intercalate indentedLines) := by
  intro read
  have hLines : SameStripped (lines wrappedText)
      (lines (['\r', '\n'].intercalate indentedLines.dropLast)) :=
    sameStripped_iff.mpr (by decide +kernel)
  have hPieces : SameStripped (List.splitOn '\n' wrappedText) indentedLines :=
    sameStripped_iff.mpr (by decide +kernel)
  have hFeeds : ∀ c ∈ wrappedText, isLineEnd c = true → c = '\n' := by decide +kernel
  refine ⟨by decide +kernel, ?_, fun e hEnd => ?_⟩
  · exact (reflected_stripped {} ⟨"Hero.h", none⟩ _ _).1 hLines
  · have hLaid : LaidOut indentedLines (e.intercalate indentedLines) :=
      laidOut_intercalate hEnd (by decide) (by decide +kernel)
    exact (reflected_stripped {} ⟨"Hero.h", none⟩ _ _).2.1 _ hFeeds hPieces hLaid

end ProjectAtlas.Source
