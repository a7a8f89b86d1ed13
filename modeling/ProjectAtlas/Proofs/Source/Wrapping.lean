import ProjectAtlas.Proofs.Source.CallableHeader

/-!
Header lines of functions that are wrapped. A header goes on below as long as it opens more parentheses
than it closes. Quotation marks are not regarded there, but they are where the parameter list is read; so
a closing parenthesis between quotation marks may end the header too early.
-/

namespace ProjectAtlas.Source

open ProjectAtlas.Text

/-- The lines are the header, broken at blanks in its parameter list. -/
structure Wraps (s : Signature) (header : List Char) (ls : List (List Char)) : Prop where
  joined : [' '].intercalate ls = header
  inside : ∀ k, 0 < k → k < ls.length → ∃ front p,
    [' '].intercalate (ls.take k) = front ++ '(' :: p ∧ '(' ∉ front ∧ p ++ [' '] <+: s.parameters

/-- At the end of each line but the last more parentheses are open than closed. -/
def StaysOpen (ls : List (List Char)) : Prop :=
  ∀ k, 0 < k → k < ls.length → isOpen ([' '].intercalate (ls.take k)) = true

/-- Lines are joined to the last one, or to the first place where the text is not open. -/
theorem joinWrapped_cases (l : List Char) (ls more : List (List Char)) :
    (StaysOpen (l :: ls) ∧ joinWrapped l (ls ++ more) = joinWrapped ([' '].intercalate (l :: ls)) more) ∨
      ∃ k, 0 < k ∧ k < (l :: ls).length ∧ isOpen ([' '].intercalate ((l :: ls).take k)) = false ∧
        joinWrapped l (ls ++ more) = [' '].intercalate ((l :: ls).take k) := by
  induction ls generalizing l with
  | nil =>
      refine .inl ⟨fun k hPos hLess => ?_, by simp⟩
      rw [List.length_singleton] at hLess
      omega
  | cons a ls ih =>
      -- Two lines that are joined count as one.
      have hJoin (k : Nat) : [' '].intercalate ((l :: a :: ls).take (k + 2)) =
          [' '].intercalate (((l ++ ' ' :: a) :: ls).take (k + 1)) := by
        cases h : ls.take k <;> simp [List.intercalate_cons_cons, h]
      cases hOpen : isOpen l with
      | false =>
          refine .inr ⟨1, Nat.one_pos, by simp, ?_, ?_⟩
          · simpa using hOpen
          · simp [joinWrapped, hOpen]
      | true =>
          have hStep : joinWrapped l (a :: ls ++ more) = joinWrapped (l ++ ' ' :: a) (ls ++ more) := by
            rw [List.cons_append, joinWrapped, hOpen, if_pos rfl]
          rcases ih (l ++ ' ' :: a) with ⟨hStays, hAll⟩ | ⟨k, hPos, hLess, hClosed, hPart⟩
          · refine .inl ⟨fun k hPos hLess => ?_, ?_⟩
            · obtain rfl | ⟨j, rfl⟩ : k = 1 ∨ ∃ j, k = j + 2 := by
                rcases Nat.lt_or_ge k 2 with hOne | hMore
                · exact .inl (by omega)
                · exact .inr ⟨k - 2, by omega⟩
              · simpa using hOpen
              · rw [hJoin]
                apply hStays (j + 1) (Nat.succ_pos j)
                simp only [List.length_cons] at hLess ⊢
                omega
            · rw [hStep, hAll]
              congr 1
              cases ls <;> simp [List.intercalate_cons_cons]
          · obtain ⟨j, rfl⟩ : ∃ j, k = j + 1 := ⟨k - 1, by omega⟩
            refine .inr ⟨j + 2, by omega, ?_, ?_, ?_⟩
            · simp only [List.length_cons] at hLess ⊢
              omega
            · rw [hJoin]
              exact hClosed
            · rw [hStep, hPart, hJoin]

section Header

variable {header : List Char} {ls : List (List Char)} {s : Signature}

/-- The first lines of a wrapped header end in its parameter list. -/
theorem Wraps.exists_front (h : Wraps s header ls) {u after : List Char}
    (hShape : header = u ++ '(' :: after) (hOpen : '(' ∉ u) {k : Nat} (hPos : 0 < k)
    (hLess : k < ls.length) :
    ∃ p, [' '].intercalate (ls.take k) = u ++ '(' :: p ∧ p <+: s.parameters := by
  obtain ⟨front, p, hText, hFront, hInside⟩ := h.inside k hPos hLess
  have hTake : ls.take k ≠ [] := by
    rw [Ne, List.take_eq_nil_iff]
    rintro (rfl | rfl)
    · exact absurd hPos (Nat.lt_irrefl 0)
    · exact absurd hLess (Nat.not_lt_zero k)
  have hDrop : ls.drop k ≠ [] := by
    rw [Ne, List.drop_eq_nil_iff]
    omega
  have hJoined := h.joined
  rw [← List.take_append_drop k ls, intercalate_append _ hTake hDrop, hText, hShape] at hJoined
  rw [List.append_assoc, List.append_assoc, List.cons_append] at hJoined
  obtain ⟨rfl, -⟩ := eq_of_append_cons_eq hFront hOpen hJoined
  exact ⟨p, hText, (List.prefix_append p [' ']).trans hInside⟩

/-- The header is read from its lines exactly if they stay open. -/
theorem Wraps.signatureOf?_joinWrapped (hHeader : signatureOf? header = some s) {l : List Char}
    (h : Wraps s header (l :: ls)) (more : List (List Char)) :
    (StaysOpen (l :: ls) → signatureOf? (joinWrapped l (ls ++ more)) = some s) ∧
      ((signatureOf? (joinWrapped l (ls ++ more))).isSome → StaysOpen (l :: ls)) := by
  obtain ⟨u, after, rest, hShape, hOpen, -, -, hGroup, hAny⟩ := exists_open_of_signatureOf? hHeader
  obtain ⟨-, -, hShorter⟩ := closeGroup?_eq_some hGroup
  rcases joinWrapped_cases l ls more with ⟨hStays, hAll⟩ | ⟨k, hPos, hLess, hClosed, hPart⟩
  · refine ⟨fun _ => ?_, fun _ => hStays⟩
    obtain ⟨behind, hBehind⟩ := exists_joinWrapped header more
    rw [hAll, h.joined, hBehind]
    exact signatureOf?_append hHeader behind
  · obtain ⟨p, hText, hInside⟩ := h.exists_front hShape hOpen hPos hLess
    have hNone : signatureOf? (joinWrapped l (ls ++ more)) = none := by
      rw [hPart, hText, hAny, group?, hShorter p hInside]
      rfl
    refine ⟨fun hStays => ?_, fun hSome => ?_⟩
    · rw [hStays k hPos hLess] at hClosed
      cases hClosed
    · rw [hNone] at hSome
      cases hSome

/-- If no closing parenthesis stands between quotation marks in the parameter list then the lines stay
open. -/
theorem Wraps.staysOpen (hHeader : signatureOf? header = some s) (h : Wraps s header ls)
    (hQuoted : ')' ∉ quotedFrom ⟨none, 1⟩ s.parameters) : StaysOpen ls := by
  obtain ⟨u, after, rest, hShape, hOpen, hClose, -, hGroup, -⟩ := exists_open_of_signatureOf? hHeader
  obtain ⟨-, -, hShorter⟩ := closeGroup?_eq_some hGroup
  intro k hPos hLess
  obtain ⟨p, hText, hInside⟩ := h.exists_front hShape hOpen hPos hLess
  have hCount := count_close_lt (s := ⟨none, 1⟩) Nat.one_pos (hShorter p hInside)
    fun hMem => hQuoted ((prefix_quotedFrom hInside).mem hMem)
  rw [hText, isOpen, decide_eq_true_eq, List.count_append, List.count_append,
    List.count_eq_zero_of_not_mem hOpen, List.count_eq_zero_of_not_mem hClose, List.count_cons_self,
    List.count_cons_of_ne (by decide)]
  simp only at hCount
  omega

/-- The first line of a wrapped header is no marker, and a comment if the header is one. -/
theorem Wraps.exists_first (hHeader : signatureOf? header = some s) (h : Wraps s header ls) :
    ∃ l rest, ls = l :: rest ∧ isMarker l = false ∧ isComment l = isComment header := by
  obtain ⟨u, after, -, hShape, hOpen, -, hLong, -, -⟩ := exists_open_of_signatureOf? hHeader
  obtain ⟨l, rest, rfl⟩ : ∃ l rest, ls = l :: rest := by
    cases ls with
    | nil =>
        have hNone := h.joined
        rw [hShape] at hNone
        simp at hNone
    | cons l rest => exact ⟨l, rest, rfl⟩
  -- The line reaches over the first parenthesis of the header.
  obtain ⟨t, more, hLine, hMore⟩ : ∃ t more, l = u ++ '(' :: t ∧ header = l ++ more := by
    cases rest with
    | nil =>
        have hWhole : l = header := by simpa using h.joined
        exact ⟨after, [], hWhole.trans hShape, by rw [List.append_nil, hWhole]⟩
    | cons a rest =>
        obtain ⟨p, hText, -⟩ := h.exists_front hShape hOpen Nat.one_pos (by simp)
        refine ⟨p, ' ' :: [' '].intercalate (a :: rest), by simpa using hText, ?_⟩
        rw [← h.joined, List.intercalate_cons_cons]
        simp
  refine ⟨l, rest, rfl, ?_, ?_⟩
  · apply isMarker_eq_false_of_signatureOf? (hMore ▸ hHeader)
    rw [hLine]
    simp
  · have hLength : 2 ≤ l.length := by
      rw [hLine, List.length_append]
      omega
    rw [hMore, isComment_append hLength]

end Header

/-- What the marker of a function makes of the header on this line. -/
def callableOf (origin : Origin) (owner : String) (marker : List Char) (line : Nat) (s : Signature) :
    Callable :=
  let specifiers := (extractSpecifiers marker).1.map String.ofList
  { name := String.ofList s.name
    owner := if s.qualifier.isEmpty then owner else String.ofList s.qualifier
    returnType := String.ofList s.returnType
    parameters := parseParameters s.parameters
    specifiers := specifiers
    file := origin.file
    line := line
    module := origin.module
    blueprintCallable :=
      specifiers.contains "BlueprintCallable" || specifiers.contains "BlueprintPure" }

section Marker

variable {windows : Windows} {marker l : List Char} {below : List (List Char)}

/-- The line below a marker is the first that may begin its header, if what stands behind the marker's
list neither is a header nor goes on below. -/
theorem readCallable?_below (hWindow : 0 < windows.callable)
    (hBehind : signatureOf? (extractSpecifiers marker).2 = none)
    (hEnds : isOpen (extractSpecifiers marker).2 = false) (hMarker : isMarker l = false)
    (hComment : isComment l = false) {s : Signature}
    (hRead : signatureOf? (joinWrapped l (below.take (windows.callable - 1))) = some s)
    (origin : Origin) (owner : String) (number : Nat) :
    readCallable? windows origin owner number marker (l :: below) =
      some (callableOf origin owner marker (number + 1) s) := by
  obtain ⟨w, hShape⟩ : ∃ w, windows.callable = w + 1 := ⟨windows.callable - 1, by omega⟩
  have hNone (ls : List (List Char)) : signatureOf? (joinWrapped (extractSpecifiers marker).2 ls) =
      none := by
    cases ls <;> simp [joinWrapped, hEnds, hBehind]
  rw [hShape, Nat.add_sub_cancel] at hRead
  simp only [readCallable?, candidates, candidatesBelow, hShape, hMarker, hComment,
    Bool.false_eq_true, if_false]
  split
  · simp only [List.findSome?_cons, hRead, Option.map_some]
    rfl
  · simp only [List.findSome?_cons, hNone, Option.map_none, hRead, Option.map_some]
    rfl

theorem eq_of_mem_zipIdx {ls : List (List Char)} {a b : List Char} {n : Nat}
    (ha : (a, n) ∈ ls.zipIdx 1) (hb : (b, n) ∈ ls.zipIdx 1) : a = b := by
  rw [List.mk_mem_zipIdx_iff_le_and_getElem?_sub] at ha hb
  exact Option.some.inj (ha.2.symm.trans hb.2)

/-- A header on the line below a marker is in the window of no other marker, except that of its own
line. -/
theorem Candidate.Below.eq_of_marker {window m n : Nat} {ls : List (List Char)} {c : Candidate}
    (h : c.Below window ls m) (hMarkerLine : (marker, n) ∈ ls.zipIdx 1) (hMarker : isMarker marker = true)
    (hNumber : c.number = n + 1) (hOther : m ≠ n + 1) : m = n := by
  have hAbove := h.notAbove
  have hNotPassed : ¬m < n := by
    intro hLess
    have hNone := h.unmarked marker n hMarkerLine hLess (by omega)
    rw [hMarker] at hNone
    cases hNone
  omega

/-- What the window of a marker shows from the line below it on. -/
theorem Candidate.Below.eq_next {window : Nat} {above : List (List Char)} {c : Candidate}
    (h : c.Below window (above ++ marker :: l :: below) (above.length + 1))
    (hNumber : c.number = above.length + 2) :
    c.text = l ∧ c.below = below ∧ c.remaining = window - 1 := by
  have hSplit : above ++ marker :: l :: below = (above ++ [marker]) ++ l :: below := by simp
  have hPlace : c.number = (above ++ [marker]).length + 1 := by simp [hNumber]
  have hHere := mem_zipIdx_append_cons (above ++ [marker]) below l
  rw [← hPlace, ← hSplit] at hHere
  obtain ⟨line, hLine, hText⟩ := h.text
  refine ⟨?_, ?_, ?_⟩
  · rw [hText, if_neg (by omega), eq_of_mem_zipIdx hLine hHere]
  · rw [h.below, hSplit, hPlace, drop_append_cons]
  · rw [h.remaining]
    omega

/-- A function on the line below a marker was made by that marker, out of what begins on this line. -/
theorem isSome_of_mem_callablesOf {origin : Origin} {text : List Char} {above : List (List Char)}
    (hText : (lines text).map trim = above ++ marker :: l :: below) (hMarker : isMarker marker = true)
    (hLine : isMarker l = false) {c : Callable} (hNumber : c.line = above.length + 2)
    (h : c ∈ callablesOf (reflected windows origin text)) :
    isComment l = false ∧
      (signatureOf? (joinWrapped l (below.take (windows.callable - 1)))).isSome := by
  have hMem := mem_callablesOf.mp h
  have hMarkerPlace : (marker, above.length + 1) ∈ ((lines text).map trim).zipIdx 1 := by
    rw [hText]
    exact mem_zipIdx_append_cons above (l :: below) marker
  have hPlace : (l, above.length + 2) ∈ ((lines text).map trim).zipIdx 1 := by
    have hHere := mem_zipIdx_append_cons (above ++ [marker]) below l
    rw [List.length_append, List.length_singleton, List.append_assoc] at hHere
    rw [hText]
    exact hHere
  have hOwnPlace : (l, (Reflected.callable c).line) ∈ ((lines text).map trim).zipIdx 1 := by
    rw [Reflected.line, hNumber]
    exact hPlace
  refine ⟨isComment_of_mem_reflected hMem hOwnPlace, ?_⟩
  obtain ⟨owner, front, maker, back, hLines, hRead⟩ := exists_marker_of_mem_reflected hMem
  have hMade := madeBy_of_readMarker? hRead
  rw [← hLines] at hMade
  cases hMade with
  | @callable _ maker d s hMaker hKind hBelow hLineOf hHeader =>
      have hHeaderLine : d.number = above.length + 2 := hLineOf ▸ hNumber
      have hOther : front.length + 1 ≠ above.length + 2 := by
        intro hSame
        rw [hSame] at hMaker
        have hNot : isMarker maker = false := eq_of_mem_zipIdx hPlace hMaker ▸ hLine
        simp [isMarker, hKind] at hNot
      have hMakerLine := hBelow.eq_of_marker hMarkerPlace hMarker hHeaderLine hOther
      rw [hMakerLine, hText] at hBelow
      obtain ⟨hTextOf, hBelowOf, hRemaining⟩ := hBelow.eq_next hHeaderLine
      rw [← hTextOf, ← hBelowOf, ← hRemaining, hHeader]
      rfl

end Marker

theorem staysOpen_singleton (l : List Char) : StaysOpen [l] := by
  intro k hPos hLess
  rw [List.length_singleton] at hLess
  omega

/-- A header on one line is broken nowhere. -/
theorem wraps_singleton (s : Signature) (header : List Char) : Wraps s header [header] where
  joined := List.intercalate_singleton
  inside := by
    intro k hPos hLess
    rw [List.length_singleton] at hLess
    omega

/-- The function of a header is in a text with its lines exactly if they stay open and do not begin like a
comment. -/
theorem exists_owner_mem_callablesOf_iff (windows : Windows) {marker header : List Char} {s : Signature}
    (hMarker : isCallableMarker marker = true)
    (hBehind : signatureOf? (extractSpecifiers marker).2 = none)
    (hEnds : isOpen (extractSpecifiers marker).2 = false) (hHeader : signatureOf? header = some s)
    (origin : Origin) (above : List (List Char)) :
    ∃ owner, ∀ (ls rest : List (List Char)) (text : List Char), Wraps s header ls →
      ls.length ≤ windows.callable → (lines text).map trim = above ++ marker :: (ls ++ rest) →
        (callableOf origin owner marker (above.length + 2) s ∈
          callablesOf (reflected windows origin text) ↔ isComment header = false ∧ StaysOpen ls) := by
  have hIsMarker : isMarker marker = true := by simp [isMarker, hMarker]
  obtain ⟨owner, hMem⟩ := exists_owner_mem_reflected hIsMarker windows origin above
  refine ⟨owner, fun ls rest text hWraps hWindow hText => ?_⟩
  obtain ⟨l, tail, rfl, hLine, hComment⟩ := hWraps.exists_first hHeader
  rw [List.length_cons] at hWindow
  have hTake : (tail ++ rest).take (windows.callable - 1) =
      tail ++ rest.take (windows.callable - 1 - tail.length) := by
    rw [List.take_append, List.take_of_length_le (by omega)]
  obtain ⟨hOpen, hClosed⟩ :=
    hWraps.signatureOf?_joinWrapped hHeader (rest.take (windows.callable - 1 - tail.length))
  rw [← hTake] at hOpen hClosed
  constructor
  · intro h
    obtain ⟨hPlain, hSome⟩ := isSome_of_mem_callablesOf hText hIsMarker hLine rfl h
    exact ⟨hComment ▸ hPlain, hClosed hSome⟩
  · rintro ⟨hPlain, hStays⟩
    have hRead := readCallable?_below (by omega) hBehind hEnds hLine (hComment.trans hPlain)
      (hOpen hStays) origin owner (above.length + 1)
    rw [mem_callablesOf]
    apply hMem text (l :: (tail ++ rest)) hText
    simp only [readMarker?, typeMarker?_eq_none hMarker, hMarker, if_true, hRead]
    rfl

/-- Whether a wrapped header gives the function that it gives on one line. The lines `ls` are the header,
broken at blanks in its parameter list, and the window of the marker reaches to the last of them. The
function of the header is in the text with the header on one line, unless that begins like a comment; it is
in the text with the lines exactly if besides more parentheses are open than closed at the end of each line
but the last. It is so if no closing parenthesis stands between quotation marks. -/
theorem mem_callablesOf_wrapped {windows : Windows} {marker header : List Char} {s : Signature}
    (hMarker : isCallableMarker marker = true)
    (hBehind : signatureOf? (extractSpecifiers marker).2 = none)
    (hEnds : isOpen (extractSpecifiers marker).2 = false) (hHeader : signatureOf? header = some s)
    {ls : List (List Char)} (hWraps : Wraps s header ls) (hWindow : ls.length ≤ windows.callable)
    {above rest : List (List Char)} {text wrapped : List Char}
    (hText : (lines text).map trim = above ++ marker :: header :: rest)
    (hWrapped : (lines wrapped).map trim = above ++ marker :: (ls ++ rest)) (origin : Origin) :
    (∃ owner, (callableOf origin owner marker (above.length + 2) s ∈
          callablesOf (reflected windows origin text) ↔ isComment header = false) ∧
        (callableOf origin owner marker (above.length + 2) s ∈
          callablesOf (reflected windows origin wrapped) ↔
            isComment header = false ∧ StaysOpen ls)) ∧
      (')' ∉ quotedFrom ⟨none, 1⟩ s.parameters → StaysOpen ls) := by
  refine ⟨?_, hWraps.staysOpen hHeader⟩
  obtain ⟨owner, hIff⟩ :=
    exists_owner_mem_callablesOf_iff windows hMarker hBehind hEnds hHeader origin above
  have hSome : ls.length ≠ 0 := by
    obtain ⟨l, tail, rfl, -⟩ := hWraps.exists_first hHeader
    simp
  refine ⟨owner, ?_, hIff ls rest wrapped hWraps hWindow hWrapped⟩
  have hPlain := hIff [header] rest text (wraps_singleton s header)
    (Nat.le_trans (Nat.one_le_iff_ne_zero.mpr hSome) hWindow) hText
  rw [hPlain, and_iff_left (staysOpen_singleton header)]

/-- A function with these lines for its header. -/
def logText (header : List String) : List Char :=
  ['\n'].intercalate (("UFUNCTION()" :: header).map String.toList)

/-- An opening parenthesis between quotation marks does no harm. -/
theorem mem_callablesOf_wrapped_log :
    ∃ c : Callable, c.name = "Log" ∧ c.line = 2 ∧
      c.parameters = [⟨"Open", "FString"⟩, ⟨"Level", "int32"⟩] ∧
        c ∈ callablesOf (reflected {} ⟨"Log.h", none⟩
          (logText ["void Log(FString Open = \"(\", int32 Level);"])) ∧
        c ∈ callablesOf (reflected {} ⟨"Log.h", none⟩
          (logText ["void Log(FString Open = \"(\",", "int32 Level);"])) := by
  let marker := "UFUNCTION()".toList
  let header := "void Log(FString Open = \"(\", int32 Level);".toList
  let ls := ["void Log(FString Open = \"(\",".toList, "int32 Level);".toList]
  let s : Signature :=
    ⟨"void".toList, "Log".toList, "FString Open = \"(\", int32 Level".toList, []⟩
  have hHeader : signatureOf? header = some s := by decide +kernel
  have hBehind : signatureOf? (extractSpecifiers marker).2 = none := by decide +kernel
  have hWraps : Wraps s header ls := by
    refine ⟨by decide, fun k hPos hLess => ?_⟩
    obtain rfl : k = 1 := by
      have hTwo : k < 2 := hLess
      omega
    exact ⟨"void Log".toList, "FString Open = \"(\",".toList, by decide, by decide, by decide⟩
  have hText : (lines (logText ["void Log(FString Open = \"(\", int32 Level);"])).map trim =
      [] ++ marker :: header :: [] := by
    decide +kernel
  have hWrapped : (lines (logText ["void Log(FString Open = \"(\",", "int32 Level);"])).map trim =
      [] ++ marker :: (ls ++ []) := by
    decide +kernel
  have hWindow : ls.length ≤ ({} : Windows).callable := by decide
  obtain ⟨⟨owner, hOne, hTwo⟩, hStays⟩ := mem_callablesOf_wrapped (by decide) hBehind (by decide)
    hHeader hWraps hWindow hText hWrapped ⟨"Log.h", none⟩
  have hPlain : isComment header = false := by decide
  refine ⟨_, rfl, rfl, ?_, hOne.mpr hPlain, hTwo.mpr ⟨hPlain, hStays (by decide)⟩⟩
  show parseParameters s.parameters = _
  decide +kernel

/-- A closing parenthesis between quotation marks ends a wrapped header too early. -/
theorem wrapped_callable_lost :
    callablesOf (reflected {} ⟨"Log.h", none⟩
        (logText ["void Log(FString Open = \")\", int32 Level);"])) =
      [{ name := "Log", owner := "", returnType := "void",
         parameters := [⟨"Open", "FString"⟩, ⟨"Level", "int32"⟩], specifiers := [],
         file := "Log.h", line := 2, module := none, blueprintCallable := false }] ∧
      callablesOf (reflected {} ⟨"Log.h", none⟩
        (logText ["void Log(FString Open = \")\",", "int32 Level);"])) = [] := by
  refine ⟨?_, ?_⟩ <;> decide +kernel

end ProjectAtlas.Source
