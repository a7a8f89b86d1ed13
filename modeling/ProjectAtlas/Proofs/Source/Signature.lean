import Mathlib.Data.List.Basic
import ProjectAtlas.Proofs.Source.Marker

/-!
Header lines of functions: the return type, the name and the parameters that are written there are read
again, whatever follows the parameter list.
-/

namespace ProjectAtlas.Source

open ProjectAtlas.Text

section Chain

/-- The text of names joined by double colons, with blanks behind the last one. -/
inductive ChainText : List (List Char) → List Char → Prop where
  | last {name gap : List Char} (hName : IsName name) (hGap : ∀ c ∈ gap, isBlank c = true) :
      ChainText [name] (name ++ gap)
  | more {name v : List Char} {names : List (List Char)} (hName : IsName name)
      (rest : ChainText names v) : ChainText (name :: names) (name ++ ':' :: ':' :: v)

variable {names : List (List Char)} {v cs after : List Char}

theorem ChainText.ne_nil (h : ChainText names v) : v ≠ [] := by
  cases h with
  | last hName => simp [hName.ne_nil]
  | more hName => simp

/-- No parentheses stand in such a text. -/
theorem ChainText.not_mem (h : ChainText names v) : '(' ∉ v ∧ ')' ∉ v := by
  induction h with
  | last hName hGap =>
      have hOpen : '(' ∉ _ := fun hMem => absurd (hGap '(' hMem) (by decide)
      have hClose : ')' ∉ _ := fun hMem => absurd (hGap ')' hMem) (by decide)
      simp [hName.not_mem (show isWord '(' = false by decide), hOpen,
        hName.not_mem (show isWord ')' = false by decide), hClose]
  | more hName rest ih =>
      simp [hName.not_mem (show isWord '(' = false by decide),
        hName.not_mem (show isWord ')' = false by decide), ih]

/-- Such a text in front of a parenthesis is read, whatever follows the parenthesis. -/
theorem ChainText.chain? (h : ChainText names v) (t : List Char) :
    Source.chain? (v ++ '(' :: t) = some (names, t) := by
  induction h with
  | @last name gap hName hGap =>
      have hIdent := hName.ident?_append
        (isWord_head?_append hGap (show isWord '(' = false by decide) t)
      have hTrim : trimStart (gap ++ '(' :: t) = '(' :: t := by
        rw [trimStart, List.dropWhile_append_of_pos hGap]
        rfl
      rw [List.append_assoc, Source.chain?]
      split
      · rename_i hNone
        rw [hIdent] at hNone
        cases hNone
      · -- No colon is blank, so none stands in front of the parenthesis.
        rename_i found rest hFound
        rw [hIdent] at hFound
        have hColon := (Prod.mk.inj (Option.some.inj hFound)).2
        rw [hColon] at hTrim
        simp [trimStart, isBlank] at hTrim
      · rename_i found rest _ hFound
        rw [hIdent] at hFound
        obtain ⟨rfl, rfl⟩ := Prod.mk.inj (Option.some.inj hFound)
        rw [hTrim]
        rfl
  | @more name v names hName rest ih =>
      have hIdent := hName.ident?_append (t := ':' :: ':' :: (v ++ '(' :: t)) (by simp [isWord])
      rw [List.append_assoc, List.cons_append, List.cons_append, Source.chain?]
      split
      · rename_i hNone
        rw [hIdent] at hNone
        cases hNone
      · rename_i found rest hFound
        rw [hIdent] at hFound
        cases hFound
        rw [ih]
        rfl
      · rename_i found rest hOther hFound
        rw [hIdent] at hFound
        obtain ⟨rfl, rfl⟩ := Prod.mk.inj (Option.some.inj hFound)
        exact absurd rfl (hOther _)

/-- Nothing else is read. -/
theorem exists_chainText_of_chain? (h : chain? cs = some (names, after)) :
    ∃ v, ChainText names v ∧ cs = v ++ '(' :: after := by
  fun_induction chain? cs generalizing names with
  | case1 => cases h
  | case2 cs name rest hFound hLess ih =>
      obtain ⟨⟨names', after'⟩, hRest, hShape⟩ := Option.map_eq_some_iff.mp h
      obtain ⟨rfl, rfl⟩ := Prod.mk.inj hShape
      obtain ⟨v, hText, rfl⟩ := ih hRest
      refine ⟨_, .more (isName_of_ident? hFound).1 hText, ?_⟩
      rw [← append_of_ident? hFound]
      simp
  | case3 cs name rest hOther hFound r hTrim =>
      cases h
      obtain ⟨gap, hGap, hRest⟩ := exists_blanks_append rest
      refine ⟨_, .last (isName_of_ident? hFound).1 hGap, ?_⟩
      rw [← append_of_ident? hFound, ← hRest, hTrim, List.append_assoc]
  | case4 => cases h

end Chain

/-- A name in front of a text with a character that belongs to no word lies in front of that character. -/
theorem exists_append_of_isName {name t u w : List Char} {b : Char} (hName : IsName name)
    (hWord : isWord b = false) (h : u ++ b :: w = name ++ t) :
    ∃ x, u = name ++ x ∧ t = x ++ b :: w := by
  rcases List.append_eq_append_iff.mp h with ⟨x, rfl, hRest⟩ | ⟨x, rfl, hRest⟩
  · cases x with
    | nil => exact ⟨[], by simp, hRest.symm⟩
    | cons a x =>
        rw [List.cons_append, List.cons.injEq] at hRest
        have hMem : b ∈ u ++ a :: x := by simp [hRest.1]
        rw [hName.isWord b hMem] at hWord
        cases hWord
  · exact ⟨x, rfl, hRest⟩

/-- In the text of a chain only blanks follow a character that belongs to no name. -/
theorem ChainText.blank_of_mem {names : List (List Char)} {u w : List Char} {b : Char}
    (h : ChainText names (u ++ b :: w)) (hWord : isWord b = false) (hColon : b ≠ ':') :
    ∀ c ∈ b :: w, isBlank c = true := by
  generalize hText : u ++ b :: w = v at h
  induction h generalizing u with
  | last hName hGap =>
      obtain ⟨x, -, rfl⟩ := exists_append_of_isName hName hWord hText
      exact fun c hc => hGap c (List.mem_append_right x hc)
  | more hName rest ih =>
      obtain ⟨x, -, hRest⟩ := exists_append_of_isName hName hWord hText
      cases x with
      | nil => exact absurd (List.cons.inj hRest).1.symm hColon
      | cons a x =>
          have hTail := (List.cons.inj hRest).2
          cases x with
          | nil => exact absurd (List.cons.inj hTail).1.symm hColon
          | cons d x => exact ih (List.cons.inj hTail).2.symm

/-- The text of a chain is not all blank. -/
theorem ChainText.exists_not_blank {names : List (List Char)} {v : List Char} (h : ChainText names v) :
    ∃ c ∈ v, isBlank c = false := by
  have hFirst {name : List Char} (hName : IsName name) (t : List Char) :
      ∃ c ∈ name ++ t, isBlank c = false := by
    obtain ⟨c, cs, rfl⟩ := List.exists_cons_of_ne_nil hName.ne_nil
    exact ⟨c, by simp, hName.not_blank c List.mem_cons_self⟩
  cases h with
  | last hName hGap => exact hFirst hName _
  | more hName rest => exact hFirst hName _

section Apart

variable {names : List (List Char)} {v : List Char}

/-- No chain reaches over a character that belongs to no name and has a chain behind it. -/
theorem chain?_eq_none (h : ChainText names v) {u : List Char} (hOpen : '(' ∉ u) {b : Char}
    (hParen : b ≠ '(') (hWord : isWord b = false) (hColon : b ≠ ':') (t : List Char) :
    chain? (u ++ b :: (v ++ '(' :: t)) = none := by
  cases hFound : chain? (u ++ b :: (v ++ '(' :: t)) with
  | none => rfl
  | some found =>
      obtain ⟨names', after⟩ := found
      obtain ⟨v', hText, hShape⟩ := exists_chainText_of_chain? hFound
      have hBoth : '(' ∉ u ++ b :: v := by
        simp [hOpen, Ne.symm hParen, h.not_mem.1]
      rw [← List.cons_append, ← List.append_assoc] at hShape
      obtain ⟨rfl, -⟩ := eq_of_append_cons_eq hBoth hText.not_mem.1 hShape
      obtain ⟨c, hc, hSome⟩ := h.exists_not_blank
      have hBlank := hText.blank_of_mem hWord hColon c (List.mem_cons_of_mem b hc)
      rw [hSome] at hBlank
      cases hBlank

theorem firstChain?_of_chain? {cs after : List Char} (h : chain? cs = some (names, after)) :
    firstChain? cs = some ([], names, after) := by
  cases cs with
  | nil =>
      obtain ⟨v, -, hShape⟩ := exists_chainText_of_chain? h
      simp at hShape
  | cons c cs => rw [firstChain?, h]

/-- The first chain of a line is the one in front of its first parenthesis, if what stands in front of
the chain does not run into it. -/
theorem firstChain?_append (h : ChainText names v) {front : List Char} (hOpen : '(' ∉ front)
    (hApart : ∀ c ∈ front.getLast?, isWord c = false ∧ c ≠ ':') (t : List Char) :
    firstChain? (front ++ (v ++ '(' :: t)) = some (front, names, t) := by
  induction front with
  | nil => exact firstChain?_of_chain? (h.chain? t)
  | cons c front ih =>
      have hNone : chain? (c :: front ++ (v ++ '(' :: t)) = none := by
        obtain ⟨u, b, hSplit⟩ := (List.eq_nil_or_concat (c :: front)).resolve_left (by simp)
        rw [List.concat_eq_append] at hSplit
        rw [hSplit] at hOpen hApart ⊢
        obtain ⟨hWord, hColon⟩ := hApart b (by simp)
        rw [List.mem_append, List.mem_singleton, not_or] at hOpen
        rw [List.append_assoc]
        exact chain?_eq_none h hOpen.1 (Ne.symm hOpen.2) hWord hColon t
      have hRest := ih (fun hMem => hOpen (List.mem_cons_of_mem c hMem)) (by
        cases front with
        | nil => simp
        | cons d front => simpa using hApart)
      rw [List.cons_append] at hNone ⊢
      rw [firstChain?, hNone, hRest]
      rfl

end Apart

/-- What stands in front of a chain is a return type, and the chain ends in the name of a function. -/
structure Accepts (front name : List Char) : Prop where
  notStatement : name ∉ statementWords
  hasType : [' '].intercalate (returnWords front) ≠ []
  typeChars : ∀ c ∈ [' '].intercalate (returnWords front), isTypeChar c = true

section Read

variable {line front name after : List Char}

/-- What stands behind an accepted chain gives the parameters. -/
theorem signatureOf?_of_firstChain? (names : List (List Char))
    (hChain : firstChain? line = some (front, names ++ [name], after)) (h : Accepts front name) :
    signatureOf? line = (group? after).map fun r =>
      ⟨[' '].intercalate (returnWords front), name, r.1, [':', ':'].intercalate names⟩ := by
  have hRefused : ¬(statementWords.contains name || ([' '].intercalate (returnWords front)).isEmpty ||
      !([' '].intercalate (returnWords front)).all isTypeChar) = true := by
    simpa [h.notStatement, h.hasType] using h.typeChars
  rw [signatureOf?, hChain]
  simp only [List.getLast?_concat, List.dropLast_concat]
  rw [if_neg hRefused]

/-- A signature is read from an accepted chain with a closed list behind it. -/
theorem exists_firstChain?_of_signatureOf? {s : Signature} (h : signatureOf? line = some s) :
    ∃ front names after rest, firstChain? line = some (front, names ++ [s.name], after) ∧
      Accepts front s.name ∧ s.returnType = [' '].intercalate (returnWords front) ∧
        s.qualifier = [':', ':'].intercalate names ∧ group? after = some (s.parameters, rest) := by
  rw [signatureOf?] at h
  cases hChain : firstChain? line with
  | none => simp [hChain] at h
  | some found =>
      obtain ⟨front, names, after⟩ := found
      cases hLast : names.getLast? with
      | none => simp [hChain, hLast] at h
      | some name =>
          simp only [hChain, hLast] at h
          split at h
          · cases h
          · rename_i hNot
            simp only [Bool.or_eq_true, not_or, Bool.not_eq_true, Bool.not_eq_false',
              List.all_eq_true, List.isEmpty_eq_false_iff, List.contains_eq_mem,
              decide_eq_false_iff_not] at hNot
            obtain ⟨⟨inside, rest⟩, hGroup, rfl⟩ := Option.map_eq_some_iff.mp h
            have hNames : names.dropLast ++ [name] = names :=
              List.dropLast_append_getLast? name hLast
            refine ⟨front, names.dropLast, after, rest, by rw [hNames], ?_, rfl, rfl, hGroup⟩
            exact ⟨hNot.1.1, hNot.1.2, hNot.2⟩

end Read

theorem IsReturnType.exists_words {cs : List Char} (h : IsReturnType cs) :
    ∃ w ws, words cs = w :: ws ∧ w ∉ leadingQualifiers ∧ w.head? ≠ some '*' := by
  obtain ⟨w, hHead, hFirst⟩ := h.first
  obtain ⟨ws, hWords⟩ := List.head?_eq_some_iff.mp hHead
  exact ⟨w, ws, hWords, hFirst⟩

/-- The words of a return type are kept. -/
theorem intercalate_returnWords {cs : List Char} (h : IsReturnType cs) :
    [' '].intercalate (returnWords (cs ++ [' '])) = cs := by
  obtain ⟨w, ws, hWords, hFirst, -⟩ := h.exists_words
  have hKept : (words cs).dropWhile leadingQualifiers.contains = words cs := by
    rw [hWords, List.dropWhile_cons_of_neg]
    simpa using hFirst
  rw [returnWords, words_append_blank (by decide), hKept, h.spaced]

/-- A return type has no parentheses. -/
theorem IsReturnType.not_open {cs : List Char} (h : IsReturnType cs) : '(' ∉ cs :=
  fun hMem => absurd (h.typeChars '(' hMem) (by decide)

theorem ne_nil_of_isReturnType {cs : List Char} (h : IsReturnType cs) : cs ≠ [] := by
  rintro rfl
  obtain ⟨w, ws, hWords, -⟩ := h.exists_words
  simp [words] at hWords

/-- The signature of a function is read from its header line, with any text behind it. -/
theorem signatureOf?_callableLine {returnType name : String} (hType : IsReturnType returnType.toList)
    (hName : IsName name.toList) (hWord : name.toList ∉ statementWords) {parameters : List Parameter}
    (hInside : ∀ p ∈ parameters, staysInside {} (parameterText p) = true) (more : List Char) :
    signatureOf? (callableLine returnType name parameters ++ more) =
      some ⟨returnType.toList, name.toList, listText (parameters.map parameterText), []⟩ := by
  have hShape : callableLine returnType name parameters ++ more =
      returnType.toList ++ ' ' :: (name.toList ++ '(' ::
        (listText (parameters.map parameterText) ++ ')' :: ';' :: more)) := by
    simp [callableLine_eq]
  have hPieces : ∀ p ∈ parameters.map parameterText, staysInside {} p = true := by
    simpa using hInside
  have hGroup := group?_listText hPieces (';' :: more)
  have hText := ChainText.last hName (List.forall_mem_nil _)
  rw [List.append_nil] at hText
  have hFront : '(' ∉ returnType.toList ++ [' '] := by simp [hType.not_open]
  have hChain := firstChain?_append hText hFront (by simp [isWord])
    (listText (parameters.map parameterText) ++ ')' :: ';' :: more)
  have hAccepts : Accepts (returnType.toList ++ [' ']) name.toList := by
    refine ⟨hWord, ?_, ?_⟩
    · rw [intercalate_returnWords hType]
      exact ne_nil_of_isReturnType hType
    · rw [intercalate_returnWords hType]
      exact hType.typeChars
  rw [List.append_assoc, List.singleton_append] at hChain
  rw [hShape, signatureOf?_of_firstChain? [] hChain hAccepts, hGroup, intercalate_returnWords hType]
  rfl

/-- A parameter is a piece of its list. -/
theorem isPiece_parameterText {p : Parameter} (h : IsParameter p) : IsPiece (parameterText p) where
  ne_nil := by simp [parameterText]
  trimmed := by
    rw [parameterText_eq]
    apply isTrimmed_append h.type.ne_nil h.name.ne_nil h.type.trimmed.first
    exact fun c hc => h.name.not_blank c (List.mem_of_mem_getLast? hc)
  oneLine := by
    have hBlank : isLineEnd ' ' = false := by decide
    simp [parameterText, h.type.oneLine, h.name.oneLine, hBlank]
  inside := by
    have hName : staysInside {} (' ' :: p.name.toList) = true := by
      apply staysInside_of_plain
      intro c hc
      rcases List.mem_cons.mp hc with rfl | hc
      · decide
      · exact isPlain_of_isWord (h.name.isWord c hc)
    exact staysInside_append h.type.inside hName

/-- What stands in front of an equals sign declares the parameter: its name and its type are told apart. -/
theorem parameterOf?_of_declared {piece : List Char} {p : Parameter}
    (hDeclared : trim (before ['='] piece) = parameterText p) (hSome : p.type.toList ≠ [])
    (hType : IsTrimmed p.type.toList) (hName : IsName p.name.toList) :
    parameterOf? piece = some p := by
  have hWord : ((parameterText p).reverse.takeWhile isWord).reverse = p.name.toList := by
    have hReverse : (parameterText p).reverse =
        p.name.toList.reverse ++ ' ' :: p.type.toList.reverse := by
      simp [parameterText_eq]
    have hBlank : isWord ' ' = false := by decide
    rw [hReverse, List.takeWhile_append_of_pos fun c hc => hName.isWord c (List.mem_reverse.mp hc)]
    simp [hBlank]
  have hDrop : p.name.toList.dropWhile (!isIdentStart ·) = p.name.toList := by
    cases hText : p.name.toList with
    | nil => rfl
    | cons c name =>
        have hFirst : isIdentStart c = true := by
          rw [hText] at hName
          exact hName.1
        simp [hFirst]
  have hTake : (parameterText p).take ((parameterText p).length - p.name.toList.length) =
      p.type.toList ++ [' '] := by
    rw [parameterText_eq, List.length_append, Nat.add_sub_cancel, List.take_left]
  have hTrim : trim (p.type.toList ++ [' ']) = p.type.toList := by
    rw [trim_append_blanks (by decide), hType.trim]
  have hTrailing : trailingIdent? (parameterText p) =
      some (p.type.toList ++ [' '], p.name.toList) := by
    simp [trailingIdent?, hWord, hDrop, hTake, hName.ne_nil]
  have hSomeText : (parameterText p).isEmpty = false := by simp [parameterText]
  have hSomeType : p.type.toList.isEmpty = false := List.isEmpty_eq_false_iff.mpr hSome
  simp only [parameterOf?, hDeclared, hSomeText, hTrailing, hTrim, hSomeType, String.ofList_toList]
  rfl

theorem parameterOf?_parameterText {p : Parameter} (h : IsParameter p) :
    parameterOf? (parameterText p) = some p := by
  have hEquals : '=' ∉ parameterText p := by
    simp [parameterText, h.noDefault, h.name.not_mem (show isWord '=' = false by decide)]
  apply parameterOf?_of_declared _ h.type.ne_nil h.type.trimmed h.name
  rw [before_eq_self hEquals, (isPiece_parameterText h).trimmed.trim]

/-- A text that is neither blank nor `void` is read piece by piece. -/
theorem parseParameters_of_mem {cs : List Char} (h : ' ' ∈ trim cs) :
    parseParameters cs = (splitTopLevel cs).filterMap parameterOf? := by
  have hSome : (trim cs).isEmpty = false := List.isEmpty_eq_false_iff.mpr (List.ne_nil_of_mem h)
  have hVoid : trim cs ≠ "void".toList := by
    intro hSame
    rw [hSame] at h
    exact absurd h (by decide)
  simp only [parseParameters, hSome, hVoid, splitTopLevel_trim]
  rfl

/-- The parameters of a list are read as they are written. -/
theorem parseParameters_listText {parameters : List Parameter} (h : ∀ p ∈ parameters, IsParameter p) :
    parseParameters (listText (parameters.map parameterText)) = parameters := by
  have hPieces : ∀ a ∈ parameters.map parameterText, IsPiece a := by
    intro a ha
    obtain ⟨p, hp, rfl⟩ := List.mem_map.mp ha
    exact isPiece_parameterText (h p hp)
  cases parameters with
  | nil => rfl
  | cons p ps =>
      have hBlank : ' ' ∈ trim (listText ((p :: ps).map parameterText)) := by
        rw [List.map_cons, (isTrimmed_listText hPieces).trim]
        exact mem_listText List.mem_cons_self (by simp [parameterText])
      rw [parseParameters_of_mem hBlank, splitTopLevel_listText hPieces, List.filterMap_map]
      calc
        _ = (p :: ps).filterMap some := List.filterMap_congr fun a ha =>
          parameterOf?_parameterText (h a ha)
        _ = p :: ps := List.filterMap_some

/-- A return type begins with a character that is neither blank nor the mark of a comment. -/
theorem exists_head_of_isReturnType {cs : List Char} (h : IsReturnType cs) :
    ∃ c r, cs = c :: r ∧ isBlank c = false ∧ c ≠ '/' ∧ c ≠ '*' := by
  obtain ⟨w, ws, hWords, -, hStar⟩ := h.exists_words
  have hWord := mem_words (show w ∈ words cs by simp [hWords])
  cases w with
  | nil => exact absurd rfl hWord.1
  | cons c w =>
      have hShape : ∃ r, cs = c :: r := by
        rw [← h.spaced, hWords]
        cases ws with
        | nil => exact ⟨w, by simp⟩
        | cons v vs =>
            exact ⟨w ++ [' '] ++ [' '].intercalate (v :: vs), by simp [List.intercalate_cons_cons]⟩
      obtain ⟨r, rfl⟩ := hShape
      refine ⟨c, r, rfl, hWord.2 c (by simp), ?_, ?_⟩
      · rintro rfl
        exact absurd (h.typeChars '/' (by simp)) (by decide)
      · rintro rfl
        exact hStar rfl

theorem oneLine_of_isReturnType {cs : List Char} (h : IsReturnType cs) : OneLine cs := by
  intro c hc
  rw [← h.spaced] at hc
  rcases mem_intercalate hc with hBlank | ⟨w, hw, hMem⟩
  · rw [List.mem_singleton.mp hBlank]
    decide
  · exact oneLine_of_not_blank (mem_words hw).2 c hMem

theorem isLine_callableLine {returnType name : String} (hType : IsReturnType returnType.toList)
    (hName : IsName name.toList) {parameters : List Parameter}
    (hParameters : ∀ p ∈ parameters, IsParameter p) :
    IsLine (callableLine returnType name parameters) where
  ne_nil := by simp [callableLine]
  trimmed := by
    obtain ⟨d, r, hShape, hBlank, -⟩ := exists_head_of_isReturnType hType
    rw [callableLine, List.append_assoc returnType.toList]
    apply isTrimmed_append
    · exact ne_nil_of_isReturnType hType
    · simp
    · simpa [hShape] using hBlank
    · simp [isBlank]
  oneLine := by
    have hList : OneLine (listText (parameters.map parameterText)) := by
      apply oneLine_listText
      intro a ha
      obtain ⟨p, hp, rfl⟩ := List.mem_map.mp ha
      exact (isPiece_parameterText (hParameters p hp)).oneLine
    simp [callableLine, oneLine_of_isReturnType hType, hName.oneLine, hList, isLineEnd]

/-- The header line of a function is no marker, whatever its return type is. -/
theorem isMarker_callableLine {returnType name : String} (hType : IsReturnType returnType.toList)
    (hName : IsName name.toList) (parameters : List Parameter) :
    isMarker (callableLine returnType name parameters) = false := by
  rw [callableLine_eq]
  exact isMarker_append_name hType.not_open hName _

theorem isComment_callableLine {returnType name : String} (hType : IsReturnType returnType.toList)
    (parameters : List Parameter) :
    isComment (callableLine returnType name parameters) = false := by
  obtain ⟨c, r, hShape, -, hSlash, hStar⟩ := exists_head_of_isReturnType hType
  simp [callableLine, hShape, isComment, List.isPrefixOf, Ne.symm hSlash, Ne.symm hStar]

/-- A wrapped header begins with its first line. -/
theorem exists_joinWrapped (cs : List Char) (below : List (List Char)) :
    ∃ more, joinWrapped cs below = cs ++ more := by
  induction below generalizing cs with
  | nil => exact ⟨[], by simp [joinWrapped]⟩
  | cons line below ih =>
      rw [joinWrapped]
      split
      · obtain ⟨more, hMore⟩ := ih (cs ++ ' ' :: line)
        exact ⟨' ' :: line ++ more, by rw [hMore]; simp⟩
      · exact ⟨[], by simp⟩

end ProjectAtlas.Source
