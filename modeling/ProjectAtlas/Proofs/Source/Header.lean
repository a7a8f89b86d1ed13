import ProjectAtlas.Proofs.Source.Marker

/-!
Header lines of types: the name and the base that are written there are read again.
-/

namespace ProjectAtlas.Source

open ProjectAtlas.Text

/-- Blanks between two words. -/
structure IsGap (gap : List Char) : Prop where
  ne_nil : gap ≠ []
  blank : ∀ c ∈ gap, isBlank c = true

/-- The text after a word and the blanks behind it. -/
theorem afterWord?_gap {gap : List Char} (h : IsGap gap) (word t : List Char) :
    afterWord? word (word ++ (gap ++ t)) = some (trimStart t) := by
  have hPrefix : word.isPrefixOf (word ++ (gap ++ t)) = true :=
    List.isPrefixOf_iff_prefix.mpr (List.prefix_append _ _)
  obtain ⟨b, gap, rfl⟩ := List.exists_cons_of_ne_nil h.ne_nil
  obtain ⟨hFirst, hRest⟩ := List.forall_mem_cons.mp h.blank
  rw [afterWord?, if_pos hPrefix, List.drop_left]
  simp only [List.cons_append, hFirst, if_true, trimStart_blanks_append hRest]

theorem isGap_space : IsGap [' '] := by
  constructor <;> simp [isBlank]

/-- The text after a word and a blank. -/
theorem afterWord?_append (word t : List Char) :
    afterWord? word (word ++ ' ' :: t) = some (trimStart t) :=
  afterWord?_gap isGap_space word t

/-- Only a name in front of a name is taken for an export macro. -/
theorem afterExport?_bind_ident? {name t : List Char} (h : IsName name)
    (hNext : t = [] ∨ ∃ r, t = ' ' :: ':' :: r) :
    (afterExport? (name ++ t)).bind ident? = none := by
  have hEnd : ∀ c ∈ t.head?, isWord c = false := by
    rcases hNext with rfl | ⟨r, rfl⟩
    · simp
    · simp [isWord]
  have hWord := (h.takeWhile_append hEnd).1
  have hPrefix : name.isPrefixOf (name ++ t) = true :=
    List.isPrefixOf_iff_prefix.mpr (List.prefix_append _ _)
  simp only [afterExport?, hWord]
  split
  · rcases hNext with rfl | ⟨r, rfl⟩
    · simp [afterWord?]
    · rw [afterWord?_append]
      simp [trimStart, isBlank, ident?, isIdentStart]
  · rfl

theorem recordName?_append {name : List Char} (h : IsName name) (keyword : List Char)
    {t : List Char} (hNext : t = [] ∨ ∃ r, t = ' ' :: ':' :: r) :
    recordName? keyword (keyword ++ ' ' :: (name ++ t)) = some (name, t) := by
  have hEnd : ∀ c ∈ t.head?, isWord c = false := by
    rcases hNext with rfl | ⟨r, rfl⟩
    · simp
    · simp [isWord]
  simp only [recordName?, afterWord?_append, h.trimStart_append, Option.bind_some,
    afterExport?_bind_ident? h hNext, Option.none_or]
  exact h.ident?_append hEnd

/-- A text of base characters alone is its own base name, be it an access word or not. -/
theorem baseName?_singleton {p : List Char} (hSome : p ≠ [])
    (hBase : ∀ c ∈ p, isBaseChar c = true) : baseName? [p] = some p := by
  have hAll : p.takeWhile isBaseChar = p := List.takeWhile_eq_self_iff.mpr hBase
  simp [baseName?, hAll, hSome]

theorem isBlank_eq_false_of_isBaseChar {c : Char} (h : isBaseChar c = true) :
    isBlank c = false := by
  simp only [isBaseChar, Bool.or_eq_true, decide_eq_true_eq] at h
  rcases h with h | rfl
  · exact isBlank_eq_false_of_isWord h
  · decide

/-- The base that stands behind `public`. -/
theorem baseClause?_public {p : List Char} (hSome : p ≠ [])
    (hBase : ∀ c ∈ p, isBaseChar c = true) :
    baseClause? (' ' :: ':' :: ' ' :: ("public".toList ++ ' ' :: p)) = some p := by
  have hParent : words p = [p] := by
    have hWords := words_append hSome (fun c hc => isBlank_eq_false_of_isBaseChar (hBase c hc))
      (t := []) (by simp)
    simpa [words] using hWords
  have hWords : words (' ' :: ("public".toList ++ ' ' :: p)) = ["public".toList, p] := by
    rw [words_cons_blank (by decide), words_append (by simp) (by decide) (by simp [isBlank]),
      words_cons_blank (by decide), hParent]
  have hFinal : skipFinal (' ' :: ':' :: ' ' :: ("public".toList ++ ' ' :: p)) =
      ' ' :: ':' :: ' ' :: ("public".toList ++ ' ' :: p) := by
    simp [skipFinal, trimStart, isBlank, List.isPrefixOf]
  have hStart : trimStart (' ' :: ':' :: ' ' :: ("public".toList ++ ' ' :: p)) =
      ':' :: ' ' :: ("public".toList ++ ' ' :: p) := by
    simp [trimStart, isBlank]
  have hAccess : isAccessWord "public".toList = true := by decide
  simp only [baseClause?, hFinal, hStart, hWords]
  rw [baseName?, baseName?_singleton hSome hBase, hAccess]
  simp only [if_true, Option.some_or]

/-- A line that ends in a base character is no mere announcement. -/
theorem isForward_eq_false {line : List Char} (h : ∀ c ∈ line.getLast?, isBaseChar c = true) :
    isForward line = false := by
  have hTrim := trimEnd_eq_self fun c hc => isBlank_eq_false_of_isBaseChar (h c hc)
  have hLast : (line.getLast? == some ';') = false := by
    rw [beq_eq_false_iff_ne]
    intro hSemicolon
    exact absurd (h ';' hSemicolon) (by decide)
  rw [isForward, hTrim, hLast, Bool.false_and]

/-- What stands behind the name is nothing, or begins with a colon. -/
theorem parentClause_cases (parent : Option String) :
    parentClause parent = [] ∨ ∃ r, parentClause parent = ' ' :: ':' :: r := by
  cases parent with
  | none => exact .inl rfl
  | some p => exact .inr ⟨_, parentClause_some p⟩

theorem baseClause?_parentClause {parent : Option String} (h : ∀ p ∈ parent, IsBase p) :
    baseClause? (parentClause parent) = parent.map String.toList := by
  cases parent with
  | none => rfl
  | some p =>
      obtain ⟨hSome, hBase⟩ := h p rfl
      rw [parentClause_some, baseClause?_public (by simpa using hSome) hBase]
      rfl

/-- The last character of a header line belongs to a name. -/
theorem isBaseChar_getLast?_recordLine (kind : RecordKind) {name : String}
    (hName : IsName name.toList) {parent : Option String} (hParent : ∀ p ∈ parent, IsBase p)
    {c : Char} (hc : c ∈ (recordLine kind name parent).getLast?) : isBaseChar c = true := by
  cases parent with
  | none =>
      have hShape : recordLine kind name none = (kind.keyword.toList ++ [' ']) ++ name.toList := by
        simp [recordLine, parentClause]
      rw [hShape, List.getLast?_append_of_ne_nil _ hName.ne_nil] at hc
      simp [isBaseChar, hName.isWord c (List.mem_of_mem_getLast? hc)]
  | some p =>
      obtain ⟨hSome, hBase⟩ := hParent p rfl
      have hShape : recordLine kind name (some p) =
          (kind.keyword.toList ++ ' ' :: (name.toList ++ ' ' :: ':' :: ' ' ::
            ("public".toList ++ [' ']))) ++ p.toList := by
        simp only [recordLine, parentClause_some, List.append_assoc, List.cons_append,
          List.nil_append]
      rw [hShape, List.getLast?_append_of_ne_nil _ (by simpa using hSome)] at hc
      exact hBase c (List.mem_of_mem_getLast? hc)

/-- The header line of a class, an interface or a struct says its name and its base. -/
theorem headerOf?_recordLine (kind : RecordKind) {name : String} (hName : IsName name.toList)
    {parent : Option String} (hParent : ∀ p ∈ parent, IsBase p) :
    headerOf? kind.kind (recordLine kind name parent) =
      some (name.toList, parent.map String.toList) := by
  have hForward : isForward (recordLine kind name parent) = false :=
    isForward_eq_false fun c hc => isBaseChar_getLast?_recordLine kind hName hParent hc
  have hFound := recordName?_append hName kind.keyword.toList (parentClause_cases parent)
  rw [← recordLine] at hFound
  have hBase := baseClause?_parentClause hParent
  cases kind with
  | classType | interfaceType | structType =>
      rw [RecordKind.keyword] at hFound
      simp only [headerOf?, RecordKind.kind, hForward, hFound, Option.map_some, hBase]
      rfl

/-- The header line of an enumeration says its name. -/
theorem headerOf?_enumLine {name : String} (hName : IsName name.toList) :
    headerOf? .enumType (enumLine name) = some (name.toList, none) := by
  have hForward : isForward (enumLine name) = false := by
    apply isForward_eq_false
    intro c hc
    rw [enumLine_eq_append, List.getLast?_append_of_ne_nil _ (by simp)] at hc
    have hLast : c = '8' := by simpa using hc.symm
    rw [hLast]
    decide
  have hClass (t : List Char) : trimStart ("class".toList ++ t) = "class".toList ++ t := by
    simp [trimStart, isBlank]
  have hIdent : ident? (name.toList ++ " : uint8".toList) = some (name.toList, " : uint8".toList) :=
    hName.ident?_append (by simp [isWord])
  have hFound : enumName? (enumLine name) = some (name.toList, " : uint8".toList) := by
    rw [enumLine_eq, enumName?, afterWord?_append, hClass, Option.bind_some, afterWord?_append,
      hName.trimStart_append, Option.some_or, Option.bind_some, hIdent, Option.some_or]
  simp [headerOf?, hForward, hFound]

theorem isLine_recordLine (kind : RecordKind) {name : String} (hName : IsName name.toList)
    {parent : Option String} (hParent : ∀ p ∈ parent, IsBase p) :
    IsLine (recordLine kind name parent) where
  ne_nil := by simp [recordLine]
  trimmed := by
    constructor
    · cases kind <;> simp [recordLine, RecordKind.keyword, isBlank]
    · intro c hc
      exact isBlank_eq_false_of_isBaseChar (isBaseChar_getLast?_recordLine kind hName hParent hc)
  oneLine := by
    have hKeyword : OneLine kind.keyword.toList := by
      cases kind <;> simp [RecordKind.keyword, isLineEnd]
    have hClause : OneLine (parentClause parent) := by
      cases parent with
      | none => exact oneLine_nil
      | some p =>
          have hBase : OneLine p.toList := oneLine_of_not_blank fun c hc =>
            isBlank_eq_false_of_isBaseChar ((hParent p rfl).baseChars c hc)
          rw [parentClause_some]
          simp [hBase, isLineEnd]
    have hBlank : isLineEnd ' ' = false := by decide
    simp [recordLine, hKeyword, hName.oneLine, hClause, hBlank]

theorem isLine_enumLine {name : String} (hName : IsName name.toList) :
    IsLine (enumLine name) where
  ne_nil := by simp [enumLine_eq]
  trimmed := by
    rw [enumLine_eq_append]
    apply isTrimmed_append
    · simp
    · simp
    · simp [isBlank]
    · simp [isBlank]
  oneLine := by simp [enumLine_eq, hName.oneLine, isLineEnd]

theorem isMarker_recordLine (kind : RecordKind) {name : String} (hName : IsName name.toList)
    (parent : Option String) : isMarker (recordLine kind name parent) = false := by
  have hOpen : '(' ∉ kind.keyword.toList := by
    cases kind <;> simp [RecordKind.keyword]
  exact isMarker_append_name hOpen hName (parentClause parent)

theorem isMarker_enumLine (name : String) : isMarker (enumLine name) = false := by
  have hClass : IsName "class".toList := by simp [IsName, isIdentStart, isWord]
  rw [enumLine_eq]
  exact isMarker_append_name (by simp) hClass _

theorem isComment_recordLine (kind : RecordKind) (name : String) (parent : Option String) :
    isComment (recordLine kind name parent) = false := by
  cases kind <;> simp [isComment, recordLine, RecordKind.keyword, List.isPrefixOf]

theorem isComment_enumLine (name : String) : isComment (enumLine name) = false := by
  rw [enumLine_eq]
  simp [isComment, List.isPrefixOf]

end ProjectAtlas.Source
