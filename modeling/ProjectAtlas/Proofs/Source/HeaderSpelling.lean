import ProjectAtlas.Proofs.Source.Header

/-!
The spellings of the lines that declare types. Blanks may stand between the words as one likes, and an
export macro, the word `final`, access words and a base may stand in the line or not. Whatever the
spelling, the name and the base are what is read.
-/

namespace ProjectAtlas.Source

open ProjectAtlas.Text

section Announcement

/-- The line only announces a type: it ends in a semicolon, and no brace opens in it. -/
structure Announces (line : List Char) : Prop where
  ends : ∃ front gap, (∀ c ∈ gap, isBlank c = true) ∧ line = front ++ ';' :: gap
  noBrace : '{' ∉ line

theorem isForward_iff {line : List Char} : isForward line = true ↔ Announces line := by
  rw [isForward, Bool.and_eq_true, beq_iff_eq, Bool.not_eq_true', List.contains_eq_mem,
    decide_eq_false_iff_not]
  constructor
  · rintro ⟨hLast, hBrace⟩
    obtain ⟨gap, hGap, hShape⟩ := exists_append_blanks line
    obtain ⟨front, hFront⟩ := List.getLast?_eq_some_iff.mp hLast
    refine ⟨⟨front, gap, hGap, ?_⟩, hBrace⟩
    rw [← hShape, hFront, List.append_assoc, List.singleton_append]
  · rintro ⟨⟨front, gap, hGap, rfl⟩, hBrace⟩
    refine ⟨?_, hBrace⟩
    have hEnd : trimEnd (front ++ [';']) = front ++ [';'] :=
      trimEnd_eq_self (by simp [isBlank])
    rw [← List.singleton_append, ← List.append_assoc, trimEnd_append_blanks hGap, hEnd]
    simp

/-- A text that ends in a base character makes no line an announcement. -/
theorem not_announces_append {t : List Char} (hSome : t ≠ [])
    (hLast : ∀ c ∈ t.getLast?, isBaseChar c = true) (front : List Char) : ¬Announces (front ++ t) := by
  have hForward : isForward (front ++ t) = false := by
    apply isForward_eq_false
    rwa [List.getLast?_append_of_ne_nil _ hSome]
  rw [← isForward_iff, hForward]
  exact Bool.false_ne_true

/-- Nothing is declared by a line that only announces a type. -/
theorem Announces.headerOf? {line : List Char} (h : Announces line) (kind : DeclarationKind) :
    Source.headerOf? kind line = none := by
  simp only [Source.headerOf?, isForward_iff.mpr h, if_true]

end Announcement

section Spelling

/-- A base: names with double colons between neighbours, and no access word. -/
structure IsParent (p : List Char) : Prop where
  names : ∃ ns, ns ≠ [] ∧ (∀ n ∈ ns, IsName n) ∧ p = [':', ':'].intercalate ns
  notAccess : isAccessWord p = false

/-- A base, with access words in front of it. -/
inductive BaseText (p : List Char) : List Char → Prop where
  | base : BaseText p p
  | access {w gap t : List Char} (hWord : isAccessWord w = true) (hGap : IsGap gap)
      (rest : BaseText p t) : BaseText p (w ++ (gap ++ t))

/-- What names the base behind the name of a type, or nothing. Blanks around the colon may be missing. -/
inductive ClauseText : Option (List Char) → List Char → Prop where
  | absent : ClauseText none []
  | base {p front gap t : List Char} (hFront : ∀ c ∈ front, isBlank c = true)
      (hGap : ∀ c ∈ gap, isBlank c = true) (hParent : IsParent p) (hText : BaseText p t) :
      ClauseText (some p) (front ++ ':' :: (gap ++ t))

/-- The word `final` behind the name of a type, or nothing. -/
inductive FinalText : List Char → Prop where
  | absent : FinalText []
  | final {gap : List Char} (hGap : IsGap gap) : FinalText (gap ++ "final".toList)

/-- An export macro in front of the name of a type, or nothing. -/
inductive ExportText : List Char → Prop where
  | absent : ExportText []
  | exported {word gap : List Char} (hSome : word ≠ []) (hWord : ∀ c ∈ word, isWord c = true)
      (hGap : IsGap gap) : ExportText (word ++ ("_API".toList ++ gap))

/-- The word behind `enum`, or nothing. -/
inductive ScopeText : List Char → Prop where
  | absent : ScopeText []
  | word {word gap : List Char} (hWord : word = "class".toList ∨ word = "struct".toList)
      (hGap : IsGap gap) : ScopeText (word ++ gap)

/-- The text declares a class, an interface or a struct, from the keyword to the name or the base. -/
inductive RecordText (keyword name : List Char) (parent : Option (List Char)) : List Char → Prop where
  | intro {gap exported final clause : List Char} (hGap : IsGap gap) (hExport : ExportText exported)
      (hName : IsName name) (hOwn : ¬"_API".toList <:+ name) (hFinal : FinalText final)
      (hClause : ClauseText parent clause) :
      RecordText keyword name parent
        (keyword ++ (gap ++ (exported ++ (name ++ (final ++ clause)))))

/-- The text declares an enumeration, from the keyword to the name. -/
inductive EnumText (name : List Char) : List Char → Prop where
  | intro {gap scope : List Char} (hGap : IsGap gap) (hScope : ScopeText scope) (hName : IsName name)
      (hClass : name ≠ "class".toList) (hStruct : name ≠ "struct".toList) :
      EnumText name ("enum".toList ++ (gap ++ (scope ++ name)))

/-- What goes on behind a header: nothing, a brace and any text, or behind a base a comma and any text that
does not make the line an announcement. -/
inductive Behind (base : Option (List Char)) (header : List Char) : List Char → Prop where
  | nothing : Behind base header []
  | brace {gap : List Char} (hGap : ∀ c ∈ gap, isBlank c = true) (t : List Char) :
      Behind base header (gap ++ '{' :: t)
  | comma (hBase : base.isSome) {t : List Char} (hDeclares : ¬Announces (header ++ ',' :: t)) :
      Behind base header (',' :: t)

end Spelling

section Read

variable {base : Option (List Char)} {header behind : List Char}

theorem isBaseChar_eq_false_of_isBlank {c : Char} (h : isBlank c = true) : isBaseChar c = false := by
  cases hBase : isBaseChar c with
  | false => rfl
  | true =>
      rw [isBlank_eq_false_of_isBaseChar hBase] at h
      cases h

theorem isWord_eq_false_of_isBaseChar_eq_false {c : Char} (h : isBaseChar c = false) :
    isWord c = false :=
  (Bool.or_eq_false_iff.mp h).1

/-- What is behind a header does not lengthen its last word. -/
theorem Behind.head (h : Behind base header behind) : ∀ c ∈ behind.head?, isBaseChar c = false := by
  intro c hc
  cases h with
  | nothing => cases hc
  | @brace gap hGap t =>
      cases gap with
      | nil =>
          cases hc
          decide
      | cons b gap =>
          cases hc
          exact isBaseChar_eq_false_of_isBlank (hGap _ List.mem_cons_self)
  | comma hBase hDeclares =>
      cases hc
      decide

/-- A header that goes on is no announcement. -/
theorem Behind.isForward (h : Behind base header behind)
    (hLast : ∀ c ∈ header.getLast?, isBaseChar c = true) :
    Source.isForward (header ++ behind) = false := by
  cases h with
  | nothing =>
      rw [List.append_nil]
      exact isForward_eq_false hLast
  | brace hGap t =>
      rw [Bool.eq_false_iff, Ne, isForward_iff]
      exact fun hAnnounces => hAnnounces.noBrace (by simp)
  | comma hBase hDeclares => rwa [Bool.eq_false_iff, Ne, isForward_iff]

section Base

variable {p t : List Char}

/-- Access words are words. -/
theorem isWord_of_isAccessWord {w : List Char} (h : isAccessWord w = true) :
    w ≠ [] ∧ ∀ c ∈ w, isWord c = true := by
  simp only [isAccessWord, Bool.or_eq_true, decide_eq_true_eq] at h
  rcases h with ((rfl | rfl) | rfl) | rfl
  all_goals decide

theorem IsParent.isBaseChar (h : IsParent p) : p ≠ [] ∧ ∀ c ∈ p, isBaseChar c = true := by
  obtain ⟨ns, hSome, hNames, rfl⟩ := h.names
  obtain ⟨n, ns, rfl⟩ := List.exists_cons_of_ne_nil hSome
  constructor
  · obtain ⟨c, hc⟩ := List.exists_mem_of_ne_nil n (hNames n List.mem_cons_self).ne_nil
    exact List.ne_nil_of_mem (mem_intercalate_of_mem List.mem_cons_self hc)
  · intro c hc
    rcases mem_intercalate hc with hColon | ⟨n, hn, hMem⟩
    · have hColons : ∀ c ∈ [':', ':'], Source.isBaseChar c = true := by decide
      exact hColons c hColon
    · simp [Source.isBaseChar, (hNames n hn).isWord c hMem]

/-- The base at the head of a text is found, whatever is behind it. -/
theorem baseName?_append (hParent : IsParent p) (hBehind : ∀ c ∈ behind.head?, isBaseChar c = false) :
    baseName? (words (p ++ behind)) = some p := by
  obtain ⟨hSome, hBase⟩ := hParent.isBaseChar
  -- The word of the base goes on up to the next blank.
  obtain ⟨x, y, hWord, hBlank, rfl⟩ : ∃ x y, (∀ c ∈ x, isBlank c = false) ∧
      (∀ c ∈ y.head?, isBlank c = true) ∧ behind = x ++ y := by
    refine ⟨behind.takeWhile (!isBlank ·), behind.dropWhile (!isBlank ·), fun c hc => ?_,
      fun c hc => ?_, List.takeWhile_append_dropWhile.symm⟩
    · simpa using List.mem_takeWhile_imp hc
    · have hStop := List.head?_dropWhile_not (!isBlank ·) behind
      rw [Option.mem_def.mp hc] at hStop
      simpa using hStop
  have hHead : ∀ c ∈ x.head?, Source.isBaseChar c = false := by
    intro c hc
    cases x with
    | nil => cases hc
    | cons d x => exact hBehind c hc
  have hNotBlank : ∀ c ∈ p ++ x, isBlank c = false :=
    List.forall_mem_append.mpr ⟨fun c hc => isBlank_eq_false_of_isBaseChar (hBase c hc), hWord⟩
  have hTaken : (p ++ x).takeWhile Source.isBaseChar = p := by
    rw [List.takeWhile_append_of_pos hBase]
    cases x with
    | nil => simp
    | cons d x => simp [hHead d rfl]
  have hAccess : isAccessWord (p ++ x) = false := by
    cases x with
    | nil => simpa using hParent.notAccess
    | cons d x =>
        rw [Bool.eq_false_iff]
        intro hWord
        have hChar := (isWord_of_isAccessWord hWord).2 d (by simp)
        rw [isWord_eq_false_of_isBaseChar_eq_false (hHead d rfl)] at hChar
        cases hChar
  rw [← List.append_assoc, words_append (by simp [hSome]) hNotBlank hBlank, baseName?, hTaken,
    hAccess]
  simp [hSome]

/-- Access words in front of the base are passed over. -/
theorem BaseText.baseName? (h : BaseText p t) (hParent : IsParent p)
    (hBehind : ∀ c ∈ behind.head?, isBaseChar c = false) :
    Source.baseName? (words (t ++ behind)) = some p := by
  induction h with
  | base => exact baseName?_append hParent hBehind
  | @access w gap t hWord hGap rest ih =>
      obtain ⟨hSome, hChars⟩ := isWord_of_isAccessWord hWord
      obtain ⟨b, gap', rfl⟩ := List.exists_cons_of_ne_nil hGap.ne_nil
      have hFirst : ∀ c ∈ (b :: gap' ++ (t ++ behind)).head?, isBlank c = true := by
        intro c hc
        cases hc
        exact hGap.blank b List.mem_cons_self
      have hWords : words (w ++ (b :: gap' ++ (t ++ behind))) = w :: words (t ++ behind) := by
        rw [words_append hSome (fun c hc => isBlank_eq_false_of_isWord (hChars c hc)) hFirst,
          words_blanks_append hGap.blank]
      rw [List.append_assoc, List.append_assoc, hWords, Source.baseName?, ih, hWord]
      rfl

end Base

/-- A text that does not begin with `final` behind blanks stays as it is. -/
theorem skipFinal_eq_self {cs : List Char} (h : ¬"final".toList <+: trimStart cs) :
    skipFinal cs = cs := by
  cases cs with
  | nil => rfl
  | cons c cs =>
      rw [skipFinal]
      simp only [Bool.and_eq_true, List.isPrefixOf_iff_prefix]
      rw [if_neg]
      rintro ⟨hBlank, hFinal⟩
      rw [trimStart_cons_blank hBlank] at h
      exact h hFinal

theorem skipFinal_gap {gap : List Char} (h : IsGap gap) (t : List Char) :
    skipFinal (gap ++ ("final".toList ++ t)) = t := by
  obtain ⟨b, gap, rfl⟩ := List.exists_cons_of_ne_nil h.ne_nil
  obtain ⟨hFirst, hRest⟩ := List.forall_mem_cons.mp h.blank
  have hTrim : trimStart (gap ++ ("final".toList ++ t)) = "final".toList ++ t := by
    rw [trimStart_blanks_append hRest]
    exact trimStart_eq_self (by simp [isBlank])
  have hPrefix : "final".toList.isPrefixOf ("final".toList ++ t) = true :=
    List.isPrefixOf_iff_prefix.mpr (List.prefix_append _ _)
  rw [List.cons_append, skipFinal]
  simp only [hTrim, hFirst, hPrefix, Bool.and_self, if_true]
  have hBehind : ("final".toList ++ t).drop "final".toList.length = t := List.drop_left
  exact hBehind

/-- What the clause and what is behind it begin with, blanks apart. -/
theorem ClauseText.trimStart_append {clause : List Char} (h : ClauseText base clause)
    (hBehind : Behind base header behind) :
    (base = none ∧ ∀ c ∈ (trimStart (clause ++ behind)).head?, c = '{') ∨
      ∃ p t gap, base = some p ∧ IsParent p ∧ BaseText p t ∧ (∀ c ∈ gap, isBlank c = true) ∧
        trimStart (clause ++ behind) = ':' :: (gap ++ (t ++ behind)) := by
  cases h with
  | absent =>
      refine .inl ⟨rfl, ?_⟩
      cases hBehind with
      | nothing => simp [trimStart]
      | brace hGap t =>
          rw [List.nil_append, trimStart_blanks_append hGap, trimStart_eq_self (by simp [isBlank])]
          simp
      | comma hBase hDeclares => cases hBase
  | @base p front gap t hFront hGap hParent hText =>
      refine .inr ⟨p, t, gap, rfl, hParent, hText, hGap, ?_⟩
      rw [List.append_assoc, trimStart_blanks_append hFront, List.cons_append, List.append_assoc]
      exact trimStart_eq_self (by simp [isBlank])

/-- The base clause behind a name is read, be there a `final` or not. -/
theorem baseClause?_spelled {final clause : List Char} (hFinal : FinalText final)
    (hClause : ClauseText base clause) (hBehind : Behind base header behind) :
    baseClause? (final ++ (clause ++ behind)) = base := by
  have hStart := hClause.trimStart_append hBehind
  have hSkip : skipFinal (final ++ (clause ++ behind)) = clause ++ behind := by
    cases hFinal with
    | absent =>
        rw [List.nil_append]
        apply skipFinal_eq_self
        rintro ⟨t, hBegins⟩
        rcases hStart with ⟨-, hBrace⟩ | ⟨p, t, gap, -, -, -, -, hColon⟩
        · rw [← hBegins] at hBrace
          exact absurd (hBrace 'f' rfl) (by decide)
        · rw [hColon] at hBegins
          cases hBegins
    | final hGap =>
        rw [List.append_assoc]
        exact skipFinal_gap hGap _
  rw [baseClause?, hSkip]
  rcases hStart with ⟨rfl, hBrace⟩ | ⟨p, t, gap, rfl, hParent, hText, hGap, hColon⟩
  · split
    · rename_i r hColon
      rw [hColon] at hBrace
      exact absurd (hBrace ':' rfl) (by decide)
    · rfl
  · rw [hColon]
    simp only [words_blanks_append hGap]
    exact hText.baseName? hParent hBehind.head

/-- Behind a name there is no word character. -/
theorem isWord_head?_behind {final clause : List Char} (hFinal : FinalText final)
    (hClause : ClauseText base clause) (hBehind : Behind base header behind) :
    ∀ c ∈ (final ++ (clause ++ behind)).head?, isWord c = false := by
  cases hFinal with
  | absent =>
      cases hClause with
      | absent => exact fun c hc => isWord_eq_false_of_isBaseChar_eq_false (hBehind.head c hc)
      | base hFront hGap hParent hText =>
          rw [List.nil_append, List.append_assoc]
          exact isWord_head?_append hFront (by decide) _
  | @final gap hGap =>
      obtain ⟨b, gap, rfl⟩ := List.exists_cons_of_ne_nil hGap.ne_nil
      intro c hc
      cases hc
      exact isWord_eq_false_of_isBaseChar_eq_false
        (isBaseChar_eq_false_of_isBlank (hGap.blank b List.mem_cons_self))

/-- An export macro and the blanks behind it are passed over. -/
theorem afterExport?_append {word gap : List Char} (hSome : word ≠ [])
    (hWord : ∀ c ∈ word, isWord c = true) (hGap : IsGap gap) (t : List Char) :
    afterExport? (word ++ ("_API".toList ++ gap) ++ t) = some (trimStart t) := by
  have hAll : ∀ c ∈ word ++ "_API".toList, isWord c = true :=
    List.forall_mem_append.mpr ⟨hWord, by decide⟩
  obtain ⟨b, gap, rfl⟩ := List.exists_cons_of_ne_nil hGap.ne_nil
  have hBlank : isWord b = false := isWord_eq_false_of_isBaseChar_eq_false
    (isBaseChar_eq_false_of_isBlank (hGap.blank b List.mem_cons_self))
  have hShape : word ++ ("_API".toList ++ b :: gap) ++ t =
      (word ++ "_API".toList) ++ (b :: gap ++ t) := by
    simp only [List.append_assoc]
  have hTaken : ((word ++ "_API".toList) ++ (b :: gap ++ t)).takeWhile isWord =
      word ++ "_API".toList := by
    rw [List.takeWhile_append_of_pos hAll]
    simp [hBlank]
  have hSuffix : "_API".toList.isSuffixOf (word ++ "_API".toList) = true :=
    List.isSuffixOf_iff_suffix.mpr (List.suffix_append _ _)
  have hLong : 4 < (word ++ "_API".toList).length := by
    have hPositive := List.length_pos_iff.mpr hSome
    rw [List.length_append]
    exact Nat.lt_add_of_pos_left hPositive
  rw [hShape, afterExport?]
  simp only [hTaken, hSuffix, hLong, decide_true, Bool.and_self, if_true]
  exact afterWord?_gap hGap _ t

/-- A name that does not end like an export macro is not taken for one. -/
theorem afterExport?_eq_none {name rest : List Char} (hName : IsName name)
    (hOwn : ¬"_API".toList <:+ name) (hNext : ∀ c ∈ rest.head?, isWord c = false) :
    afterExport? (name ++ rest) = none := by
  have hSuffix : "_API".toList.isSuffixOf name = false := by
    rwa [Bool.eq_false_iff, Ne, List.isSuffixOf_iff_suffix]
  rw [afterExport?]
  simp only [(hName.takeWhile_append hNext).1, hSuffix, Bool.false_and]
  rfl

/-- The name of a class or a struct is told from the macro in front of it. -/
theorem recordName?_spelled {gap exported name rest : List Char} (hGap : IsGap gap)
    (hExport : ExportText exported) (hName : IsName name) (hOwn : ¬"_API".toList <:+ name)
    (hNext : ∀ c ∈ rest.head?, isWord c = false) (keyword : List Char) :
    recordName? keyword (keyword ++ (gap ++ (exported ++ (name ++ rest)))) = some (name, rest) := by
  have hIdent := hName.ident?_append hNext
  cases hExport with
  | absent =>
      rw [recordName?, afterWord?_gap hGap, List.nil_append, hName.trimStart_append, Option.bind_some,
        afterExport?_eq_none hName hOwn hNext, Option.bind_none, Option.none_or, hIdent]
  | @exported word gap' hSome hWord hGap' =>
      have hStart : trimStart (word ++ ("_API".toList ++ gap') ++ (name ++ rest)) =
          word ++ ("_API".toList ++ gap') ++ (name ++ rest) := by
        obtain ⟨c, word, rfl⟩ := List.exists_cons_of_ne_nil hSome
        apply trimStart_eq_self
        intro d hd
        cases hd
        exact isBlank_eq_false_of_isWord (hWord c List.mem_cons_self)
      rw [recordName?, afterWord?_gap hGap, hStart, Option.bind_some,
        afterExport?_append hSome hWord hGap', hName.trimStart_append, Option.bind_some, hIdent,
        Option.some_or]

/-- A name that is another word is not passed over. -/
theorem afterWord?_eq_none {word name rest : List Char} (hOther : name ≠ word)
    (hWord : ∀ c ∈ word, isWord c = true) (hName : IsName name)
    (hNext : ∀ c ∈ rest.head?, isWord c = false) : afterWord? word (name ++ rest) = none := by
  by_cases hPrefix : word <+: name ++ rest
  · obtain ⟨t, hShape⟩ := hPrefix
    rcases List.append_eq_append_iff.mp hShape with ⟨x, rfl, rfl⟩ | ⟨x, rfl, rfl⟩
    · -- The name goes on behind the word, so no blank stands there.
      obtain ⟨c, x, rfl⟩ := List.exists_cons_of_ne_nil
        (show x ≠ [] from fun hNil => hOther (by simp [hNil]))
      have hBlank := hName.not_blank c (by simp)
      simp [afterWord?, hBlank]
    · obtain ⟨c, x, rfl⟩ := List.exists_cons_of_ne_nil
        (show x ≠ [] from fun hNil => hOther (by simp [hNil]))
      have hMore := hWord c (by simp)
      rw [hNext c rfl] at hMore
      cases hMore
  · rw [afterWord?, if_neg (by simpa using hPrefix)]

/-- The name of an enumeration is told from the word in front of it. -/
theorem enumName?_spelled {gap scope name rest : List Char} (hGap : IsGap gap) (hScope : ScopeText scope)
    (hName : IsName name) (hClass : name ≠ "class".toList) (hStruct : name ≠ "struct".toList)
    (hNext : ∀ c ∈ rest.head?, isWord c = false) :
    enumName? ("enum".toList ++ (gap ++ (scope ++ (name ++ rest)))) = some (name, rest) := by
  have hIdent := hName.ident?_append hNext
  cases hScope with
  | absent =>
      have hNoClass : afterWord? "class".toList (name ++ rest) = none :=
        afterWord?_eq_none hClass (by decide) hName hNext
      have hNoStruct : afterWord? "struct".toList (name ++ rest) = none :=
        afterWord?_eq_none hStruct (by decide) hName hNext
      rw [enumName?, afterWord?_gap hGap, List.nil_append, hName.trimStart_append, Option.bind_some,
        hNoClass, hNoStruct, Option.none_or, Option.bind_none, Option.none_or, hIdent]
  | @word word gap' hWord hGap' =>
      have hStart : trimStart (word ++ gap' ++ (name ++ rest)) = word ++ (gap' ++ (name ++ rest)) := by
        rw [List.append_assoc]
        rcases hWord with rfl | rfl <;> exact trimStart_eq_self (by simp [isBlank])
      have hAfter : (afterWord? "class".toList (word ++ (gap' ++ (name ++ rest)))).or
          (afterWord? "struct".toList (word ++ (gap' ++ (name ++ rest)))) = some (name ++ rest) := by
        have hRead := afterWord?_gap hGap' word (name ++ rest)
        rw [hName.trimStart_append] at hRead
        rcases hWord with rfl | rfl
        · rw [hRead, Option.some_or]
        · have hNoClass : afterWord? "class".toList ("struct".toList ++ (gap' ++ (name ++ rest))) =
              none := rfl
          rw [hNoClass, Option.none_or, hRead]
      rw [enumName?, afterWord?_gap hGap, hStart, Option.bind_some, hAfter, Option.bind_some, hIdent,
        Option.some_or]

/-- What ends a header belongs to its last word. -/
theorem BaseText.last {p t : List Char} (h : BaseText p t) (hParent : IsParent p) :
    t ≠ [] ∧ ∀ c ∈ t.getLast?, isBaseChar c = true := by
  induction h with
  | base =>
      obtain ⟨hSome, hBase⟩ := hParent.isBaseChar
      exact ⟨hSome, fun c hc => hBase c (List.mem_of_mem_getLast? hc)⟩
  | access hWord hGap rest ih =>
      refine ⟨by simp [ih.1], ?_⟩
      rw [← List.append_assoc, List.getLast?_append_of_ne_nil _ ih.1]
      exact ih.2

theorem isBaseChar_getLast?_header {name final clause : List Char} (hName : IsName name)
    (hFinal : FinalText final) (hClause : ClauseText base clause) (front : List Char) :
    ∀ c ∈ (front ++ (name ++ (final ++ clause))).getLast?, isBaseChar c = true := by
  have hEnd : name ++ (final ++ clause) ≠ [] := by simp [hName.ne_nil]
  rw [List.getLast?_append_of_ne_nil _ hEnd]
  cases hClause with
  | absent =>
      rw [List.append_nil]
      cases hFinal with
      | absent =>
          intro c hc
          rw [List.append_nil] at hc
          simp [isBaseChar, hName.isWord c (List.mem_of_mem_getLast? hc)]
      | final hGap =>
          rw [← List.append_assoc, List.getLast?_append_of_ne_nil _ (by simp)]
          decide
  | @base p front' gap t hFront hGap hParent hText =>
      obtain ⟨hSome, hLast⟩ := hText.last hParent
      have hShape : name ++ (final ++ (front' ++ ':' :: (gap ++ t))) =
          (name ++ (final ++ (front' ++ ':' :: gap))) ++ t := by
        simp only [List.append_assoc, List.cons_append]
      rw [hShape, List.getLast?_append_of_ne_nil _ hSome]
      exact hLast

theorem headerOf?_of_recordName? {kind : RecordKind} {line name rest : List Char}
    (hForward : isForward line = false)
    (hFound : recordName? kind.keyword.toList line = some (name, rest)) :
    headerOf? kind.kind line = some (name, baseClause? rest) := by
  cases kind with
  | classType | interfaceType | structType =>
      rw [RecordKind.keyword] at hFound
      simp only [headerOf?, RecordKind.kind, hForward, hFound, Option.map_some]
      rfl

/-- A class, an interface or a struct has the name and the base of its header, however that is spelled. -/
theorem RecordText.headerOf? {kind : RecordKind} {name : List Char}
    (h : RecordText kind.keyword.toList name base header) (hBehind : Behind base header behind) :
    Source.headerOf? kind.kind (header ++ behind) = some (name, base) := by
  cases h with
  | @intro gap exported final clause hGap hExport hName hOwn hFinal hClause =>
      have hLast := isBaseChar_getLast?_header hName hFinal hClause
        (kind.keyword.toList ++ (gap ++ exported))
      have hFound := recordName?_spelled hGap hExport hName hOwn
        (isWord_head?_behind hFinal hClause hBehind) kind.keyword.toList
      simp only [List.append_assoc] at hLast
      have hForward := hBehind.isForward hLast
      simp only [List.append_assoc] at hForward ⊢
      rw [headerOf?_of_recordName? hForward hFound, baseClause?_spelled hFinal hClause hBehind]

/-- An enumeration has the name of its header, whatever stands behind it. -/
theorem EnumText.headerOf? {name t : List Char} (h : EnumText name header)
    (hNext : ∀ c ∈ t.head?, isWord c = false) (hForward : isForward (header ++ t) = false) :
    Source.headerOf? .enumType (header ++ t) = some (name, none) := by
  cases h with
  | @intro gap scope hGap hScope hName hClass hStruct =>
      have hFound := enumName?_spelled hGap hScope hName hClass hStruct hNext
      simp only [List.append_assoc] at hForward ⊢
      simp only [Source.headerOf?, hForward, hFound, Option.map_some]
      rfl

/-- An enumeration with or without a base is no announcement. -/
theorem EnumText.isForward {name clause : List Char} (h : EnumText name header)
    (hClause : ClauseText base clause) (hBehind : Behind base (header ++ clause) behind) :
    Source.isForward (header ++ (clause ++ behind)) = false := by
  cases h with
  | @intro gap scope hGap hScope hName hClass hStruct =>
      have hLast := isBaseChar_getLast?_header hName .absent hClause
        ("enum".toList ++ (gap ++ scope))
      simp only [List.append_assoc, List.nil_append] at hLast hBehind ⊢
      have hForward := hBehind.isForward hLast
      simpa only [List.append_assoc] using hForward

end Read

/-- The name and the base of a type are read from every spelling of its header: from that of a class, an
interface or a struct, and from that of an enumeration with or without a base. The name of an enumeration is
read whatever stands behind it. Nothing is read from a line that only announces a type. -/
theorem headerOf?_spelled :
    (∀ (kind : RecordKind) {name header behind : List Char} {parent : Option (List Char)},
        RecordText kind.keyword.toList name parent header → Behind parent header behind →
          headerOf? kind.kind (header ++ behind) = some (name, parent)) ∧
      (∀ {name header clause behind : List Char} {base : Option (List Char)},
        EnumText name header → ClauseText base clause → Behind base (header ++ clause) behind →
          headerOf? .enumType (header ++ (clause ++ behind)) = some (name, none)) ∧
      (∀ {name header t : List Char}, EnumText name header → (∀ c ∈ t.head?, isWord c = false) →
        ¬Announces (header ++ t) → headerOf? .enumType (header ++ t) = some (name, none)) ∧
      ∀ (kind : DeclarationKind) {line : List Char}, Announces line → headerOf? kind line = none := by
  refine ⟨fun kind _ _ _ _ hText hBehind => hText.headerOf? hBehind,
    fun hText hClause hBehind => ?_, fun hText hNext hDeclares => ?_, fun kind _ h => h.headerOf? kind⟩
  · exact hText.headerOf? (isWord_head?_behind .absent hClause hBehind)
      (hText.isForward hClause hBehind)
  · rw [← isForward_iff, Bool.not_eq_true] at hDeclares
    exact hText.headerOf? hNext hDeclares

/-- A class with a macro, `final` and two bases, enumerations with bases of one word and of two, and a class
that is only announced. -/
theorem headerOf?_spelled_hero :
    headerOf? .classType
          "class\tMYGAME_API AHero  final:public virtual Core::AActor, public IHit".toList =
        some ("AHero".toList, some "Core::AActor".toList) ∧
      headerOf? .enumType "enum  struct EStep : uint8 \x7b Walk \x7d;".toList =
        some ("EStep".toList, none) ∧
      headerOf? .enumType "enum  struct EStep : unsigned char".toList = some ("EStep".toList, none) ∧
      headerOf? .classType "class AHero; ".toList = none := by
  have hOne : IsGap [' '] := ⟨by simp, by decide⟩
  have hTwo : IsGap [' ', ' '] := ⟨by simp, by decide⟩
  have hNone : ∀ c ∈ ([] : List Char), isBlank c = true := by simp
  have hActor : IsParent "Core::AActor".toList :=
    ⟨⟨["Core".toList, "AActor".toList], by decide, by decide, by decide⟩, by decide⟩
  have hBase := @BaseText.access "Core::AActor".toList "public".toList _ _ (by decide) hOne
    (@BaseText.access _ "virtual".toList _ _ (by decide) hOne .base)
  have hExport := @ExportText.exported "MYGAME".toList _ (by decide) (by decide) hOne
  have hClass : RecordText RecordKind.classType.keyword.toList "AHero".toList _ _ :=
    @RecordText.intro _ _ _ ['\t'] _ _ _ ⟨by simp, by decide⟩ hExport (by decide) (by decide)
      (.final hTwo) (.base hNone hNone hActor hBase)
  have hMore := not_announces_append (t := ", public IHit".toList) (by simp) (by decide)
  have hEnum := @EnumText.intro "EStep".toList _ _ hTwo (@ScopeText.word _ _ (.inr rfl) hOne)
    (by decide) (by decide) (by decide)
  have hByte : IsParent "uint8".toList :=
    ⟨⟨["uint8".toList], by decide, by decide, by decide⟩, by decide⟩
  have hSized := ClauseText.base hOne.blank hOne.blank hByte .base
  have hChar := not_announces_append (t := " : unsigned char".toList) (by simp) (by decide)
  have hRead := headerOf?_spelled.1 .classType hClass (.comma (t := " public IHit".toList) rfl (hMore _))
  have hReadSized := headerOf?_spelled.2.1 hEnum hSized (.brace hOne.blank " Walk \x7d;".toList)
  have hReadChar := headerOf?_spelled.2.2.1 hEnum (by decide) (hChar _)
  refine ⟨by simpa [RecordKind.keyword, RecordKind.kind] using hRead, by simpa using hReadSized,
    by simpa using hReadChar, ?_⟩
  exact headerOf?_spelled.2.2.2 .classType
    ⟨⟨"class AHero".toList, [' '], hOne.blank, by decide⟩, by decide⟩

end ProjectAtlas.Source
