import ProjectAtlas.Proofs.Source.Balanced
import ProjectAtlas.Proofs.Source.CallableHeader

/-!
The grammar of the lines that declare functions. Every line that is read is written in it, and every
line that is written in it is read, if the name stands apart from what precedes it.
-/

namespace ProjectAtlas.Source

open ProjectAtlas.Text

/-- A qualifier with the colons behind it. -/
def qualifierText (qualifier : List Char) : List Char :=
  if qualifier = [] then [] else qualifier ++ [':', ':']

namespace Signature

/-- The text in front of the parameter list: `front`, the qualified name, and `gap`. -/
def headText (s : Signature) (front gap : List Char) : List Char :=
  front ++ (qualifierText s.qualifier ++ (s.name ++ gap))

/-- The head is well formed. The words of `front`, but for the leading qualifiers, are the return type,
with single blanks between them; the qualifier is made of names and the name is no statement word. -/
structure HeadedBy (s : Signature) (front gap : List Char) : Prop where
  words : ∃ leading kept, words front = leading ++ kept ∧ (∀ w ∈ leading, w ∈ leadingQualifiers) ∧
    (∀ w ∈ kept.head?, w ∉ leadingQualifiers) ∧ s.returnType = [' '].intercalate kept
  hasType : s.returnType ≠ []
  typeChars : ∀ c ∈ s.returnType, isTypeChar c = true
  qualifier : ∃ names, (∀ n ∈ names, IsName n) ∧ s.qualifier = [':', ':'].intercalate names
  name : IsName s.name
  notStatement : s.name ∉ statementWords
  blankGap : ∀ c ∈ gap, isBlank c = true

/-- The line declares a function with this signature: a head, a balanced parameter list in parentheses,
and anything behind it. -/
structure WrittenAs (s : Signature) (front gap rest line : List Char) : Prop
    extends s.HeadedBy front gap where
  parameters : Balanced s.parameters
  shape : line = s.headText front gap ++ '(' :: (s.parameters ++ ')' :: rest)

end Signature

/-- The text ends in a blank or in a sign of a type, so that a name behind it is a word of its own. -/
def EndsApart (front : List Char) : Prop :=
  ∃ c ∈ front.getLast?, isBlank c = true ∨ c = '*' ∨ c = '&' ∨ c = '>'

section Words

theorem returnWords_eq_iff {front : List Char} {kept : List (List Char)} :
    returnWords front = kept ↔ ∃ leading, words front = leading ++ kept ∧
      (∀ w ∈ leading, w ∈ leadingQualifiers) ∧ ∀ w ∈ kept.head?, w ∉ leadingQualifiers := by
  constructor
  · rintro rfl
    refine ⟨(words front).takeWhile leadingQualifiers.contains,
      List.takeWhile_append_dropWhile.symm, fun w hw => ?_, fun w hw => ?_⟩
    · simpa using List.mem_takeWhile_imp hw
    · have hStop := List.head?_dropWhile_not leadingQualifiers.contains (words front)
      rw [← returnWords, Option.mem_def.mp hw] at hStop
      simpa using hStop
  · rintro ⟨leading, hWords, hLeading, hKept⟩
    have hAll : ∀ w ∈ leading, leadingQualifiers.contains w = true := by simpa using hLeading
    rw [returnWords, hWords, List.dropWhile_append_of_pos hAll]
    cases kept with
    | nil => rfl
    | cons w kept =>
        rw [List.dropWhile_cons_of_neg (by simpa using hKept w rfl)]

end Words

section Names

/-- The text of a chain is its names with colons between them, and blanks behind the last one. -/
theorem chainText_iff {names : List (List Char)} {v : List Char} :
    ChainText names v ↔ names ≠ [] ∧ (∀ n ∈ names, IsName n) ∧
      ∃ gap, (∀ c ∈ gap, isBlank c = true) ∧ v = [':', ':'].intercalate names ++ gap := by
  constructor
  · intro h
    induction h with
    | @last name gap hName hGap => exact ⟨by simp, by simpa using hName, gap, hGap, by simp⟩
    | more hName rest ih =>
        obtain ⟨hSome, hNames, gap, hGap, rfl⟩ := ih
        refine ⟨by simp, List.forall_mem_cons.mpr ⟨hName, hNames⟩, gap, hGap, ?_⟩
        rw [List.intercalate_cons_of_ne_nil hSome]
        simp
  · rintro ⟨hSome, hNames, gap, hGap, rfl⟩
    induction names with
    | nil => exact absurd rfl hSome
    | cons name names ih =>
        obtain ⟨hName, hRest⟩ := List.forall_mem_cons.mp hNames
        cases names with
        | nil => simpa using ChainText.last hName hGap
        | cons n names =>
            have hMore := ChainText.more hName (ih (List.cons_ne_nil n names) hRest)
            rw [List.intercalate_cons_of_ne_nil (List.cons_ne_nil n names)]
            simpa using hMore

/-- The names in front of the last one are its qualifier. -/
theorem intercalate_concat {names : List (List Char)} (h : ∀ n ∈ names, IsName n) (name : List Char) :
    [':', ':'].intercalate (names ++ [name]) = qualifierText ([':', ':'].intercalate names) ++ name := by
  cases names with
  | nil => simp [qualifierText]
  | cons n names =>
      have hName := (List.forall_mem_cons.mp h).1
      have hSome : [':', ':'].intercalate (n :: names) ≠ [] := by
        obtain ⟨c, hc⟩ := List.exists_mem_of_ne_nil n hName.ne_nil
        exact List.ne_nil_of_mem (mem_intercalate_of_mem List.mem_cons_self hc)
      rw [intercalate_append _ (List.cons_ne_nil n names) (List.cons_ne_nil name []), qualifierText,
        if_neg hSome, List.intercalate_singleton]

end Names

namespace Signature

variable {s : Signature} {front gap : List Char}

theorem HeadedBy.returnType_eq (h : s.HeadedBy front gap) :
    s.returnType = [' '].intercalate (returnWords front) := by
  obtain ⟨leading, kept, hWords, hLeading, hKept, hType⟩ := h.words
  rw [hType, returnWords_eq_iff.mpr ⟨leading, hWords, hLeading, hKept⟩]

theorem HeadedBy.accepts (h : s.HeadedBy front gap) : Accepts front s.name where
  notStatement := h.notStatement
  hasType := h.returnType_eq ▸ h.hasType
  typeChars := h.returnType_eq ▸ h.typeChars

theorem HeadedBy.exists_chainText (h : s.HeadedBy front gap) :
    ∃ names, s.qualifier = [':', ':'].intercalate names ∧
      ChainText (names ++ [s.name]) (qualifierText s.qualifier ++ (s.name ++ gap)) := by
  obtain ⟨names, hNames, hQualifier⟩ := h.qualifier
  have hAll : ∀ n ∈ names ++ [s.name], IsName n := by
    simpa [or_imp, forall_and] using ⟨hNames, h.name⟩
  refine ⟨names, hQualifier, chainText_iff.mpr ⟨by simp, hAll, gap, h.blankGap, ?_⟩⟩
  rw [intercalate_concat hNames, hQualifier, List.append_assoc]

/-- An accepted chain is a head. -/
theorem exists_headedBy {names : List (List Char)} {v : List Char} (hAccepts : Accepts front s.name)
    (hText : ChainText (names ++ [s.name]) v)
    (hType : s.returnType = [' '].intercalate (returnWords front))
    (hQualifier : s.qualifier = [':', ':'].intercalate names) :
    ∃ gap, s.HeadedBy front gap ∧ front ++ v = s.headText front gap := by
  obtain ⟨-, hAll, gap, hGap, rfl⟩ := chainText_iff.mp hText
  have hNames : ∀ n ∈ names, IsName n := fun n hn => hAll n (List.mem_append_left _ hn)
  obtain ⟨leading, hWords, hLeading, hKept⟩ := returnWords_eq_iff.mp (Eq.refl (returnWords front))
  refine ⟨gap, ?_, ?_⟩
  · exact {
      words := ⟨leading, _, hWords, hLeading, hKept, hType⟩
      hasType := hType ▸ hAccepts.hasType
      typeChars := hType ▸ hAccepts.typeChars
      qualifier := ⟨names, hNames, hQualifier⟩
      name := hAll s.name (by simp)
      notStatement := hAccepts.notStatement
      blankGap := hGap }
  · rw [intercalate_concat hNames, headText, hQualifier, List.append_assoc]

/-- No parenthesis stands in a head, and nothing else that a return type cannot hold. -/
theorem HeadedBy.isTypeChar (h : s.HeadedBy front gap) :
    ∀ c ∈ s.headText front gap, isTypeChar c = true := by
  have hWord {c : Char} (hc : isWord c = true) : Source.isTypeChar c = true := by
    simp [Source.isTypeChar, hc]
  have hColons : ∀ c ∈ [':', ':'], Source.isTypeChar c = true := by decide
  intro c hc
  obtain ⟨names, hNames, hQualifier⟩ := h.qualifier
  rw [headText, qualifierText, List.mem_append, List.mem_append, List.mem_append] at hc
  rcases hc with hFront | hQualified | hName | hGap
  · exact isTypeChar_of_returnWords h.accepts.typeChars c hFront
  · split at hQualified
    · cases hQualified
    · rw [hQualifier, List.mem_append] at hQualified
      rcases hQualified with hMem | hMem
      · rcases mem_intercalate hMem with hColon | ⟨n, hn, hIn⟩
        · exact hColons c hColon
        · exact hWord ((hNames n hn).isWord c hIn)
      · exact hColons c hMem
  · exact hWord (h.name.isWord c hName)
  · simp [Source.isTypeChar, h.blankGap c hGap]

theorem HeadedBy.not_open (h : s.HeadedBy front gap) : '(' ∉ s.headText front gap :=
  fun hMem => absurd (h.isTypeChar '(' hMem) (by decide)

/-- A line that is read is written in the grammar. -/
theorem exists_writtenAs {line : List Char} (h : signatureOf? line = some s) :
    ∃ front gap rest, s.WrittenAs front gap rest line := by
  obtain ⟨front, names, after, rest, hChain, hAccepts, hType, hQualifier, hGroup⟩ :=
    exists_firstChain?_of_signatureOf? h
  obtain ⟨v, hText, rfl, -⟩ := exists_chainText_of_firstChain? hChain
  obtain ⟨gap, hHead, hShape⟩ := exists_headedBy hAccepts hText hType hQualifier
  obtain ⟨hBalanced, rfl⟩ := group?_eq_some_iff.mp hGroup
  refine ⟨front, gap, rest, ⟨hHead, hBalanced, ?_⟩⟩
  rw [← List.append_assoc, hShape]

/-- A line that is written in the grammar is read. -/
theorem WrittenAs.signatureOf? {rest line : List Char} (h : s.WrittenAs front gap rest line)
    (hApart : EndsApart front) : signatureOf? line = some s := by
  obtain ⟨names, hQualifier, hText⟩ := h.exists_chainText
  have hOpen : '(' ∉ front := fun hMem =>
    h.not_open (List.mem_append_left _ hMem)
  have hEnd : ∀ c ∈ front.getLast?, isWord c = false ∧ c ≠ ':' := by
    obtain ⟨d, hd, hSign⟩ := hApart
    intro c hc
    obtain rfl : c = d := Option.mem_unique hc hd
    rcases hSign with hBlank | rfl | rfl | rfl
    · constructor
      · rw [Bool.eq_false_iff]
        intro hWord
        rw [isBlank_eq_false_of_isWord hWord] at hBlank
        cases hBlank
      · rintro rfl
        exact absurd hBlank (by decide)
    all_goals decide
  have hChain := firstChain?_append hText hOpen hEnd (s.parameters ++ ')' :: rest)
  have hGroup : group? (s.parameters ++ ')' :: rest) = some (s.parameters, rest) :=
    group?_eq_some_iff.mpr ⟨h.parameters, rfl⟩
  rw [← List.append_assoc] at hChain
  rw [h.shape, headText, signatureOf?_of_firstChain? names hChain h.accepts, hGroup,
    ← h.returnType_eq, ← hQualifier]
  rfl

end Signature

/-- The lines that are read are those of the grammar. What is read from a line is written in it, and what
is written in a line is read from it if the text in front of the name ends in a blank or in a sign of a
type. (That text holds no parenthesis, since a return type does not.) -/
theorem signatureOf?_grammar (line : List Char) (s : Signature) :
    (signatureOf? line = some s → ∃ front gap rest, s.WrittenAs front gap rest line) ∧
      ∀ front gap rest, s.WrittenAs front gap rest line → EndsApart front →
        signatureOf? line = some s :=
  ⟨Signature.exists_writtenAs, fun _ _ _ h hApart => h.signatureOf? hApart⟩

/-- A parenthesis between quotation marks does not close the list, and neither does that of an inner call. -/
example :
    signatureOf? "virtual  TArray<int32>& AHero::Fire (int32 N = F(1, \")\"), bool b) const".toList =
      some ⟨"TArray<int32>&".toList, "Fire".toList, "int32 N = F(1, \")\"), bool b".toList,
        "AHero".toList⟩ := by
  decide +kernel

end ProjectAtlas.Source
