import ProjectAtlas.Proofs.Source.Grammar
import ProjectAtlas.Proofs.Source.MarkerLine
import ProjectAtlas.Proofs.Source.Wrapping

/-!
Parameter lists that stay open to the end of the window. The header that such a list belongs to is given up,
but the lines of the list are then looked at one by one, and one of them may begin a header of its own.
-/

namespace ProjectAtlas.Source

open ProjectAtlas.Text

/-- The text begins a header, up to the parenthesis in front of `list`. -/
def OpensList (text list : List Char) : Prop :=
  ∃ (s : Signature) (front gap : List Char), s.HeadedBy front gap ∧
    text = s.headText front gap ++ '(' :: list

/-- The text begins a header, and its list is not closed by the end of the window. -/
def Candidate.LeftOpen (c : Candidate) : Prop :=
  ∃ list, OpensList c.text list ∧ NeverCloses ([' '].intercalate (list :: c.below.take c.remaining))

section Header

/-- What is joined to a text comes from the lines below it, in their order. -/
theorem joinWrapped_prefix (cs : List Char) (below : List (List Char)) :
    joinWrapped cs below <+: [' '].intercalate (cs :: below) := by
  induction below generalizing cs with
  | nil => simp [joinWrapped]
  | cons line below ih =>
      rw [joinWrapped]
      split
      · have hJoin : [' '].intercalate (cs :: line :: below) =
            [' '].intercalate ((cs ++ ' ' :: line) :: below) := by
          cases below <;> simp [List.intercalate_cons_cons]
        rw [hJoin]
        exact ih (cs ++ ' ' :: line)
      · rw [List.intercalate_cons_of_ne_nil (List.cons_ne_nil line below), List.append_assoc]
        exact List.prefix_append _ _

/-- A line that is read begins a header by itself, before others are joined to it. -/
theorem exists_opensList {cs : List Char} {below : List (List Char)}
    (h : (signatureOf? (joinWrapped cs below)).isSome) : ∃ list, OpensList cs list := by
  obtain ⟨s, hRead⟩ := Option.isSome_iff_exists.mp h
  obtain ⟨front, gap, rest, hWritten⟩ := Signature.exists_writtenAs hRead
  have hShape := hWritten.shape
  by_cases hOpen : '(' ∈ cs
  · obtain ⟨u, t, rfl, hNot⟩ := List.eq_append_cons_of_mem hOpen
    obtain ⟨more, hMore⟩ := exists_joinWrapped (u ++ '(' :: t) below
    rw [hMore, List.append_assoc, List.cons_append] at hShape
    obtain ⟨rfl, -⟩ := eq_of_append_cons_eq hNot hWritten.not_open hShape
    exact ⟨t, s, front, gap, hWritten.toHeadedBy, rfl⟩
  · -- Without a parenthesis the line is not open, so that nothing is joined to it.
    have hSame : joinWrapped cs below = cs := by
      cases below with
      | nil => rfl
      | cons line below => simp [joinWrapped, isOpen, List.count_eq_zero_of_not_mem hOpen]
    rw [hSame] at hShape
    rw [hShape] at hOpen
    exact absurd (by simp) hOpen

/-- A header whose list is not closed is not read. -/
theorem Candidate.LeftOpen.signatureOf? {c : Candidate} (h : c.LeftOpen) :
    signatureOf? (joinWrapped c.text (c.below.take c.remaining)) = none := by
  obtain ⟨list, ⟨s, front, gap, hHead, hText⟩, hNever⟩ := h
  cases hRead : Source.signatureOf? (joinWrapped c.text (c.below.take c.remaining)) with
  | none => rfl
  | some s' =>
      obtain ⟨u, after, rest, hShape, hOpen, -, -, hGroup, -⟩ := exists_open_of_signatureOf? hRead
      obtain ⟨hBalanced, rfl⟩ := group?_eq_some_iff.mp hGroup
      obtain ⟨more, hJoined⟩ := joinWrapped_prefix c.text (c.below.take c.remaining)
      have hFirst : [' '].intercalate (c.text :: c.below.take c.remaining) =
          s.headText front gap ++ '(' :: [' '].intercalate (list :: c.below.take c.remaining) := by
        rw [hText]
        cases c.below.take c.remaining <;> simp [List.intercalate]
      rw [hShape, hFirst, List.append_assoc, List.cons_append] at hJoined
      obtain ⟨-, hList⟩ := eq_of_append_cons_eq hOpen hHead.not_open hJoined
      refine absurd ?_ (hNever s'.parameters (rest ++ more) hBalanced)
      rw [← hList, List.append_assoc]
      rfl

/-- A line does not begin a header if in front of its first parenthesis something stands that no return type
holds, like the equals sign of a default value. -/
theorem not_opensList {front rest list : List Char} (hOpen : '(' ∉ front) {c : Char} (hc : c ∈ front)
    (hOther : isTypeChar c = false) : ¬OpensList (front ++ '(' :: rest) list := by
  rintro ⟨s, head, gap, hHead, hShape⟩
  obtain ⟨rfl, -⟩ := eq_of_append_cons_eq hOpen hHead.not_open hShape
  rw [hHead.isTypeChar c hc] at hOther
  cases hOther

end Header

/-- A function whose parameter list is not closed by the end of the window is not read from its own header.
Its marker makes nothing exactly if no later text of the window is read as a header; so it makes nothing if
none of them begins one. -/
theorem entityAt_leftOpen (windows : Windows) (origin : Origin) {text : List Char}
    {above below : List (List Char)} {marker : List Char}
    (hText : (lines text).map trim = above ++ marker :: below)
    (hMarker : isCallableMarker marker = true) {c : Candidate} {later : List Candidate}
    (hFirst : candidates windows.callable (above.length + 1) marker below = c :: later)
    (hOpen : c.LeftOpen) :
    (entityAt windows origin text above.length = none ↔
        ∀ d ∈ later, signatureOf? (joinWrapped d.text (d.below.take d.remaining)) = none) ∧
      ((∀ d ∈ later, ∀ list, ¬OpensList d.text list) →
        entityAt windows origin text above.length = none) := by
  have hIff : entityAt windows origin text above.length = none ↔
      ∀ d ∈ later, signatureOf? (joinWrapped d.text (d.below.take d.remaining)) = none := by
    rw [entityAt_of_isCallableMarker hText hMarker, Option.map_eq_none_iff, readCallable?, hFirst,
      List.findSome?_cons, hOpen.signatureOf?]
    simp
  refine ⟨hIff, fun hNone => hIff.mpr fun d hd => ?_⟩
  cases hRead : signatureOf? (joinWrapped d.text (d.below.take d.remaining)) with
  | none => rfl
  | some s =>
      obtain ⟨list, hList⟩ := exists_opensList (Option.isSome_of_eq_some hRead)
      exact absurd hList (hNone d hd list)

/-- The head of a function without a qualifier that returns nothing. -/
theorem headedBy_void {name : List Char} (hName : IsName name) (hWord : name ∉ statementWords) :
    (⟨"void".toList, name, [], []⟩ : Signature).HeadedBy "void ".toList [] where
  words := ⟨[], ["void".toList], by decide, by simp, by decide, rfl⟩
  hasType := show "void".toList ≠ [] by decide
  typeChars := show ∀ c ∈ "void".toList, isTypeChar c = true by decide
  qualifier := ⟨[], by simp, rfl⟩
  name := hName
  notStatement := hWord
  blankGap := by simp

/-- The header of a function with three parameters, the second of them with a default value. -/
def fireHeader : List String :=
  ["void Fire(FVector Start,", "FVector End = FVector(0, 1),", "bool bLoud);"]

/-- In a window of two lines the list of this function is left open, and the default value in it is not taken
for another function. -/
theorem entityAt_leftOpen_fire :
    ∃ c later, candidates 2 1 "UFUNCTION()".toList (fireHeader.map String.toList) = c :: later ∧
      c.LeftOpen ∧ entityAt { callable := 2 } ⟨"Fire.h", none⟩ (logText fireHeader) 0 = none := by
  let first : Candidate := ⟨2, "void Fire(FVector Start,".toList,
    ["FVector End = FVector(0, 1),".toList, "bool bLoud);".toList], 1⟩
  let second : Candidate := ⟨3, "FVector End = FVector(0, 1),".toList, ["bool bLoud);".toList], 0⟩
  have hText : (lines (logText fireHeader)).map trim =
      [] ++ "UFUNCTION()".toList :: fireHeader.map String.toList := by
    decide +kernel
  have hFirst : candidates 2 1 "UFUNCTION()".toList (fireHeader.map String.toList) =
      [first, second] := by
    decide +kernel
  have hHead := headedBy_void (show IsName "Fire".toList by decide) (by decide)
  have hOpen : first.LeftOpen :=
    ⟨"FVector Start,".toList, ⟨_, _, _, hHead, by decide⟩, neverCloses_of_group? (by decide)⟩
  have hSecond : ∀ list, ¬OpensList second.text list := fun list =>
    not_opensList (show '(' ∉ "FVector End = FVector".toList by decide) (show '=' ∈ _ by decide)
      (by decide)
  have hNone := (entityAt_leftOpen { callable := 2 } ⟨"Fire.h", none⟩ hText (by decide) hFirst
    hOpen).2 (by simpa using hSecond)
  exact ⟨first, [second], hFirst, hOpen, hNone⟩

/-- The header of a function with six parameters, one on each line. -/
def loadHeader : List String :=
  ["void Load(const FString& Path,", "TFunction<void(bool)> Done,", "int32 Retries,",
    "float Delay,", "bool bAsync,", "bool bLoud);"]

/-- A line of the open list that reads as a header makes a function: here the type of a parameter, which is
a function itself. -/
theorem leftOpen_parameter_read :
    ∃ c later, candidates 5 1 "UFUNCTION()".toList (loadHeader.map String.toList) = c :: later ∧
      c.LeftOpen ∧
        entityAt {} ⟨"Load.h", none⟩ (logText loadHeader) 0 =
          some (.callable
            { name := "void", owner := "", returnType := "TFunction<",
              parameters := [⟨"", "bool"⟩], specifiers := [], file := "Load.h", line := 3,
              module := none, blueprintCallable := false }) := by
  refine ⟨⟨2, "void Load(const FString& Path,".toList, loadHeader.tail.map String.toList, 4⟩,
    (candidates 5 1 "UFUNCTION()".toList (loadHeader.map String.toList)).tail, by decide +kernel,
    ?_, by decide +kernel⟩
  have hHead := headedBy_void (show IsName "Load".toList by decide) (by decide)
  exact ⟨"const FString& Path,".toList, ⟨_, _, _, hHead, by decide⟩,
    neverCloses_of_group? (by decide)⟩

end ProjectAtlas.Source
