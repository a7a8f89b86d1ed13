import ProjectAtlas.Proofs.Source.Header
import ProjectAtlas.Proofs.Source.Layout
import ProjectAtlas.Proofs.Source.Signature

/-!
Reading a header file in its plain form gives back the items that it was written for.

The lines of an item give its entity and no other, whatever lines follow; from this the whole file is read
item by item, with the name of the latest record handed on as the owner.
-/

namespace ProjectAtlas.Source

open ProjectAtlas.Text

/-- The first line below a marker is the first that may be its header. -/
theorem candidates_markerLine {marker : String} (hMarker : IsName marker.toList)
    {specifiers : List String} (h : ∀ s ∈ specifiers, IsPiece s.toList) {window : Nat}
    (hWindow : 0 < window) (number : Nat) {header : List Char} (hNot : isMarker header = false)
    (hComment : isComment header = false) (below : List (List Char)) :
    ∃ others, candidates window number (markerLine marker specifiers) (header :: below) =
      ⟨number + 1, header, below, window - 1⟩ :: others := by
  obtain ⟨w, rfl⟩ : ∃ w, window = w + 1 := ⟨window - 1, by omega⟩
  simp only [candidates, extractSpecifiers_markerLine hMarker h, candidatesBelow, hNot, hComment]
  exact ⟨_, rfl⟩

/-- A record is read from its marker and its header line. -/
theorem readDeclaration?_record (windows : Windows) (hWindow : 0 < windows.declaration)
    (origin : Origin) (owner : String) (number : Nat) {kind : RecordKind} {specifiers : List String}
    {name : String} {parent : Option String}
    (hItem : (Item.record kind specifiers name parent).WellFormed windows) (below : List (List Char)) :
    (readDeclaration? windows origin kind.kind number (markerLine kind.kind.marker specifiers)
        (recordLine kind name parent :: below)).map .declaration =
      some ((Item.record kind specifiers name parent).entity origin owner (number + 1)) := by
  obtain ⟨hSpecifiers, hName, hParent⟩ := hItem
  have hMarker := isName_recordMarker kind
  obtain ⟨others, hCandidates⟩ := candidates_markerLine hMarker hSpecifiers hWindow number
    (isMarker_recordLine kind hName parent) (isComment_recordLine kind name parent) below
  have hTexts : (specifiers.map String.toList).map String.ofList = specifiers := by
    simp
  have hOther : kind.kind ≠ .enumType := by
    cases kind <;> simp [RecordKind.kind]
  simp only [readDeclaration?, hCandidates, List.findSome?_cons,
    headerOf?_recordLine kind hName hParent,
    extractSpecifiers_markerLine hMarker hSpecifiers]
  simp [Item.entity, hTexts, hOther]

/-- The line of an entry lists that entry. -/
theorem lists_valueLine {v : EnumValue} (h : IsEntry v) : Lists (valueLine v) [v] := by
  obtain ⟨name, value⟩ := v
  have hGap : ∀ c ∈ [' '], isBlank c = true := by simp [isBlank]
  cases value with
  | none =>
      refine ⟨[{ name := name.toList }], true, .cons (.bare h.name ?_ ?_) .nil, ?_⟩
      · simp
      · simp
      · simp [valueLine_eq, entryText, entryLine, List.intercalate, WrittenEntry.text,
          WrittenEntry.segments, Segment.text]
  | some n =>
      have hText := integerText_toString (h.value n rfl)
      let assigned : Assigned := { before := [' '], after := [' '], text := (toString n).toList }
      refine ⟨[{ name := name.toList, assigned := some assigned }], true,
        .cons (.valued h.name hText ?_ hGap hGap ?_) .nil, ?_⟩
      · simp
      · simp
      · simp [valueLine_eq, entryText, entryLine, List.intercalate, WrittenEntry.text,
          WrittenEntry.segments, Assigned.segments, Segment.text, assigned]

theorem lists_nil : Lists [] [] :=
  ⟨[], false, .nil, rfl⟩

theorem bodyRows_valueLines {values : List EnumValue} (h : ∀ v ∈ values, IsEntry v) :
    BodyRows (values.map valueLine ++ [['}', ';']]) (values.map ([·]) ++ [[]]) := by
  induction values with
  | nil => exact .last lists_nil [';']
  | cons v values ih =>
      obtain ⟨hFirst, hRest⟩ := List.forall_mem_cons.mp h
      exact .more (lists_valueLine hFirst) (ih hRest)

/-- The entries of an enumeration with each on a line of its own and braces on lines of theirs, if the
window reaches to the last entry. -/
theorem enumEntries_enumLine {name : String} (hName : IsName name.toList) {values : List EnumValue}
    (h : ∀ v ∈ values, IsEntry v) {window : Nat} (hWindow : values = [] ∨ values.length < window)
    (rest : List (List Char)) :
    enumEntries window (enumLine name)
      (['{'] :: (values.map valueLine ++ ['}', ';'] :: rest)) = values := by
  have hHeader : '{' ∉ enumLine name := by
    rw [enumLine_eq]
    simp [hName.not_mem (show isWord '{' = false by decide)]
  have hLayout := Layout.below hHeader (.more lists_nil (bodyRows_valueLines h))
  have hBelow : ['{'] :: (values.map valueLine ++ ['}', ';'] :: rest) =
      ['{'] :: (values.map valueLine ++ [['}', ';']]) ++ rest := by
    simp
  -- the one row that the window may miss is that of the closing brace, and it is empty
  have hBeyond : ∀ vs ∈ ([] :: (values.map ([·]) ++ [[]])).drop window, vs = [] := by
    rcases hWindow with rfl | hReach
    · intro vs hvs
      simpa using List.mem_of_mem_drop hvs
    · have hLength : ([] :: values.map ([·])).length ≤ window := by
        simp only [List.length_cons, List.length_map]
        omega
      rw [← List.cons_append, List.drop_append, List.drop_eq_nil_of_le hLength, List.nil_append]
      intro vs hvs
      exact List.mem_singleton.mp (List.mem_of_mem_drop hvs)
  rw [hBelow, hLayout.enumEntries window rest, flatten_take_eq hBeyond]
  simp [← List.flatMap_def, List.flatMap_singleton']

/-- An enumeration is read from its marker, its header line and its body. -/
theorem readDeclaration?_enumeration (windows : Windows) (hWindow : 0 < windows.declaration)
    (origin : Origin) (owner : String) (number : Nat) {specifiers : List String} {name : String}
    {values : List EnumValue}
    (hItem : (Item.enumeration specifiers name values).WellFormed windows)
    (rest : List (List Char)) :
    (readDeclaration? windows origin .enumType number (markerLine "UENUM" specifiers)
        (enumLine name :: ['{'] :: (values.map valueLine ++ ['}', ';'] :: rest))).map .declaration =
      some ((Item.enumeration specifiers name values).entity origin owner (number + 1)) := by
  obtain ⟨hSpecifiers, hName, hValues, hBody⟩ := hItem
  obtain ⟨others, hCandidates⟩ := candidates_markerLine isName_enumMarker hSpecifiers hWindow number
    (isMarker_enumLine name) (isComment_enumLine name)
    (['{'] :: (values.map valueLine ++ ['}', ';'] :: rest))
  simp only [readDeclaration?, hCandidates, List.findSome?_cons, headerOf?_enumLine hName,
    enumEntries_enumLine hName hValues hBody,
    extractSpecifiers_markerLine isName_enumMarker hSpecifiers]
  simp [Item.entity]

/-- A function is read from its marker and its header line. It belongs to the owner at its place. -/
theorem readCallable?_callable (windows : Windows) (hWindow : 0 < windows.callable)
    (origin : Origin) (owner : String) (number : Nat) {specifiers : List String}
    {returnType name : String} {parameters : List Parameter}
    (hItem : (Item.callable specifiers returnType name parameters).WellFormed windows)
    (below : List (List Char)) :
    (readCallable? windows origin owner number (markerLine "UFUNCTION" specifiers)
        (callableLine returnType name parameters :: below)).map .callable =
      some ((Item.callable specifiers returnType name parameters).entity origin owner
        (number + 1)) := by
  obtain ⟨hSpecifiers, hType, hName, hWord, hParameters⟩ := hItem
  obtain ⟨others, hCandidates⟩ := candidates_markerLine isName_callableMarker hSpecifiers hWindow
    number
    (isMarker_callableLine hType hName parameters) (isComment_callableLine hType parameters) below
  obtain ⟨more, hMore⟩ := exists_joinWrapped (callableLine returnType name parameters)
    (below.take (windows.callable - 1))
  have hSignature := signatureOf?_callableLine hType hName hWord
    (fun p hp => (isPiece_parameterText (hParameters p hp)).inside) more
  simp only [readCallable?, hCandidates, List.findSome?_cons, hMore, hSignature, Option.map_some,
    extractSpecifiers_markerLine isName_callableMarker hSpecifiers]
  rw [parseParameters_listText hParameters]
  simp [Item.entity]

/-- Lines that are no markers are passed over. -/
theorem reflectedFrom_append (windows : Windows) (origin : Origin) (owner : String)
    {ls : List (List Char)} (h : ∀ l ∈ ls, isMarker l = false) (number : Nat)
    (rest : List (List Char)) :
    reflectedFrom windows origin owner number (ls ++ rest) =
      reflectedFrom windows origin owner (number + ls.length) rest := by
  induction ls generalizing number with
  | nil => rfl
  | cons l ls ih =>
      have hNot := h l (by simp)
      simp only [isMarker, Bool.or_eq_false_iff, Option.isSome_eq_false_iff,
        Option.isNone_iff_eq_none] at hNot
      have hNone : readMarker? windows origin owner number l (ls ++ rest) = none := by
        simp [readMarker?, hNot.1, hNot.2]
      rw [List.cons_append, reflectedFrom, hNone]
      simp only
      rw [ih (fun a ha => h a (by simp [ha])), List.length_cons]
      congr 1
      omega

/-- The lines of an item give its entity and nothing else, whatever lines follow. -/
theorem reflectedFrom_item {windows : Windows} (hDeclaration : 0 < windows.declaration)
    (hCallable : 0 < windows.callable) (origin : Origin) (owner : String) (number : Nat) {item : Item}
    (hItem : item.WellFormed windows) (rest : List (List Char)) :
    reflectedFrom windows origin owner number (item.lines ++ rest) =
      item.entity origin owner (number + 1) ::
        reflectedFrom windows origin (item.ownerBelow owner) (number + item.lines.length) rest := by
  cases item with
  | record kind specifiers name parent =>
      have hRead : readMarker? windows origin owner number
          (markerLine kind.kind.marker specifiers)
          (recordLine kind name parent :: ['{'] :: ['}', ';'] :: rest) =
            some ((Item.record kind specifiers name parent).entity origin owner (number + 1)) := by
        rw [readMarker?, typeMarker?_markerLine]
        exact readDeclaration?_record windows hDeclaration origin owner number hItem _
      have hLines : ∀ l ∈ [recordLine kind name parent, ['{'], ['}', ';']], isMarker l = false := by
        simp [isMarker_recordLine kind hItem.2.1, isMarker_brace]
      have hOwner : Reflected.ownerBelow owner
          ((Item.record kind specifiers name parent).entity origin owner (number + 1)) = name := by
        cases kind <;> rfl
      have hRest := reflectedFrom_append windows origin name hLines (number + 1) rest
      simp only [Item.lines, List.cons_append, List.nil_append] at hRest ⊢
      rw [reflectedFrom, hRead]
      simp only [hOwner, hRest]
      rfl
  | enumeration specifiers name values =>
      have hRead : readMarker? windows origin owner number (markerLine "UENUM" specifiers)
          (enumLine name :: ['{'] :: (values.map valueLine ++ ['}', ';'] :: rest)) =
            some ((Item.enumeration specifiers name values).entity origin owner (number + 1)) := by
        rw [readMarker?, typeMarker?_enumMarkerLine]
        exact readDeclaration?_enumeration windows hDeclaration origin owner number hItem rest
      have hLines : ∀ l ∈ enumLine name :: ['{'] :: (values.map valueLine ++ [['}', ';']]),
          isMarker l = false := by
        have hValues : ∀ v ∈ values, isMarker (valueLine v) = false := fun v hv =>
          isMarker_valueLine (hItem.2.2.1 v hv)
        intro l hl
        simp only [List.mem_cons, List.mem_append, List.mem_map, List.not_mem_nil, or_false] at hl
        rcases hl with rfl | rfl | ⟨v, hv, rfl⟩ | rfl
        · exact isMarker_enumLine name
        · exact isMarker_brace.1
        · exact hValues v hv
        · exact isMarker_brace.2
      have hRest := reflectedFrom_append windows origin owner hLines (number + 1) rest
      simp only [Item.lines, List.cons_append, List.append_assoc, List.nil_append] at hRest ⊢
      rw [reflectedFrom, hRead]
      simp only [Reflected.ownerBelow, Item.entity, Item.ownerBelow, if_true, hRest, List.length_cons]
      congr 2
      omega
  | callable specifiers returnType name parameters =>
      have hRead : readMarker? windows origin owner number (markerLine "UFUNCTION" specifiers)
          (callableLine returnType name parameters :: rest) =
            some ((Item.callable specifiers returnType name parameters).entity origin owner
              (number + 1)) := by
        rw [readMarker?, (typeMarker?_callableMarkerLine specifiers).1]
        simp only [(typeMarker?_callableMarkerLine specifiers).2, if_true]
        exact readCallable?_callable windows hCallable origin owner number hItem rest
      have hLines : ∀ l ∈ [callableLine returnType name parameters], isMarker l = false := by
        simp [isMarker_callableLine hItem.2.1 hItem.2.2.1]
      have hRest := reflectedFrom_append windows origin owner hLines (number + 1) rest
      simp only [Item.lines, List.cons_append, List.nil_append] at hRest ⊢
      rw [reflectedFrom, hRead]
      simp only [Reflected.ownerBelow, Item.entity, Item.ownerBelow, hRest]
      rfl

/-- Every line of an item is a line as it stands in the text. -/
theorem isLine_of_mem_lines {windows : Windows} {item : Item} (hItem : item.WellFormed windows)
    {l : List Char} (hl : l ∈ item.lines) : IsLine l := by
  have hOpen : IsLine ['{'] :=
    ⟨by simp, ⟨by simp [isBlank], by simp [isBlank]⟩, by simp [isLineEnd]⟩
  have hClose : IsLine ['}', ';'] :=
    ⟨by simp, ⟨by simp [isBlank], by simp [isBlank]⟩, by simp [isLineEnd]⟩
  cases item with
  | record kind specifiers name parent =>
      obtain ⟨hSpecifiers, hName, hParent⟩ := hItem
      simp only [Item.lines, List.mem_cons, List.not_mem_nil, or_false] at hl
      rcases hl with rfl | rfl | rfl | rfl
      · exact isLine_markerLine (isName_recordMarker kind) hSpecifiers
      · exact isLine_recordLine kind hName hParent
      · exact hOpen
      · exact hClose
  | enumeration specifiers name values =>
      obtain ⟨hSpecifiers, hName, hValues, -⟩ := hItem
      simp only [Item.lines, List.mem_cons, List.mem_append, List.mem_map, List.not_mem_nil,
        or_false] at hl
      rcases hl with rfl | rfl | rfl | ⟨v, hv, rfl⟩ | rfl
      · exact isLine_markerLine (isName_enumMarker) hSpecifiers
      · exact isLine_enumLine hName
      · exact hOpen
      · exact isLine_valueLine (hValues v hv)
      · exact hClose
  | callable specifiers returnType name parameters =>
      obtain ⟨hSpecifiers, hType, hName, -, hParameters⟩ := hItem
      simp only [Item.lines, List.mem_cons, List.not_mem_nil, or_false] at hl
      rcases hl with rfl | rfl
      · exact isLine_markerLine isName_callableMarker hSpecifiers
      · exact isLine_callableLine hType hName hParameters

/-- The lines of items give their entities in order. -/
theorem reflectedFrom_items {windows : Windows} (hDeclaration : 0 < windows.declaration)
    (hCallable : 0 < windows.callable) (origin : Origin) {items : List Item}
    (hItems : ∀ item ∈ items, item.WellFormed windows) (owner : String) (number : Nat) :
    reflectedFrom windows origin owner number (items.flatMap Item.lines) =
      entitiesFrom origin owner number items := by
  induction items generalizing owner number with
  | nil => rfl
  | cons item items ih =>
      rw [List.flatMap_cons,
        reflectedFrom_item hDeclaration hCallable origin owner number (hItems item (by simp)),
        ih fun a ha => hItems a (by simp [ha])]
      rfl

/-- Reading undoes writing: a header file in its plain form gives exactly the entities of its items, in
their order and with the numbers of their header lines, and each function belongs to the latest class,
interface or struct in front of it. -/
theorem reflected_headerText {windows : Windows} (hDeclaration : 0 < windows.declaration)
    (hCallable : 0 < windows.callable) (origin : Origin) {items : List Item}
    (hItems : ∀ item ∈ items, item.WellFormed windows) :
    reflected windows origin (headerText items) = entitiesFrom origin "" 1 items := by
  have hLines : ∀ l ∈ items.flatMap Item.lines, IsLine l := by
    intro l hl
    obtain ⟨item, hMem, hLine⟩ := List.mem_flatMap.mp hl
    exact isLine_of_mem_lines (hItems item hMem) hLine
  rw [reflected, headerText, lines_intercalate hLines, map_trim_eq_self hLines,
    reflectedFrom_items hDeclaration hCallable origin hItems]

/-- A header file with a class, one of its functions and an enumeration. -/
def heroItems : List Item :=
  [.record .classType ["BlueprintType", "meta=(DisplayName=\"A, B\")"] "AHero" (some "AActor"),
    .callable ["BlueprintPure"] "const FVector&" "Aim" [⟨"Speed", "float"⟩],
    .enumeration [] "EMode" [⟨"Idle", none⟩, ⟨"Run", some 4⟩]]

theorem reflected_heroItems :
    (∀ item ∈ heroItems, item.WellFormed {}) ∧
      reflected {} ⟨"Hero.h", none⟩ (headerText heroItems) =
        entitiesFrom ⟨"Hero.h", none⟩ "" 1 heroItems :=
  have hItems : ∀ item ∈ heroItems, item.WellFormed {} := by decide +kernel
  ⟨hItems, reflected_headerText (by decide) (by decide) _ hItems⟩

/-- The names that an item introduces. -/
def Item.names : Item → List String
  | .record _ _ name _ => [name]
  | .enumeration _ name values => name :: values.map EnumValue.name
  | .callable _ _ name parameters => name :: parameters.map Parameter.name

/-- Items that are not read as they were meant, although every name in them is a name. An enumeration may
be longer than the lines that are looked at, a specifier or a type may fall apart at a comma, a quote may
swallow the rest, and a qualifier or a keyword is not taken for what it stands for here. -/
def ambiguousItems : List Item :=
  [.enumeration [] "EStep" ((List.range 50).map fun i => ⟨"Next" ++ toString i, none⟩),
    .record .classType ["Blueprintable, Abstract"] "AHero" none,
    .record .classType [""] "AHero" none,
    .record .classType ["meta=(DisplayName=\"Hero)"] "AHero" none,
    .record .classType [] "AHero" (some "TBase<int>"),
    .callable [] "void" "if" [],
    .callable [] "static void" "Reset" [],
    .callable [] "*" "Reset" [],
    .callable [] "const  float" "Speed" [],
    .callable [] "decltype(x)" "Speed" [],
    .callable [] "void" "SetMap" [⟨"Map", "TMap<FName, float>"⟩],
    .callable [] "void" "SetSpeed" [⟨"Speed", "float="⟩]]

theorem reflected_ambiguousItems :
    (∀ item ∈ ambiguousItems,
      (∀ name ∈ item.names, IsName name.toList) ∧ ∀ l ∈ item.lines, OneLine l) ∧
      ∀ item ∈ ambiguousItems,
        reflected {} ⟨"Hero.h", none⟩ (headerText [item]) ≠
          entitiesFrom ⟨"Hero.h", none⟩ "" 1 [item] := by
  constructor <;> decide +kernel

end ProjectAtlas.Source
