import ProjectAtlas.Proofs.Source.Nesting
import ProjectAtlas.Proofs.Text.Word
import ProjectAtlas.Source.Classifier

/-!
Header files in their plain form: what is written for each declared type and function, and the entities
that a reader should find there.
-/

namespace ProjectAtlas.Source

open ProjectAtlas.Text

/-- The kinds of types that have a base and own functions. -/
inductive RecordKind
  | classType
  | interfaceType
  | structType
deriving DecidableEq, Repr

/-- The kind among all kinds of declarations. -/
def RecordKind.kind : RecordKind → DeclarationKind
  | .classType => .classType
  | .interfaceType => .interfaceType
  | .structType => .structType

/-- The keyword of the header line. -/
def RecordKind.keyword : RecordKind → String
  | .classType | .interfaceType => "class"
  | .structType => "struct"

/-- One thing that a header file declares. -/
inductive Item
  | record (kind : RecordKind) (specifiers : List String) (name : String) (parent : Option String)
  | enumeration (specifiers : List String) (name : String) (values : List EnumValue)
  | callable (specifiers : List String) (returnType name : String) (parameters : List Parameter)
deriving DecidableEq, Repr

/-- A marker with its specifiers. -/
def markerLine (marker : String) (specifiers : List String) : List Char :=
  marker.toList ++ '(' :: listText (specifiers.map String.toList) ++ [')']

/-- What stands behind the name of a class, an interface or a struct. -/
def parentClause (parent : Option String) : List Char :=
  parent.elim [] fun p => " : public ".toList ++ p.toList

theorem parentClause_some (p : String) :
    parentClause (some p) = ' ' :: ':' :: ' ' :: ("public".toList ++ ' ' :: p.toList) := by
  change " : public ".toList ++ p.toList = _
  simp

/-- The header line of a class, an interface or a struct. -/
def recordLine (kind : RecordKind) (name : String) (parent : Option String) : List Char :=
  kind.keyword.toList ++ ' ' :: (name.toList ++ parentClause parent)

/-- The header line of an enumeration. -/
def enumLine (name : String) : List Char :=
  "enum class ".toList ++ (name.toList ++ " : uint8".toList)

theorem enumLine_eq (name : String) :
    enumLine name =
      "enum".toList ++ ' ' :: ("class".toList ++ ' ' :: (name.toList ++ " : uint8".toList)) := by
  change "enum class ".toList ++ (name.toList ++ " : uint8".toList) = _
  simp

theorem enumLine_eq_append (name : String) :
    enumLine name =
      "enum".toList ++ ' ' :: ("class".toList ++ ' ' :: name.toList) ++ " : uint8".toList := by
  rw [enumLine_eq]
  simp only [List.append_assoc, List.cons_append]

/-- The line of an entry of an enumeration. -/
def valueLine (v : EnumValue) : List Char :=
  v.name.toList ++ (v.value.elim [] fun n => " = ".toList ++ (toString n).toList) ++ [',']

/-- The text of a parameter. -/
def parameterText (p : Parameter) : List Char :=
  p.type.toList ++ ' ' :: p.name.toList

theorem parameterText_eq (p : Parameter) :
    parameterText p = p.type.toList ++ [' '] ++ p.name.toList := by
  simp [parameterText]

/-- The header line of a function. -/
def callableLine (returnType name : String) (parameters : List Parameter) : List Char :=
  returnType.toList ++ ' ' :: name.toList ++ '(' :: listText (parameters.map parameterText) ++
    [')', ';']

theorem callableLine_eq (returnType name : String) (parameters : List Parameter) :
    callableLine returnType name parameters =
      returnType.toList ++ ' ' :: (name.toList ++
        '(' :: (listText (parameters.map parameterText) ++ [')', ';'])) := by
  simp [callableLine]

namespace Item

/-- The lines that declare an item. -/
def lines : Item → List (List Char)
  | record kind specifiers name parent =>
      [markerLine kind.kind.marker specifiers, recordLine kind name parent, ['{'], ['}', ';']]
  | enumeration specifiers name values =>
      markerLine "UENUM" specifiers :: enumLine name :: ['{'] ::
        (values.map valueLine ++ [['}', ';']])
  | callable specifiers returnType name parameters =>
      [markerLine "UFUNCTION" specifiers, callableLine returnType name parameters]

/-- The entity of an item. Its header line has the given number, and `owner` is the name that functions
at its place belong to. -/
def entity (origin : Origin) (owner : String) (number : Nat) : Item → Reflected
  | record kind specifiers name parent => .declaration
      { name, parent, specifiers
        kind := kind.kind
        file := origin.file
        line := number
        module := origin.module
        blueprintType := specifiers.contains "BlueprintType"
        blueprintable := specifiers.contains "Blueprintable" }
  | enumeration specifiers name values => .declaration
      { name, specifiers, values
        kind := .enumType
        parent := none
        file := origin.file
        line := number
        module := origin.module
        blueprintType := specifiers.contains "BlueprintType"
        blueprintable := specifiers.contains "Blueprintable" }
  | callable specifiers returnType name parameters => .callable
      { name, owner, returnType, parameters, specifiers
        file := origin.file
        line := number
        module := origin.module
        blueprintCallable :=
          specifiers.contains "BlueprintCallable" || specifiers.contains "BlueprintPure" }

/-- The name that functions below an item belong to. -/
def ownerBelow (owner : String) : Item → String
  | record _ _ name _ => name
  | enumeration _ _ _ | callable _ _ _ _ => owner

end Item

/-- The text of a header file: the lines of its items, one after the other. -/
def headerText (items : List Item) : List Char :=
  ['\n'].intercalate (items.flatMap Item.lines)

/-- The entities of items, the first of which begins at the line with this number. -/
def entitiesFrom (origin : Origin) (owner : String) (number : Nat) : List Item → List Reflected
  | [] => []
  | item :: items =>
      item.entity origin owner (number + 1) ::
        entitiesFrom origin (item.ownerBelow owner) (number + item.lines.length) items

/-- A return type that is kept as it is written: one blank between words, and a first word that is no
qualifier and does not begin like a comment. -/
structure IsReturnType (cs : List Char) : Prop where
  typeChars : ∀ c ∈ cs, isTypeChar c = true
  spaced : [' '].intercalate (words cs) = cs
  first : ∃ w ∈ (words cs).head?, w ∉ leadingQualifiers ∧ w.head? ≠ some '*'

instance (cs : List Char) : Decidable (IsReturnType cs) :=
  decidable_of_iff
    ((∀ c ∈ cs, isTypeChar c = true) ∧ [' '].intercalate (words cs) = cs ∧
      ∃ w ∈ (words cs).head?, w ∉ leadingQualifiers ∧ w.head? ≠ some '*')
    ⟨fun ⟨hChars, hSpaced, hFirst⟩ => ⟨hChars, hSpaced, hFirst⟩,
      fun ⟨hChars, hSpaced, hFirst⟩ => ⟨hChars, hSpaced, hFirst⟩⟩

/-- A parameter that is kept as it is written: its type is a piece without a default value. -/
structure IsParameter (p : Parameter) : Prop where
  type : IsPiece p.type.toList
  noDefault : '=' ∉ p.type.toList
  name : IsName p.name.toList

instance (p : Parameter) : Decidable (IsParameter p) :=
  decidable_of_iff (IsPiece p.type.toList ∧ '=' ∉ p.type.toList ∧ IsName p.name.toList)
    ⟨fun ⟨hType, hDefault, hName⟩ => ⟨hType, hDefault, hName⟩,
      fun ⟨hType, hDefault, hName⟩ => ⟨hType, hDefault, hName⟩⟩

/-- An entry of an enumeration that is kept as it is written. -/
structure IsEntry (v : EnumValue) : Prop where
  name : IsName v.name.toList
  value : ∀ n ∈ v.value, isTooLong n = false

instance (v : EnumValue) : Decidable (IsEntry v) :=
  decidable_of_iff (IsName v.name.toList ∧ ∀ n ∈ v.value, isTooLong n = false)
    ⟨fun ⟨hName, hValue⟩ => ⟨hName, hValue⟩, fun ⟨hName, hValue⟩ => ⟨hName, hValue⟩⟩

/-- A base that is kept as it is written. -/
structure IsBase (p : String) : Prop where
  ne_empty : p ≠ ""
  baseChars : ∀ c ∈ p.toList, isBaseChar c = true

instance (p : String) : Decidable (IsBase p) :=
  decidable_of_iff (p ≠ "" ∧ ∀ c ∈ p.toList, isBaseChar c = true)
    ⟨fun ⟨hSome, hChars⟩ => ⟨hSome, hChars⟩, fun ⟨hSome, hChars⟩ => ⟨hSome, hChars⟩⟩

/-- An item whose lines say what it is. -/
def Item.WellFormed (windows : Windows) : Item → Prop
  | record _ specifiers name parent =>
      (∀ s ∈ specifiers, IsPiece s.toList) ∧ IsName name.toList ∧
        ∀ p ∈ parent, IsBase p
  | enumeration specifiers name values =>
      (∀ s ∈ specifiers, IsPiece s.toList) ∧ IsName name.toList ∧ (∀ v ∈ values, IsEntry v) ∧
        (values = [] ∨ values.length < windows.enumBody)
  | callable specifiers returnType name parameters =>
      (∀ s ∈ specifiers, IsPiece s.toList) ∧ IsReturnType returnType.toList ∧
        IsName name.toList ∧ name.toList ∉ statementWords ∧ ∀ p ∈ parameters, IsParameter p

instance (windows : Windows) (item : Item) : Decidable (item.WellFormed windows) := by
  cases item <;> exact inferInstanceAs (Decidable (_ ∧ _))

end ProjectAtlas.Source
