import ProjectAtlas.Proofs.Source.MarkerLine
import ProjectAtlas.Proofs.Source.Wrapping

/-!
How far a marker looks. What it makes is decided by its line and by the lines in its windows, so two texts
that agree there give the same entity at the two places.
-/

namespace ProjectAtlas.Source

open ProjectAtlas.Text

/-- The first find in each of two lists, if what is found at related places is related. -/
theorem findSome?_rel {α β γ δ : Type} {R : α → β → Prop} {S : γ → δ → Prop} {f : α → Option γ}
    {g : β → Option δ} (hFound : ∀ a b, R a b → Option.Rel S (f a) (g b)) {as : List α} {bs : List β}
    (h : List.Forall₂ R as bs) : Option.Rel S (as.findSome? f) (bs.findSome? g) := by
  induction h with
  | nil => exact .none
  | @cons a b as bs hFirst rest ih =>
      have hHere := hFound a b hFirst
      rw [List.findSome?_cons, List.findSome?_cons]
      generalize f a = x at hHere ⊢
      generalize g b = y at hHere ⊢
      cases hHere with
      | some hSome => exact .some hSome
      | none => exact ih

/-- The two candidates are the same text, equally far below the lines `n` and `n'`. The lines below them
agree as far as `reach` lines past the window. -/
structure Candidate.Agree (reach n n' : Nat) (c c' : Candidate) : Prop where
  text : c.text = c'.text
  number : ∃ k, c.number = n + k ∧ c'.number = n' + k
  remaining : c.remaining = c'.remaining
  below : c.below.take (c.remaining + reach) = c'.below.take (c.remaining + reach)

section Candidates

variable {reach : Nat} {ls ls' : List (List Char)} (n n' : Nat)

theorem candidatesBelow_agree {window : Nat}
    (h : ls.take (window + reach) = ls'.take (window + reach)) (k : Nat) :
    List.Forall₂ (Candidate.Agree reach n n') (candidatesBelow window (n + k) ls)
      (candidatesBelow window (n' + k) ls') := by
  -- The window gets smaller line by line, and what it shows of both texts is the same line.
  induction window generalizing ls ls' k with
  | zero => cases ls <;> cases ls' <;> exact .nil
  | succ w ih =>
      rw [Nat.add_right_comm] at h
      cases ls with
      | nil =>
          cases ls' with
          | nil => exact .nil
          | cons line' ls' => cases h
      | cons line ls =>
          cases ls' with
          | nil => cases h
          | cons line' ls' =>
              rw [List.take_succ_cons, List.take_succ_cons, List.cons.injEq] at h
              obtain ⟨rfl, hBelow⟩ := h
              have hRest := ih hBelow (k + 1)
              rw [← Nat.add_assoc, ← Nat.add_assoc] at hRest
              rw [candidatesBelow, candidatesBelow]
              cases isMarker line with
              | true => exact .nil
              | false =>
                  cases isComment line with
                  | true => exact hRest
                  | false => exact .cons ⟨rfl, ⟨k, rfl, rfl⟩, rfl, hBelow⟩ hRest

theorem candidates_agree {window : Nat} (h : ls.take (window + reach) = ls'.take (window + reach))
    (marker : List Char) :
    List.Forall₂ (Candidate.Agree reach n n') (candidates window n marker ls)
      (candidates window n' marker ls') := by
  have hBelow := candidatesBelow_agree n n' h 1
  simp only [candidates]
  split
  · exact hBelow
  · exact .cons ⟨rfl, ⟨0, rfl, rfl⟩, rfl, h⟩ hBelow

end Candidates

/-- What is left of a window of lines does not depend on more of them. -/
theorem take_of_take_add {ls ls' : List (List Char)} {m k : Nat} (h : ls.take (m + k) = ls'.take (m + k)) :
    ls.take m = ls'.take m ∧ ls.take k = ls'.take k := by
  constructor
  · have hLess := congrArg (List.take m) h
    rwa [List.take_take, List.take_take, Nat.min_eq_left (Nat.le_add_right m k)] at hLess
  · have hLess := congrArg (List.take k) h
    rwa [List.take_take, List.take_take, Nat.min_eq_left (Nat.le_add_left k m)] at hLess

/-- A body is read as far as its window. -/
theorem enumEntries_congr {window : Nat} {ls ls' : List (List Char)}
    (h : ls.take window = ls'.take window) (header : List Char) :
    enumEntries window header ls = enumEntries window header ls' := by
  simp only [enumEntries, h]

/-- The same entity, made by the markers below the first `i` and the first `j` lines. Its header is equally far
below its marker, and a function without a qualifier belongs to the owner of the place. -/
inductive Reflected.MovedTo (i j : Nat) (owner owner' : String) : Reflected → Reflected → Prop where
  | declaration {d d' : Declaration} (n : Nat) (hSame : d' = { d with line := d'.line })
      (hLine : d.line = i + n) (hLine' : d'.line = j + n) :
      MovedTo i j owner owner' (.declaration d) (.declaration d')
  | callable {f f' : Callable} (n : Nat) (qualifier : String)
      (hSame : f' = { f with line := f'.line, owner := f'.owner })
      (hLine : f.line = i + n) (hLine' : f'.line = j + n)
      (hOwner : f.owner = if qualifier = "" then owner else qualifier)
      (hOwner' : f'.owner = if qualifier = "" then owner' else qualifier) :
      MovedTo i j owner owner' (.callable f) (.callable f')

section Read

variable (windows : Windows) (origin : Origin) (i j : Nat) (owner owner' : String) (marker : List Char)
  {below below' : List (List Char)}

theorem readDeclaration?_moved (kind : DeclarationKind)
    (h : below.take (windows.declaration + windows.enumBody) =
      below'.take (windows.declaration + windows.enumBody)) :
    Option.Rel (Reflected.MovedTo i j owner owner')
      ((readDeclaration? windows origin kind (i + 1) marker below).map .declaration)
      ((readDeclaration? windows origin kind (j + 1) marker below').map .declaration) := by
  rw [readDeclaration?, readDeclaration?, List.map_findSome?, List.map_findSome?]
  apply findSome?_rel _ (candidates_agree (i + 1) (j + 1) h marker)
  intro c c' hAgree
  obtain ⟨n, hNumber, hNumber'⟩ := hAgree.number
  have hEntries := enumEntries_congr (take_of_take_add hAgree.below).2 c.text
  rw [Function.comp_apply, Function.comp_apply, ← hAgree.text, hEntries]
  cases headerOf? kind c.text with
  | none => exact .none
  | some header =>
      apply Option.Rel.some
      apply Reflected.MovedTo.declaration (1 + n) rfl
      · exact hNumber.trans (Nat.add_assoc i 1 n)
      · exact hNumber'.trans (Nat.add_assoc j 1 n)

theorem owner_callableOf (number : Nat) (s : Signature) :
    (callableOf origin owner marker number s).owner =
      if String.ofList s.qualifier = "" then owner else String.ofList s.qualifier := by
  rw [callableOf]
  cases s.qualifier with
  | nil => rfl
  | cons c cs => simp

theorem readCallable?_moved (h : below.take windows.callable = below'.take windows.callable) :
    Option.Rel (Reflected.MovedTo i j owner owner')
      ((readCallable? windows origin owner (i + 1) marker below).map .callable)
      ((readCallable? windows origin owner' (j + 1) marker below').map .callable) := by
  have hWindow : below.take (windows.callable + 0) = below'.take (windows.callable + 0) := h
  rw [readCallable?, readCallable?, List.map_findSome?, List.map_findSome?]
  apply findSome?_rel _ (candidates_agree (i + 1) (j + 1) hWindow marker)
  intro c c' hAgree
  obtain ⟨n, hNumber, hNumber'⟩ := hAgree.number
  have hBelow := (take_of_take_add hAgree.below).1
  rw [Function.comp_apply, Function.comp_apply, ← hAgree.text, ← hAgree.remaining, ← hBelow]
  cases signatureOf? (joinWrapped c.text (c.below.take c.remaining)) with
  | none => exact .none
  | some s =>
      apply Option.Rel.some
      apply Reflected.MovedTo.callable (1 + n) (String.ofList s.qualifier) rfl
      · exact hNumber.trans (Nat.add_assoc i 1 n)
      · exact hNumber'.trans (Nat.add_assoc j 1 n)
      · exact owner_callableOf origin owner marker c.number s
      · exact owner_callableOf origin owner' marker c'.number s

end Read

/-- The marker of a type makes the same in two texts that agree on the lines of both windows, one below the
other, and the marker of a function in two texts that agree on the lines of its window, but for the owner
that the lines above hand on. And all entities of a text are made by its lines in this way, so that what
a marker makes can change from inside its own window only. -/
theorem entityAt_lookahead (windows : Windows) (origin : Origin) {text text' : List Char}
    {above above' below below' : List (List Char)} {marker : List Char}
    (hText : (lines text).map trim = above ++ marker :: below)
    (hText' : (lines text').map trim = above' ++ marker :: below') :
    ((typeMarker? marker).isSome →
        below.take (windows.declaration + windows.enumBody) =
          below'.take (windows.declaration + windows.enumBody) →
        Option.Rel (Reflected.MovedTo above.length above'.length
            (ownerAt windows origin text above.length) (ownerAt windows origin text' above'.length))
          (entityAt windows origin text above.length)
          (entityAt windows origin text' above'.length)) ∧
      (isCallableMarker marker = true →
        below.take windows.callable = below'.take windows.callable →
        Option.Rel (Reflected.MovedTo above.length above'.length
            (ownerAt windows origin text above.length) (ownerAt windows origin text' above'.length))
          (entityAt windows origin text above.length)
          (entityAt windows origin text' above'.length)) ∧
      reflected windows origin text =
        (List.range (lines text).length).filterMap (entityAt windows origin text) := by
  refine ⟨fun hType hBelow => ?_, fun hMarker hBelow => ?_,
    reflected_eq_filterMap windows origin text⟩
  · obtain ⟨kind, hKind⟩ := Option.isSome_iff_exists.mp hType
    rw [entityAt_of_typeMarker? hText hKind, entityAt_of_typeMarker? hText' hKind]
    exact readDeclaration?_moved windows origin _ _ _ _ marker kind hBelow
  · rw [entityAt_of_isCallableMarker hText hMarker, entityAt_of_isCallableMarker hText' hMarker]
    exact readCallable?_moved windows origin _ _ _ _ marker hBelow

/-- A class and its function. -/
def heroText : List Char :=
  "UCLASS()\nclass AHero \x7b\x7d;\nUFUNCTION()\nvoid Fire(\nint32 N);\nint32 Tail;".toList

/-- The same function with no class above it. -/
def movedText : List Char :=
  "// moved\nUFUNCTION()\nvoid Fire(\nint32 N);\nUCLASS()".toList

/-- The function is the same in both texts, but in the second one it has no owner. -/
theorem entityAt_lookahead_hero :
    let windows : Windows := { callable := 2 }
    let origin : Origin := ⟨"Hero.h", none⟩
    (entityAt windows origin heroText 2).isSome ∧
      Option.Rel (Reflected.MovedTo 2 1 "AHero" "") (entityAt windows origin heroText 2)
        (entityAt windows origin movedText 1) := by
  intro windows origin
  have hText : (lines heroText).map trim =
      ["UCLASS()".toList, "class AHero \x7b\x7d;".toList] ++
        "UFUNCTION()".toList :: ["void Fire(".toList, "int32 N);".toList, "int32 Tail;".toList] := by
    decide +kernel
  have hText' : (lines movedText).map trim = ["// moved".toList] ++
      "UFUNCTION()".toList :: ["void Fire(".toList, "int32 N);".toList, "UCLASS()".toList] := by
    decide +kernel
  have hOwner : ownerAt windows origin heroText 2 = "AHero" := by decide +kernel
  have hOwner' : ownerAt windows origin movedText 1 = "" := by decide +kernel
  have hSame : Option.Rel (Reflected.MovedTo 2 1 (ownerAt windows origin heroText 2)
      (ownerAt windows origin movedText 1)) (entityAt windows origin heroText 2)
        (entityAt windows origin movedText 1) :=
    (entityAt_lookahead windows origin hText hText').2.1 (by decide) (by decide)
  rw [hOwner, hOwner'] at hSame
  exact ⟨by decide +kernel, hSame⟩

end ProjectAtlas.Source
