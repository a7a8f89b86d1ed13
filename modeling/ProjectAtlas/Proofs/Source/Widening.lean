import ProjectAtlas.Proofs.Source.EnumBody
import ProjectAtlas.Proofs.Source.Lookahead

/-!
Larger windows. What a marker of a type makes in small windows it makes in larger ones too, and an
enumeration can only get more values at the end of its list.
-/

namespace ProjectAtlas.Source

open ProjectAtlas.Text

/-- The same declaration, with more values behind those of an enumeration. -/
structure Widened (d d' : Declaration) : Prop where
  same : d' = { d with values := d'.values }
  values : d.values <+: d'.values
  other : d.kind ≠ .enumType → d'.values = d.values

/-- The same place, with other limits on the lines below it. -/
structure Candidate.SamePlace (c c' : Candidate) : Prop where
  number : c.number = c'.number
  text : c.text = c'.text
  below : c.below = c'.below

/-- What is found first in one list is found first in a longer one that begins with related places. -/
theorem findSome?_append_rel {α β γ δ : Type} {R : α → β → Prop} {S : γ → δ → Prop}
    {f : α → Option γ} {g : β → Option δ} (hFound : ∀ a b, R a b → Option.Rel S (f a) (g b))
    {as : List α} {bs : List β} (h : List.Forall₂ R as bs) {x : γ} (hSome : as.findSome? f = some x)
    (more : List β) : ∃ y, (bs ++ more).findSome? g = some y ∧ S x y := by
  have hRel := findSome?_rel hFound h
  rw [hSome] at hRel
  rw [List.findSome?_append]
  generalize bs.findSome? g = y at hRel ⊢
  cases hRel with
  | some hRelated => exact ⟨_, rfl, hRelated⟩

section Candidates

variable {window window' : Nat}

theorem candidatesBelow_widened (h : window ≤ window') (number : Nat) (ls : List (List Char)) :
    ∃ front back, candidatesBelow window' number ls = front ++ back ∧
      List.Forall₂ Candidate.SamePlace (candidatesBelow window number ls) front := by
  induction ls generalizing window window' number with
  | nil =>
      rw [candidatesBelow, candidatesBelow]
      exact ⟨[], [], rfl, .nil⟩
  | cons line ls ih =>
      cases window with
      | zero => exact ⟨[], _, rfl, .nil⟩
      | succ w =>
          obtain ⟨w', rfl⟩ : ∃ w', window' = w' + 1 := ⟨window' - 1, by omega⟩
          obtain ⟨front, back, hSplit, hSame⟩ := ih (Nat.le_of_succ_le_succ h) (number + 1)
          rw [candidatesBelow, candidatesBelow, hSplit]
          cases isMarker line with
          | true => exact ⟨[], [], rfl, .nil⟩
          | false =>
              cases isComment line with
              | true => exact ⟨front, back, rfl, hSame⟩
              | false => exact ⟨_ :: front, back, rfl, .cons ⟨rfl, rfl, rfl⟩ hSame⟩

theorem candidates_widened (h : window ≤ window') (number : Nat) (marker : List Char)
    (ls : List (List Char)) :
    ∃ front back, candidates window' number marker ls = front ++ back ∧
      List.Forall₂ Candidate.SamePlace (candidates window number marker ls) front := by
  obtain ⟨front, back, hSplit, hSame⟩ := candidatesBelow_widened h (number + 1) ls
  simp only [candidates, hSplit]
  split
  · exact ⟨front, back, rfl, hSame⟩
  · exact ⟨_ :: front, back, rfl, .cons ⟨rfl, rfl, rfl⟩ hSame⟩

end Candidates

section Values

/-- The lines of a body give their entries from the first on. -/
theorem bodyEntries_prefix {ls ls' : List (List Char)} (h : ls <+: ls') :
    bodyEntries ls <+: bodyEntries ls' := by
  obtain ⟨more, rfl⟩ := h
  induction ls with
  | nil => exact List.nil_prefix
  | cons line ls ih =>
      rw [List.cons_append, bodyEntries_cons_eq, bodyEntries_cons_eq line (ls ++ more)]
      apply (List.prefix_append_right_inj _).mpr
      split
      · exact List.nil_prefix
      · exact ih

theorem enumEntries_widened {window window' : Nat} (h : window ≤ window') (header : List Char)
    (ls : List (List Char)) :
    enumEntries window header ls <+: enumEntries window' header ls := by
  have hBody := bodyEntries_prefix (List.take_prefix_take_left h (l := ls))
  rw [enumEntries, enumEntries]
  split
  · exact hBody
  · simp only
    split
    · exact List.prefix_rfl
    · exact (List.prefix_append_right_inj _).mpr hBody

end Values

section Read

variable {windows windows' : Windows}

theorem readDeclaration?_widened (hDeclaration : windows.declaration ≤ windows'.declaration)
    (hBody : windows.enumBody ≤ windows'.enumBody) (origin : Origin) {kind : DeclarationKind}
    {number : Nat} {marker : List Char} {below : List (List Char)} {d : Declaration}
    (h : readDeclaration? windows origin kind number marker below = some d) :
    ∃ d', readDeclaration? windows' origin kind number marker below = some d' ∧ Widened d d' := by
  obtain ⟨front, back, hSplit, hSame⟩ := candidates_widened hDeclaration number marker below
  rw [readDeclaration?] at h ⊢
  rw [hSplit]
  -- The first header in the small window is the first one among the same lines of the large window.
  apply findSome?_append_rel _ hSame h back
  intro c c' hPlace
  rw [hPlace.text, hPlace.number, hPlace.below]
  cases headerOf? kind c'.text with
  | none => exact .none
  | some header =>
      apply Option.Rel.some
      constructor
      · rfl
      · by_cases hEnum : kind = .enumType
        · simpa [hEnum] using enumEntries_widened hBody c'.text c'.below
        · simp [hEnum]
      · intro hOther
        simp only [if_neg hOther]

end Read

section Text

variable {windows windows' : Windows} {origin : Origin} {text : List Char}

theorem entityAt_widened (hDeclaration : windows.declaration ≤ windows'.declaration)
    (hBody : windows.enumBody ≤ windows'.enumBody) {i : Nat} {d : Declaration}
    (h : entityAt windows origin text i = some (.declaration d)) :
    ∃ d', entityAt windows' origin text i = some (.declaration d') ∧ Widened d d' := by
  obtain ⟨above, marker, below, hText, rfl, hKind, hRead⟩ := exists_marker_of_declaration h
  obtain ⟨d', hRead', hWidened⟩ := readDeclaration?_widened hDeclaration hBody origin hRead
  refine ⟨d', ?_, hWidened⟩
  rw [entityAt_of_typeMarker? hText hKind, hRead']
  rfl

/-- What is kept of one list line by line is in the other too, in the same order. -/
theorem sublistForall₂_filterMap {α β γ : Type} {R : β → γ → Prop} {f : α → Option β}
    {g : α → Option γ} (h : ∀ a, ∀ b ∈ f a, ∃ c ∈ g a, R b c) (as : List α) :
    List.SublistForall₂ R (as.filterMap f) (as.filterMap g) := by
  induction as with
  | nil => exact .nil
  | cons a as ih =>
      rw [List.filterMap_cons, List.filterMap_cons]
      cases hFirst : f a with
      | none =>
          cases g a with
          | none => exact ih
          | some c => exact .cons_right ih
      | some b =>
          obtain ⟨c, hc, hRelated⟩ := h a b hFirst
          rw [Option.mem_def.mp hc]
          exact .cons hRelated ih

end Text

/-- Larger windows only add. Every marker of a type that makes a declaration in smaller windows makes the
same one in larger windows, but for more values at the end of an enumeration; so the declarations of the
smaller windows are, up to these values, found in their order among those of the larger ones. -/
theorem declarations_widened {windows windows' : Windows}
    (hDeclaration : windows.declaration ≤ windows'.declaration)
    (hBody : windows.enumBody ≤ windows'.enumBody) (origin : Origin) (text : List Char) :
    (∀ i d, entityAt windows origin text i = some (.declaration d) →
        ∃ d', entityAt windows' origin text i = some (.declaration d') ∧ Widened d d') ∧
      List.SublistForall₂ Widened (declarationsOf (reflected windows origin text))
        (declarationsOf (reflected windows' origin text)) := by
  refine ⟨fun i d => entityAt_widened hDeclaration hBody, ?_⟩
  rw [reflected_eq_filterMap, reflected_eq_filterMap, declarationsOf, declarationsOf,
    List.filterMap_filterMap, List.filterMap_filterMap]
  apply sublistForall₂_filterMap
  intro i d hd
  obtain ⟨r, hr, hKept⟩ := Option.bind_eq_some_iff.mp hd
  cases r with
  | callable f => cases hKept
  | declaration e =>
      cases hKept
      obtain ⟨d', hd', hWidened⟩ := entityAt_widened hDeclaration hBody hr
      exact ⟨d', by rw [hd']; rfl, hWidened⟩

/-- An enumeration, and a class three lines below its marker. -/
def lateText : List Char :=
  ("UENUM()\nenum class EStep \x7b\nIdle,\nRun, Jump \x7d;\n" ++
    "UCLASS()\n// late\n// later\nclass ALate \x7b\x7d;").toList

/-- The larger windows add two values and the class. -/
theorem declarations_widened_late :
    let read (windows : Windows) := declarationsOf (reflected windows ⟨"Late.h", none⟩ lateText)
    let narrow : Windows := { declaration := 2, enumBody := 1 }
    let wide : Windows := { declaration := 3, enumBody := 2 }
    (read narrow).map (fun d => (d.name, d.values.map (·.name))) = [("EStep", ["Idle"])] ∧
      (read wide).map (fun d => (d.name, d.values.map (·.name))) =
        [("EStep", ["Idle", "Run", "Jump"]), ("ALate", [])] ∧
        List.SublistForall₂ Widened (read narrow) (read wide) := by
  intro read narrow wide
  have hDeclaration : narrow.declaration ≤ wide.declaration := by decide
  have hBody : narrow.enumBody ≤ wide.enumBody := by decide
  refine ⟨by decide +kernel, by decide +kernel, ?_⟩
  exact (declarations_widened hDeclaration hBody ⟨"Late.h", none⟩ lateText).2

end ProjectAtlas.Source
