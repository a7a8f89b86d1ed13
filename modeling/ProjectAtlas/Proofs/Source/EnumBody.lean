import ProjectAtlas.Proofs.Source.Marker
import ProjectAtlas.Proofs.Text.Integer

/-!
Entries of enumerations and the lines of their bodies: a line is read for itself, as far as the closing
brace, and an entry is read again with its value.
-/

namespace ProjectAtlas.Source

open ProjectAtlas.Text

/-- A text without parentheses has no annotations. -/
theorem dropMeta_eq_self {cs : List Char} (h : '(' ∉ cs) : dropMeta cs = cs := by
  have hMeta : ∀ ds : List Char, '(' ∉ ds → afterMeta? ds = none := by
    intro ds hds
    unfold afterMeta?
    split
    · split
      · rename_i r hOpen
        have hMem : '(' ∈ trimStart (ds.drop 5) := by simp [hOpen]
        exact absurd (List.mem_of_mem_drop ((List.dropWhile_suffix isBlank).mem hMem)) hds
      · rfl
    · rfl
  rw [dropMeta]
  induction cs with
  | nil => rfl
  | cons c cs ih =>
      rw [dropMetaFrom, hMeta _ h]
      simp only
      rw [ih fun hMem => h (by simp [hMem])]

/-- The text of an entry, without the comma behind it. -/
def entryText (v : EnumValue) : List Char :=
  v.name.toList ++ v.value.elim [] fun n => ' ' :: '=' :: ' ' :: (toString n).toList

theorem valueLine_eq (v : EnumValue) : valueLine v = entryText v ++ [','] := by
  obtain ⟨name, value⟩ := v
  cases value with
  | none => rfl
  | some n =>
      change name.toList ++ (" = ".toList ++ (toString n).toList) ++ [','] = _
      simp [entryText]

/-- The characters of an entry. -/
theorem mem_entryText {v : EnumValue} (h : IsEntry v) {c : Char} (hc : c ∈ entryText v) :
    isWord c = true ∨ c = ' ' ∨ c = '=' ∨ c = '-' := by
  rcases List.mem_append.mp hc with hName | hValue
  · exact .inl (h.name.isWord c hName)
  · cases hSome : v.value with
    | none => simp [hSome] at hValue
    | some n =>
        simp only [hSome, Option.elim_some, List.mem_cons] at hValue
        rcases hValue with rfl | rfl | rfl | hNumber
        · simp
        · simp
        · simp
        · rcases mem_toString hNumber with hDigit | rfl
          · exact .inl (isWord_of_isDigit hDigit)
          · simp

/-- A name with a value is read as such, whatever blanks stand around the equals sign. -/
theorem entryOf?_assigned {name gap after text : List Char} (hName : IsName name)
    (hGap : ∀ c ∈ gap, isBlank c = true) (hAfter : ∀ c ∈ after, isBlank c = true)
    (hSome : text ≠ []) (hTrimmed : IsTrimmed text) (hLine : '\n' ∉ text) :
    entryOf? (name ++ (gap ++ '=' :: (after ++ text))) =
      some ⟨String.ofList name, readLiteral? text⟩ := by
  have hNext := isWord_head?_append hGap (show isWord '=' = false by decide) (after ++ text)
  have hEquals : trimStart (gap ++ '=' :: (after ++ text)) = '=' :: (after ++ text) := by
    rw [trimStart, List.dropWhile_append_of_pos hGap]
    rfl
  have hValue : trimStart (after ++ text) = text := by
    rw [trimStart, List.dropWhile_append_of_pos hAfter]
    exact trimStart_eq_self hTrimmed.first
  simp only [entryOf?, hName.ident?_append hNext, hEquals, hValue, hTrimmed.trim]
  simp [hSome, hLine]

theorem entryOf?_name {name : List Char} (hName : IsName name) :
    entryOf? name = some ⟨String.ofList name, none⟩ := by
  have hIdent := hName.ident?_append (t := []) (by simp)
  rw [List.append_nil] at hIdent
  simp only [entryOf?, hIdent]
  rfl

theorem entryText_ne_nil {v : EnumValue} (h : IsEntry v) : entryText v ≠ [] := by
  simp [entryText, h.name.ne_nil]

theorem isTrimmed_entryText {v : EnumValue} (h : IsEntry v) : IsTrimmed (entryText v) := by
  have hFirst : ∀ c ∈ v.name.toList.head?, isBlank c = false := fun c hc =>
    h.name.not_blank c (List.mem_of_mem_head? hc)
  cases hSome : v.value with
  | none =>
      have hShape : entryText v = v.name.toList := by simp [entryText, hSome]
      rw [hShape]
      exact ⟨hFirst, fun c hc => h.name.not_blank c (List.mem_of_mem_getLast? hc)⟩
  | some n =>
      have hShape : entryText v = v.name.toList ++ [' ', '=', ' '] ++ (toString n).toList := by
        simp [entryText, hSome]
      rw [hShape]
      apply isTrimmed_append h.name.ne_nil (toString_ne_nil n) hFirst
      intro c hc
      rcases mem_toString (List.mem_of_mem_getLast? hc) with hDigit | rfl
      · exact isBlank_eq_false_of_isWord (isWord_of_isDigit hDigit)
      · decide

theorem isLine_valueLine {v : EnumValue} (h : IsEntry v) : IsLine (valueLine v) where
  ne_nil := by simp [valueLine_eq]
  trimmed := by
    have hEnds := isTrimmed_append (entryText_ne_nil h) (show [','] ≠ [] by simp)
      (isTrimmed_entryText h).first (by simp [isBlank]) []
    simpa [valueLine_eq] using hEnds
  oneLine := by
    have hText : OneLine (entryText v) := by
      intro c hc
      rcases mem_entryText h hc with hWord | rfl | rfl | rfl
      · have hChar : OneLine [c] := oneLine_of_not_blank (by simp [isBlank_eq_false_of_isWord hWord])
        exact hChar c (by simp)
      · decide
      · decide
      · decide
    simp [valueLine_eq, hText, isLineEnd]

/-- The line of an entry is no marker, whatever the name of the entry is. -/
theorem isMarker_valueLine {v : EnumValue} (h : IsEntry v) : isMarker (valueLine v) = false := by
  rw [valueLine_eq]
  cases hSome : v.value with
  | none =>
      have hDrop := (h.name.takeWhile_append (t := [',']) (by simp [isWord])).2
      apply isMarker_eq_false (d := ',') (t := [])
      · simp only [entryText, hSome, Option.elim_none, List.append_nil]
        rw [hDrop]
        rfl
      · decide
  | some n =>
      have hDrop := (h.name.takeWhile_append
        (t := ' ' :: '=' :: ' ' :: ((toString n).toList ++ [','])) (by simp [isWord])).2
      apply isMarker_eq_false (d := '=') (t := ' ' :: ((toString n).toList ++ [',']))
      · simp only [entryText, hSome, Option.elim_some, List.append_assoc, List.cons_append]
        rw [hDrop]
        simp [trimStart, isBlank]
      · decide

section Body

/-- Each line of a body is read for itself, and a line with a closing brace is the last. -/
theorem bodyEntries_cons_eq (line : List Char) (ls : List (List Char)) :
    bodyEntries (line :: ls) = bodyEntries [line] ++ if '}' ∈ line then [] else bodyEntries ls := by
  cases line with
  | nil => simp [bodyEntries]
  | cons c cs =>
      by_cases hEnd : c = '}'
      · simp [hEnd, bodyEntries]
      · by_cases hOpen : c = '{'
        · by_cases hClose : '}' ∈ cs <;> simp [hOpen, bodyEntries, hClose]
        · by_cases hClose : '}' ∈ cs <;>
            simp [hEnd, hOpen, bodyEntries, hClose, Ne.symm hEnd]

/-- Lines without closing braces are read apart from those below. -/
theorem bodyEntries_append {ls : List (List Char)} (h : ∀ l ∈ ls, '}' ∉ l)
    (more : List (List Char)) : bodyEntries (ls ++ more) = bodyEntries ls ++ bodyEntries more := by
  induction ls with
  | nil => rfl
  | cons line ls ih =>
      obtain ⟨hLine, hRest⟩ := List.forall_mem_cons.mp h
      rw [List.cons_append, bodyEntries_cons_eq, bodyEntries_cons_eq line ls, if_neg hLine,
        if_neg hLine, ih hRest, List.append_assoc]

/-- Nothing is read below the line with the closing brace. -/
theorem bodyEntries_append_close {ls : List (List Char)} (h : ∀ l ∈ ls, '}' ∉ l) {close : List Char}
    (hClose : '}' ∈ close) (rest : List (List Char)) :
    bodyEntries (ls ++ close :: rest) = bodyEntries (ls ++ [close]) := by
  rw [bodyEntries_append h, bodyEntries_append h, bodyEntries_cons_eq close rest, if_pos hClose,
    List.append_nil]

/-- A line without braces gives its entries, and the body goes on. -/
theorem bodyEntries_cons {line : List Char} (hOpen : '{' ∉ line) (hClose : '}' ∉ line)
    (ls : List (List Char)) : bodyEntries (line :: ls) = entriesOn line ++ bodyEntries ls := by
  rw [bodyEntries]
  · simp [hClose]
  · rintro r rfl
    exact absurd List.mem_cons_self hClose
  · rintro r rfl
    exact absurd List.mem_cons_self hOpen

/-- The line with the closing brace gives what stands in front of the brace, and is the last. -/
theorem bodyEntries_close {line : List Char} (hOpen : '{' ∉ line) (hClose : '}' ∉ line)
    (tail : List Char) (ls : List (List Char)) :
    bodyEntries ((line ++ '}' :: tail) :: ls) = entriesOn line := by
  have hBefore := before_append hClose tail
  cases line with
  | nil => rfl
  | cons c line =>
      rw [bodyEntries]
      · simp only [hBefore]
        simp
      · rintro r hShape
        exact hClose (by simp [(List.cons.inj hShape).1])
      · rintro r hShape
        exact hOpen (by simp [(List.cons.inj hShape).1])

/-- An opening brace in front of a line is passed over. -/
theorem bodyEntries_open {line : List Char} (hOnce : line.head? ≠ some '{')
    (ls : List (List Char)) : bodyEntries (('{' :: line) :: ls) = bodyEntries (line :: ls) := by
  cases line with
  | nil => simp [bodyEntries]
  | cons c line =>
      have hOpen : c ≠ '{' := fun hSame => hOnce (by rw [hSame]; rfl)
      by_cases hEnd : c = '}'
      · have hNone : entriesOn (before ['}'] ('}' :: line)) = [] := by
          rw [before, cutAt?, if_pos (by simp)]
          rfl
        simp [hEnd, bodyEntries, hNone]
      · by_cases hClose : '}' ∈ line <;>
          simp [bodyEntries, hEnd, Ne.symm hEnd, hOpen, hClose]

end Body

/-- The name of an entry stands in its text. -/
theorem length_name_le {p : List Char} {v : EnumValue} (h : entryOf? p = some v) :
    v.name.toList.length ≤ p.length := by
  unfold entryOf? at h
  cases hIdent : ident? p with
  | none => simp [hIdent] at h
  | some found =>
      obtain ⟨name, rest⟩ := found
      have hName : v.name = String.ofList name := by
        simp only [hIdent] at h
        split at h
        · cases h
          rfl
        · split at h
          · cases h
          · cases h
            rfl
        · cases h
      rw [hName, String.toList_ofList, ← append_of_ident? hIdent, List.length_append]
      exact Nat.le_add_right _ _

/-- If something is left between a name and an equals sign then no value is read. -/
theorem value_of_entryOf? {name rest t : List Char} (hName : IsName name)
    (hRest : ¬∀ c ∈ rest, isBlank c = true) (hEquals : '=' ∈ t) {v : EnumValue}
    (h : entryOf? (name ++ ' ' :: (rest ++ t)) = some v) : v.value = none := by
  let left := rest.dropWhile isBlank
  have hStart : trimStart (' ' :: (rest ++ t)) = left ++ t := by
    rw [trimStart_cons_blank (by decide), trimStart, List.dropWhile_append]
    have hSome : (rest.dropWhile isBlank).isEmpty = false := by
      rw [List.isEmpty_eq_false_iff, Ne, List.dropWhile_eq_nil_iff]
      exact hRest
    rw [hSome, if_neg Bool.false_ne_true]
  have hLeft : left ≠ [] := by
    rw [Ne, List.dropWhile_eq_nil_iff]
    exact hRest
  obtain ⟨c, s, hShape⟩ := List.exists_cons_of_ne_nil hLeft
  have hIdent := hName.ident?_append (t := ' ' :: (rest ++ t)) (by simp [isWord])
  simp only [entryOf?, hIdent, hStart, hShape, List.cons_append] at h
  split at h
  · rename_i hNone
    cases hNone
  · rename_i value hValue
    split at h
    · cases h
    · cases h
      cases hValue
      apply readLiteral?_eq_none
      exact mem_trim (mem_dropWhile (List.mem_append_right s hEquals) (by decide)) (by decide)
  · cases h

end ProjectAtlas.Source
