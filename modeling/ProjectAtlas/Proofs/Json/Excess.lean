import Mathlib.Data.List.TakeWhile
import ProjectAtlas.Json.Reader

/-!
When a text goes beyond a limit of the reader, the text shows it. It holds as many digits in a row as the
fault says, more than an integer may have; or it opens more lists and objects than the stack has room
for. No other text has such a fault.
-/

namespace ProjectAtlas.Json

open ProjectAtlas.Text

/-- So many digits stand in a row, more than an integer may have. -/
def HoldsLongInteger (digits : Nat) (cs : List Char) : Prop :=
  maxDecimalDigits < digits ∧
    ∃ run, run <:+: cs ∧ run.length = digits ∧ ∀ c ∈ run, isAsciiDigit c = true

theorem HoldsLongInteger.of_suffix {digits : Nat} {rest cs : List Char}
    (h : HoldsLongInteger digits rest) (hSuffix : rest <:+ cs) : HoldsLongInteger digits cs := by
  obtain ⟨hLong, run, hRun, hLength, hDigits⟩ := h
  exact ⟨hLong, run, hRun.trans hSuffix.isInfix, hLength, hDigits⟩

/-- The number of lists and objects that a text opens. -/
def openings (cs : List Char) : Nat :=
  cs.countP fun c => c = '[' || c = '\x7b'

theorem openings_le_of_suffix {rest cs : List Char} (h : rest <:+ cs) : openings rest ≤ openings cs :=
  h.sublist.countP_le

/-- The text shows that reading it goes beyond a limit, on a stack with room for `room` levels. A word
that is a number takes a level as lists and objects do. -/
def Excess.ShownBy (room : Nat) (cs : List Char) : Excess → Prop
  | .integerTooLong digits => HoldsLongInteger digits cs
  | .tooDeep .list | .tooDeep .object => room < openings cs
  | .tooDeep .word => room ≤ openings cs

theorem Excess.ShownBy.of_suffix {room : Nat} {rest cs : List Char} {e : Excess}
    (h : e.ShownBy room rest) (hSuffix : rest <:+ cs) : e.ShownBy room cs := by
  have hMore := openings_le_of_suffix hSuffix
  match e with
  | .integerTooLong digits => exact HoldsLongInteger.of_suffix h hSuffix
  | .tooDeep .list | .tooDeep .object => exact Nat.lt_of_lt_of_le h hMore
  | .tooDeep .word => exact Nat.le_trans h hMore

/-- What is beyond a limit inside a list or an object is so behind its opening bracket. -/
theorem Excess.ShownBy.opened {room : Nat} {c : Char} {cs : List Char} {e : Excess}
    (h : e.ShownBy room cs) (hOpening : c = '[' ∨ c = '\x7b') : e.ShownBy (room + 1) (c :: cs) := by
  have hOne : openings (c :: cs) = openings cs + 1 := by
    rcases hOpening with rfl | rfl <;> simp [openings]
  cases e with
  | integerTooLong digits => exact HoldsLongInteger.of_suffix h (List.suffix_cons c cs)
  | tooDeep nested =>
      cases nested <;> simp only [ShownBy, hOne] at h ⊢ <;> omega

/-- A step on a text leaves an end of it, or goes beyond a limit only if the text shows it. -/
def Step.Within {α : Type} (room : Nat) (cs : List Char) : Step α → Prop
  | .ok (_, rest) => rest <:+ cs
  | .error (.excess e) => e.ShownBy room cs
  | .error (.malformed _ _) => True

variable {α β : Type} {room : Nat}

theorem Step.Within.mono {r : Step α} {cs more : List Char} (h : r.Within room cs)
    (hSuffix : cs <:+ more) : r.Within room more := by
  match r with
  | .ok (_, rest) => exact h.trans hSuffix
  | .error (.excess e) => exact h.of_suffix hSuffix
  | .error (.malformed _ _) => trivial

theorem Step.Within.opened {r : Step α} {c : Char} {cs : List Char} (h : r.Within room cs)
    (hOpening : c = '[' ∨ c = '\x7b') : r.Within (room + 1) (c :: cs) := by
  match r with
  | .ok (_, rest) => exact h.trans (List.suffix_cons c cs)
  | .error (.excess e) => exact Excess.ShownBy.opened h hOpening
  | .error (.malformed _ _) => trivial

/-- What is made of the result does not matter. -/
theorem Step.Within.map {r : Step α} {cs : List Char} (h : r.Within room cs) (f : α → β) :
    Step.Within room cs (r.map fun x => (f x.1, x.2)) := by
  match r with
  | .ok (_, rest) => exact h
  | .error (.excess e) => exact h
  | .error (.malformed _ _) => trivial

/-- A step fails the same way whatever it would give. -/
theorem Step.Within.error {stop : Stop} {cs : List Char}
    (h : Step.Within room cs (.error stop : Step α)) :
    Step.Within room cs (.error stop : Step β) := by
  cases stop with
  | malformed cause rest => trivial
  | excess e => exact h

theorem skipSpace_suffix (cs : List Char) : skipSpace cs <:+ cs :=
  List.dropWhile_suffix _

/-- The text of an escape is malformed at worst. -/
theorem escapeHead_ne_excess (start cs : List Char) (e : Excess) :
    escapeHead start cs ≠ .error (.excess e) := by
  unfold escapeHead unitEscape
  split <;> try simp
  split
  · simp
  · split
    · simp
    · split
      · split
        · split
          · simp
          · split <;> simp
        · simp
      · simp

theorem textChars_within (room : Nat) (start : List Char) (skip : Nat) (cs : List Char) :
    (textChars start skip cs).Within room cs := by
  induction cs generalizing skip with
  | nil => trivial
  | cons c cs ih =>
      have hSuffix : cs <:+ c :: cs := List.suffix_cons c cs
      have hNext (d : Char) (n : Nat) :
          (consStep d (textChars start n cs)).Within room (c :: cs) :=
        ((ih n).mono hSuffix).map (d :: ·)
      cases skip with
      | succ k => exact (ih k).mono hSuffix
      | zero =>
          simp only [textChars]
          split
          · exact hSuffix
          · split
            · cases hHead : escapeHead start cs with
              | ok head => exact hNext head.1 head.2
              | error stop =>
                  cases stop with
                  | malformed cause rest => trivial
                  | excess e => exact absurd hHead (escapeHead_ne_excess start cs e)
            · split
              · trivial
              · exact hNext c 0

theorem text_within (room : Nat) (cs : List Char) : (text cs).Within room cs :=
  (textChars_within room ('"' :: cs) 0 cs).map String.ofList

theorem fraction_suffix (cs : List Char) : (fraction cs).2 <:+ cs := by
  unfold fraction
  split
  · dsimp only
    split
    · exact List.suffix_refl _
    · exact (List.dropWhile_suffix _).trans (List.suffix_cons _ _)
  · exact List.suffix_refl _

theorem takeSign_suffix (cs : List Char) : (takeSign cs).2 <:+ cs := by
  unfold takeSign
  split
  · exact List.suffix_cons _ _
  · exact List.suffix_cons _ _
  · exact List.suffix_refl _

theorem exponent?_suffix {cs rest : List Char} {e : Int} (h : exponent? cs = some (e, rest)) :
    rest <:+ cs := by
  cases cs with
  | nil => cases h
  | cons c cs =>
      simp only [exponent?] at h
      split at h
      · split at h
        · cases h
        · cases h
          exact ((List.dropWhile_suffix _).trans (takeSign_suffix cs)).trans (List.suffix_cons _ _)
      · cases h

theorem unsignedNumber_within (room : Nat) (negative : Bool) (start cs : List Char) :
    (unsignedNumber negative start cs).Within room cs := by
  unfold unsignedNumber
  split
  rename_i whole rest hParts
  have hWhole : whole ++ rest = cs ∧ ∀ c ∈ whole, isAsciiDigit c = true := by
    split at hParts
    · cases hParts
      exact ⟨rfl, by simp [isAsciiDigit]⟩
    · cases hParts
      exact ⟨List.takeWhile_append_dropWhile, fun c hc => List.mem_takeWhile_imp hc⟩
  have hFraction : (fraction rest).2 <:+ cs := (fraction_suffix rest).trans ⟨whole, hWhole.1⟩
  split
  · trivial
  · dsimp only
    split
    · split
      · rename_i hLong
        exact ⟨hLong, whole, ⟨[], rest, hWhole.1⟩, rfl, hWhole.2⟩
      · exact hFraction
    · cases hExponent : exponent? (fraction rest).2 with
      | none => exact hFraction
      | some e => exact (exponent?_suffix hExponent).trans hFraction

theorem word?_suffix {w : String} {cs rest : List Char} (h : word? w cs = some rest) :
    rest <:+ cs := by
  simp only [word?] at h
  split at h
  · cases h
    exact List.drop_suffix _ _
  · cases h

theorem wordNumber_within {rest cs : List Char} (hSuffix : rest <:+ cs) (x : Float) :
    (wordNumber room x rest).Within room cs := by
  cases room with
  | zero => exact Nat.zero_le _
  | succ room => exact hSuffix

theorem atom_within (room : Nat) (cs : List Char) : (atom room cs).Within room cs := by
  unfold atom
  split
  · exact word?_suffix ‹_›
  split
  · exact word?_suffix ‹_›
  split
  · exact word?_suffix ‹_›
  split
  · exact wordNumber_within (word?_suffix ‹_›) _
  split
  · exact wordNumber_within (word?_suffix ‹_›) _
  split
  · exact wordNumber_within (word?_suffix ‹_›) _
  split
  · exact (unsignedNumber_within room true _ _).mono (List.suffix_cons _ _)
  · exact unsignedNumber_within room false _ _

theorem zero_lt_openings {c : Char} (hOpening : c = '[' ∨ c = '\x7b') (cs : List Char) :
    0 < openings (c :: cs) := by
  rcases hOpening with rfl | rfl <;> simp [openings]

/-- Values, items and fields are read from the text in front of what they leave. -/
theorem value_items_members_within (fuel : Nat) :
    (∀ room cs, (value fuel room cs).Within room cs) ∧
      (∀ room done cs, (items fuel room done cs).Within room cs) ∧
        ∀ room done cs, (members fuel room done cs).Within room cs := by
  induction fuel with
  | zero => exact ⟨fun _ _ => trivial, fun _ _ _ => trivial, fun _ _ _ => trivial⟩
  | succ fuel ih =>
      obtain ⟨ihValue, ihItems, ihMembers⟩ := ih
      refine ⟨fun room cs => ?_, fun room done cs => ?_, fun room done cs => ?_⟩
      · unfold value
        split
        · rename_i r
          exact ((text_within room r).mono (List.suffix_cons _ _)).map Json.str
        · exact zero_lt_openings (.inl rfl) _
        · rename_i r room
          split
          · rename_i rest hEnd
            have hSpace := (skipSpace_suffix r).trans (List.suffix_cons '[' r)
            exact (List.suffix_cons ']' rest).trans (hEnd ▸ hSpace)
          · exact ((ihItems _ _ _).mono (skipSpace_suffix r)).opened (.inl rfl)
        · exact zero_lt_openings (.inr rfl) _
        · rename_i r room
          split
          · rename_i rest hEnd
            have hSpace := (skipSpace_suffix r).trans (List.suffix_cons '\x7b' r)
            exact (List.suffix_cons '\x7d' rest).trans (hEnd ▸ hSpace)
          · exact ((ihMembers _ _ _).mono (skipSpace_suffix r)).opened (.inr rfl)
        · exact atom_within room cs
      · unfold items
        have hFirst := ihValue room cs
        split
        · rename_i stop hStop
          rw [hStop] at hFirst
          exact hFirst.error
        · rename_i v rest hOk
          rw [hOk] at hFirst
          have hSpace := (skipSpace_suffix rest).trans hFirst
          split
          · rename_i after hEnd
            exact (List.suffix_cons ']' after).trans (hEnd ▸ hSpace)
          · rename_i after hComma
            have hAfter := (List.suffix_cons ',' after).trans (hComma ▸ hSpace)
            exact (ihItems _ _ _).mono ((skipSpace_suffix after).trans hAfter)
          · trivial
      · unfold members
        split
        · rename_i r
          have hKey := (text_within room r).mono (List.suffix_cons '"' r)
          split
          · rename_i stop hStop
            rw [hStop] at hKey
            exact hKey.error
          · rename_i key rest hOk
            rw [hOk] at hKey
            have hSpace := (skipSpace_suffix rest).trans hKey
            split
            · rename_i after hColon
              have hAfter := (List.suffix_cons ':' after).trans (hColon ▸ hSpace)
              have hValue := (ihValue room (skipSpace after)).mono
                ((skipSpace_suffix after).trans hAfter)
              split
              · rename_i stop hStop
                rw [hStop] at hValue
                exact hValue.error
              · rename_i v rest hOk
                rw [hOk] at hValue
                have hSpace := (skipSpace_suffix rest).trans hValue
                split
                · rename_i last hEnd
                  exact (List.suffix_cons '\x7d' last).trans (hEnd ▸ hSpace)
                · rename_i last hComma
                  have hLast := (List.suffix_cons ',' last).trans (hComma ▸ hSpace)
                  exact (ihMembers _ _ _).mono ((skipSpace_suffix last).trans hLast)
                · trivial
            · trivial
        · trivial

/-- A text whose reading goes beyond a limit shows it. -/
theorem shownBy_of_parse {cs : List Char} {e : Excess} (h : parse room cs = .error (.excess e)) :
    e.ShownBy room cs := by
  simp only [parse, document] at h
  split at h
  · cases h
  · have hValue := (value_items_members_within (2 * cs.length + 1)).1 room (skipSpace cs)
    split at h
    · rename_i stop hStop
      rw [hStop] at hValue
      cases stop with
      | malformed cause rest => cases h
      | excess found =>
          cases h
          exact Excess.ShownBy.of_suffix hValue (skipSpace_suffix cs)
    · split at h <;> cases h

/-- Too many digits and nothing else make no value. -/
theorem value_digits {n : Nat} (hLong : maxDecimalDigits < n) (fuel : Nat) :
    value (fuel + 1) room (List.replicate n '1') = .error (.excess (.integerTooLong n)) := by
  obtain ⟨k, rfl⟩ : ∃ k, n = k + 1 := ⟨n - 1, by omega⟩
  have hTake : (List.replicate (k + 1) '1').takeWhile isAsciiDigit = List.replicate (k + 1) '1' := by
    rw [List.takeWhile_eq_self_iff]
    intro c hc
    rw [List.eq_of_mem_replicate hc]
    decide
  have hDrop : (List.replicate (k + 1) '1').dropWhile isAsciiDigit = [] := by
    rw [List.dropWhile_eq_nil_iff]
    intro c hc
    rw [List.eq_of_mem_replicate hc]
    decide
  have hNumber : unsignedNumber false (List.replicate (k + 1) '1') (List.replicate (k + 1) '1') =
      .error (.excess (.integerTooLong (k + 1))) := by
    have hShape : List.replicate (k + 1) '1' = '1' :: List.replicate k '1' := rfl
    unfold unsignedNumber
    simp only [hShape] at hTake hDrop ⊢
    simp [hTake, hDrop, fraction, exponent?, hLong]
  rw [← hNumber]
  rfl

/-- A text of nothing but too many digits is not read. -/
theorem parse_digits {n : Nat} (hLong : maxDecimalDigits < n) :
    parse room (List.replicate n '1') = .error (.excess (.integerTooLong n)) := by
  have hSpace : skipSpace (List.replicate n '1') = List.replicate n '1' := by
    cases n <;> rfl
  have hMark : (List.replicate n '1').head? ≠ some '\uFEFF' := by
    cases n with
    | zero => simp
    | succ k => simp [List.replicate_succ]
  simp only [parse, document, if_neg hMark, hSpace, value_digits hLong]
  rfl

end ProjectAtlas.Json
