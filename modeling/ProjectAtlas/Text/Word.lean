import ProjectAtlas.Text.WordTable

/-!
Sets of characters that are given by ranges of code points: word characters, identifiers and decimal
digits.
-/

namespace ProjectAtlas.Text

/-- `n` lies in one of the inclusive ranges. -/
def inRanges (ranges : List (Nat × Nat)) (n : Nat) : Bool :=
  ranges.any fun r => r.1 ≤ n && n ≤ r.2

def isWord (c : Char) : Bool :=
  if c.toNat < 128 then c.isAlphanum || c == '_' else inRanges letterOrNumeralRanges c.toNat

/-- The character can start an identifier: an ASCII letter or the underscore. -/
def isIdentStart (c : Char) : Bool :=
  c.isAlpha || c == '_'

theorem isWord_of_isIdentStart {c : Char} (h : isIdentStart c) : isWord c := by
  have hSmall : c.toNat < 128 := by
    change ((decide (c.val ≥ 'A'.val ∧ c.val ≤ 'Z'.val) ||
      (decide (c.val ≥ 'a'.val) && decide (c.val ≤ 'z'.val))) || c == '_') = true at h
    simp only [Bool.or_eq_true, Bool.and_eq_true, decide_eq_true_eq, beq_iff_eq] at h
    rcases h with (h | h) | h
    · have hLast : c.val.toNat ≤ 90 := UInt32.le_iff_toNat_le.mp h.2
      exact Nat.lt_of_le_of_lt hLast (by decide)
    · have hLast : c.val.toNat ≤ 122 := UInt32.le_iff_toNat_le.mp h.2
      exact Nat.lt_of_le_of_lt hLast (by decide)
    · subst h; decide
  simp only [isIdentStart, Bool.or_eq_true, beq_iff_eq] at h
  simp only [isWord, hSmall, if_true, Char.isAlphanum, Bool.or_eq_true, beq_iff_eq]
  rcases h with h | h
  · exact .inl (.inl h)
  · exact .inr h

/-- An identifier at the head of the text, as long as it goes, and what follows it. -/
def ident? : List Char → Option (List Char × List Char)
  | c :: cs =>
    if isIdentStart c then some (c :: cs.takeWhile isWord, cs.dropWhile isWord) else none
  | [] => none

theorem append_of_ident? {cs name rest : List Char} (h : ident? cs = some (name, rest)) :
    name ++ rest = cs := by
  cases cs with
  | nil => simp [ident?] at h
  | cons c cs =>
    simp only [ident?] at h
    split at h
    · simp only [Option.some.injEq, Prod.mk.injEq] at h
      obtain ⟨rfl, rfl⟩ := h
      simp
    · simp at h

def decimalValue? (c : Char) : Option Nat :=
  if c.toNat < 128 then
    if c.isDigit then some (c.toNat - 48) else none
  else
    (decimalZeros.find? fun z => z ≤ c.toNat && c.toNat ≤ z + 9).map (c.toNat - ·)

end ProjectAtlas.Text
