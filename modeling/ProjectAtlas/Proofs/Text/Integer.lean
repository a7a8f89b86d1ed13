import ProjectAtlas.Proofs.Text.Pieces
import ProjectAtlas.Proofs.Text.Word
import ProjectAtlas.Text.Integer

/-!
Integers that were written in decimal or hexadecimal digits are read as they were.
-/

namespace ProjectAtlas.Text

theorem toNat_lt_of_isDigit {c : Char} (h : c.isDigit = true) : c.toNat < 128 := by
  simp only [Char.isDigit, Bool.and_eq_true, decide_eq_true_eq] at h
  have hLast : c.val.toNat ≤ 57 := UInt32.le_iff_toNat_le.mp h.2
  exact Nat.lt_of_le_of_lt hLast (by decide)

theorem digitValue?_of_isDigit {c : Char} (h : c.isDigit = true) :
    (digitValue? c).filter (· < 10) = some (c.toNat - 48) := by
  have hAll : ∀ n : Fin 128, (Char.ofNat n).isDigit = true →
      (digitValue? (Char.ofNat n)).filter (· < 10) = some ((Char.ofNat n).toNat - 48) := by
    decide
  exact forall_ascii
    (P := fun c => c.isDigit = true → (digitValue? c).filter (· < 10) = some (c.toNat - 48))
    hAll (toNat_lt_of_isDigit h) h

theorem asciiDigit_of_ascii {c : Char} (h : c.toNat < 128) : asciiDigit c = c := by
  have hAll : ∀ n : Fin 128, asciiDigit (Char.ofNat n) = Char.ofNat n := by
    decide
  exact forall_ascii (P := fun c => asciiDigit c = c) hAll h

/-- Digits without underscores are read one by one. -/
theorem digits?_eq_map {base : Nat} {value : Char → Nat} {cs : List Char} (hSome : cs ≠ [])
    (hNone : '_' ∉ cs) (h : ∀ c ∈ cs, (digitValue? c).filter (· < base) = some (value c)) :
    digits? base cs = some (cs.map value) := by
  have hRead : cs.mapM (fun c => (digitValue? c).filter (· < base)) = some (cs.map value) := by
    clear hSome hNone
    induction cs with
    | nil => rfl
    | cons c cs ih =>
        obtain ⟨hFirst, hRest⟩ := List.forall_mem_cons.mp h
        rw [List.mapM_cons, hFirst, ih hRest]
        rfl
  simp only [digits?, List.splitOn_eq_singleton hNone]
  simp [hSome, hRead]

theorem digits?_of_isDigit {cs : List Char} (hSome : cs ≠ []) (h : ∀ c ∈ cs, c.isDigit = true) :
    digits? 10 cs = some (cs.map fun c => c.toNat - 48) :=
  digits?_eq_map hSome (fun hMem => absurd (h '_' hMem) (by decide)) fun c hc =>
    digitValue?_of_isDigit (h c hc)

/-- The decimal digits of a positive number do not begin with a zero. -/
theorem head?_toDigits_ne {n : Nat} (h : 0 < n) : (Nat.toDigits 10 n).head? ≠ some '0' := by
  induction n using Nat.strongRecOn with
  | ind n ih =>
      rw [Nat.toDigits_eq_if (by decide)]
      split
      · rename_i hSmall
        have hAll : ∀ k : Fin 10, 0 < k.val → ([Nat.digitChar k].head? ≠ some '0') := by decide
        exact hAll ⟨n, hSmall⟩ h
      · have hRest := ih (n / 10) (by omega) (by omega)
        cases hFront : Nat.toDigits 10 (n / 10) with
        | nil => exact absurd hFront Nat.toDigits_ne_nil
        | cons c cs =>
            rw [hFront] at hRest
            exact hRest

theorem ofDigits_toDigits (n : Nat) :
    ofDigits 10 ((Nat.toDigits 10 n).map fun c => c.toNat - 48) = n := by
  have hFold : ∀ (cs : List Char) (k : Nat),
      (cs.map fun c => c.toNat - 48).foldl (fun n d => n * 10 + d) k = Nat.ofDigitChars 10 cs k := by
    intro cs
    induction cs with
    | nil => simp
    | cons c cs ih =>
        intro k
        rw [List.map_cons, List.foldl_cons, ih, Nat.ofDigitChars_cons, Nat.mul_comm]
        rfl
  rw [ofDigits, hFold, Nat.ofDigitChars_ten_toDigits]

theorem length_toDigits_le {n k : Nat} (hPos : 0 < k) (h : n < Nat.pow 10 k) :
    (Nat.toDigits 10 n).length ≤ k :=
  (Nat.length_toDigits_le_iff (by decide) hPos).mpr h

/-- A number of not too many digits is read from its decimal digits. -/
theorem readMagnitude?_toDigits {n : Nat} (h : n < Nat.pow 10 maxDecimalDigits) :
    readMagnitude? (Nat.toDigits 10 n) = some n := by
  have hDigits : ∀ c ∈ Nat.toDigits 10 n, c.isDigit = true := fun c hc =>
    Nat.isDigit_of_mem_toDigits (by decide) (by decide) hc
  have hRead := digits?_of_isDigit Nat.toDigits_ne_nil hDigits
  have hLength : (Nat.toDigits 10 n).length ≤ maxDecimalDigits := length_toDigits_le (by decide) h
  rcases Nat.eq_zero_or_pos n with rfl | hPos
  · rfl
  · have hHead := head?_toDigits_ne hPos
    have hFirst : ((Nat.toDigits 10 n).map fun c => c.toNat - 48).head? ≠ some 0 := by
      cases hShape : Nat.toDigits 10 n with
      | nil => simp
      | cons c cs =>
          rw [hShape] at hHead hDigits
          have hAll : ∀ k : Fin 128, (Char.ofNat k).isDigit = true → Char.ofNat k ≠ '0' →
              (Char.ofNat k).toNat - 48 ≠ 0 := by
            decide
          have hDigit := hDigits c (by simp)
          have hValue := forall_ascii
            (P := fun c => c.isDigit = true → c ≠ '0' → c.toNat - 48 ≠ 0)
            hAll (toNat_lt_of_isDigit hDigit) hDigit (by simpa using hHead)
          simpa using hValue
    unfold readMagnitude?
    split
    · rename_i hShape
      rw [hShape] at hHead
      exact absurd rfl hHead
    · simp only [hRead, List.length_map, ofDigits_toDigits, beq_eq_false_iff_ne.mpr hFirst]
      simp [hLength]

theorem trimBoth_eq_self {p : Char → Bool} {cs : List Char} (h : ∀ c ∈ cs, p c = false) :
    trimBoth p cs = cs := by
  have hDrop : ∀ ds : List Char, (∀ c ∈ ds, p c = false) → ds.dropWhile p = ds := by
    intro ds hds
    cases ds with
    | nil => rfl
    | cons d ds => simp [hds d (by simp)]
  rw [trimBoth, hDrop cs h, hDrop _ fun c hc => h c (List.mem_reverse.mp hc), List.reverse_reverse]

/-- The sign in front of a number. -/
def signText (negative : Bool) : List Char :=
  if negative then ['-'] else []

theorem eq_of_mem_signText {negative : Bool} {c : Char} (h : c ∈ signText negative) : c = '-' := by
  cases negative with
  | false => cases h
  | true => exact List.mem_singleton.mp h

/-- The usual form of an integer: its sign and its decimal digits. -/
theorem toList_toString (n : Int) :
    (toString n).toList = signText (n < 0) ++ Nat.toDigits 10 n.natAbs := by
  rw [Int.toString_eq_repr, Int.repr_eq_if]
  split
  · rename_i hPos
    have hAbs : n.toNat = n.natAbs := by omega
    have hSign : decide (n < 0) = false := by simpa using hPos
    rw [Nat.toList_repr, hAbs, hSign]
    rfl
  · rename_i hNeg
    have hAbs : (-n).toNat = n.natAbs := by omega
    have hSign : decide (n < 0) = true := by simpa using hNeg
    rw [String.toList_append, Nat.toList_repr, hAbs, hSign]
    rfl

theorem mem_toString {n : Int} {c : Char} (hc : c ∈ (toString n).toList) :
    c.isDigit = true ∨ c = '-' := by
  rw [toList_toString] at hc
  rcases List.mem_append.mp hc with hSign | hDigit
  · exact .inr (eq_of_mem_signText hSign)
  · exact .inl (Nat.isDigit_of_mem_toDigits (by decide) (by decide) hDigit)

theorem toString_ne_nil (n : Int) : (toString n).toList ≠ [] := by
  rw [toList_toString]
  exact List.append_ne_nil_of_right_ne_nil _ Nat.toDigits_ne_nil

/-- Behind a minus sign or none, a number is read for itself. -/
theorem readLiteral?_signText (negative : Bool) {body : List Char}
    (hAscii : ∀ c ∈ body, c.toNat < 128 ∧ isNumberBlank c = false)
    (hSign : ∀ c ∈ body.head?, c ≠ '-' ∧ c ≠ '+') :
    readLiteral? (signText negative ++ body) = (readMagnitude? body).map (withSign negative) := by
  have hTrim : trimBoth isNumberBlank (signText negative ++ body) = signText negative ++ body := by
    apply trimBoth_eq_self
    intro c hc
    rcases List.mem_append.mp hc with hc | hc
    · rw [eq_of_mem_signText hc]
      decide
    · exact (hAscii c hc).2
  have hTake : takeSign (signText negative ++ body) = (negative, body) := by
    cases negative with
    | true => rfl
    | false =>
        show takeSign body = _
        unfold takeSign
        split
        · exact absurd rfl (hSign '-' rfl).1
        · exact absurd rfl (hSign '+' rfl).2
        · rfl
  have hBody : body.map asciiDigit = body := by
    calc
      _ = body.map id := List.map_congr_left fun c hc => asciiDigit_of_ascii (hAscii c hc).1
      _ = body := List.map_id _
  simp only [readLiteral?, hTrim, hTake, hBody]

theorem isWord_of_isDigit {c : Char} (h : c.isDigit = true) : isWord c = true :=
  forall_ascii (P := fun c => c.isDigit = true → isWord c = true) (by decide)
    (toNat_lt_of_isDigit h) h

theorem isNumberBlank_of_isWord {c : Char} (h : isWord c = true) : isNumberBlank c = false := by
  rw [isNumberBlank, isBlank_eq_false_of_isWord h, Bool.false_and]

/-- A signed number of not too many decimal digits is read from them. -/
theorem readLiteral?_toDigits (negative : Bool) {m : Nat} (h : m < Nat.pow 10 maxDecimalDigits) :
    readLiteral? (signText negative ++ Nat.toDigits 10 m) = some (withSign negative m) := by
  have hDigits : ∀ c ∈ Nat.toDigits 10 m, c.isDigit = true := fun c hc =>
    Nat.isDigit_of_mem_toDigits (by decide) (by decide) hc
  rw [readLiteral?_signText negative, readMagnitude?_toDigits h, Option.map_some]
  · intro c hc
    have hDigit := hDigits c hc
    exact ⟨toNat_lt_of_isDigit hDigit, isNumberBlank_of_isWord (isWord_of_isDigit hDigit)⟩
  · intro c hc
    have hDigit := hDigits c (List.mem_of_mem_head? hc)
    constructor <;>
      · rintro rfl
        exact absurd hDigit (by decide)

/-- A digit of a hexadecimal number. -/
def isHexDigit (c : Char) : Bool :=
  c.isDigit || ('a' ≤ c && c ≤ 'f') || ('A' ≤ c && c ≤ 'F')

/-- The value of a hexadecimal digit. -/
def hexValue (c : Char) : Nat :=
  if c.isDigit then c.toNat - 48 else if 'a' ≤ c then c.toNat - 87 else c.toNat - 55

theorem toNat_lt_of_isHexDigit {c : Char} (h : isHexDigit c = true) : c.toNat < 128 := by
  simp only [isHexDigit, Bool.or_eq_true, Bool.and_eq_true, decide_eq_true_eq] at h
  rcases h with (h | h) | h
  · exact toNat_lt_of_isDigit h
  · have hLast : c.val.toNat ≤ 102 := UInt32.le_iff_toNat_le.mp h.2
    exact Nat.lt_of_le_of_lt hLast (by decide)
  · have hLast : c.val.toNat ≤ 70 := UInt32.le_iff_toNat_le.mp h.2
    exact Nat.lt_of_le_of_lt hLast (by decide)

theorem digitValue?_of_isHexDigit {c : Char} (h : isHexDigit c = true) :
    (digitValue? c).filter (· < 16) = some (hexValue c) := by
  have hAll : ∀ n : Fin 128, isHexDigit (Char.ofNat n) = true →
      (digitValue? (Char.ofNat n)).filter (· < 16) = some (hexValue (Char.ofNat n)) := by
    decide
  exact forall_ascii
    (P := fun c => isHexDigit c = true → (digitValue? c).filter (· < 16) = some (hexValue c))
    hAll (toNat_lt_of_isHexDigit h) h

theorem isWord_of_isHexDigit {c : Char} (h : isHexDigit c = true) : isWord c = true :=
  forall_ascii (P := fun c => isHexDigit c = true → isWord c = true) (by decide)
    (toNat_lt_of_isHexDigit h) h

/-- A signed number is read from its hexadecimal digits. -/
theorem readLiteral?_hex (negative : Bool) {x : Char} (hx : x = 'x' ∨ x = 'X') {digits : List Char}
    (hSome : digits ≠ []) (h : ∀ c ∈ digits, isHexDigit c = true) :
    readLiteral? (signText negative ++ '0' :: x :: digits) =
      some (withSign negative (ofDigits 16 (digits.map hexValue))) := by
  have hScore : '_' ∉ digits := fun hMem => absurd (h '_' hMem) (by decide)
  have hRead := digits?_eq_map hSome hScore fun c hc => digitValue?_of_isHexDigit (h c hc)
  have hSkip : skipUnderscore digits = digits := by
    unfold skipUnderscore
    split
    · simp at hScore
    · rfl
  have hMagnitude : readMagnitude? ('0' :: x :: digits) =
      some (ofDigits 16 (digits.map hexValue)) := by
    have hLetter : (decide (x = 'x') || decide (x = 'X')) = true := by simpa using hx
    rw [readMagnitude?, if_pos hLetter, hSkip, hRead, Option.map_some]
  rw [readLiteral?_signText negative, hMagnitude, Option.map_some]
  · intro c hc
    simp only [List.mem_cons] at hc
    rcases hc with rfl | rfl | hc
    · decide
    · rcases hx with rfl | rfl <;> decide
    · exact ⟨toNat_lt_of_isHexDigit (h c hc), isNumberBlank_of_isWord (isWord_of_isHexDigit (h c hc))⟩
  · intro c hc
    cases hc
    decide

/-- An integer as it may be written: in decimal digits, at most as many as may be read and without
leading zeros, or in hexadecimal digits behind `0x`; with a minus sign or not. -/
inductive IntegerText : List Char → Int → Prop where
  | decimal (negative : Bool) {m : Nat} (hLength : m < Nat.pow 10 maxDecimalDigits) :
      IntegerText (signText negative ++ Nat.toDigits 10 m) (withSign negative m)
  | hexadecimal (negative : Bool) {x : Char} (hx : x = 'x' ∨ x = 'X') {digits : List Char}
      (hSome : digits ≠ []) (hDigits : ∀ c ∈ digits, isHexDigit c = true) :
      IntegerText (signText negative ++ '0' :: x :: digits)
        (withSign negative (ofDigits 16 (digits.map hexValue)))

/-- The usual form of an integer of not too many digits is one of these. -/
theorem integerText_toString {n : Int} (h : isTooLong n = false) :
    IntegerText (toString n).toList n := by
  have hValue : withSign (n < 0) n.natAbs = n := by
    by_cases hNeg : n < 0
    · rw [withSign, if_pos (decide_eq_true hNeg)]
      omega
    · rw [withSign, decide_eq_false hNeg, if_neg Bool.false_ne_true]
      omega
  have hText := IntegerText.decimal (n < 0) (m := n.natAbs) (by simpa [isTooLong] using h)
  rwa [hValue, ← toList_toString] at hText

namespace IntegerText

variable {text : List Char} {n : Int}

theorem readLiteral? (h : IntegerText text n) : Text.readLiteral? text = some n := by
  cases h with
  | decimal negative hLength => exact readLiteral?_toDigits negative hLength
  | hexadecimal negative hx hSome hDigits => exact readLiteral?_hex negative hx hSome hDigits

theorem ne_nil (h : IntegerText text n) : text ≠ [] := by
  cases h with
  | decimal => simp [Nat.toDigits_ne_nil]
  | hexadecimal => simp

/-- The characters of an integer. -/
theorem isWord_of_mem (h : IntegerText text n) {c : Char} (hc : c ∈ text) :
    isWord c = true ∨ c = '-' := by
  cases h with
  | decimal negative =>
      rcases List.mem_append.mp hc with hc | hc
      · exact .inr (eq_of_mem_signText hc)
      · exact .inl (isWord_of_isDigit (Nat.isDigit_of_mem_toDigits (by decide) (by decide) hc))
  | hexadecimal negative hx hSome hDigits =>
      simp only [List.mem_append, List.mem_cons] at hc
      rcases hc with hc | rfl | rfl | hc
      · exact .inr (eq_of_mem_signText hc)
      · exact .inl (by decide)
      · rcases hx with rfl | rfl <;> exact .inl (by decide)
      · exact .inl (isWord_of_isHexDigit (hDigits c hc))

end IntegerText

theorem mapM_eq_none_of_mem {α β : Type} {f : α → Option β} {xs : List α} {x : α} (hx : x ∈ xs)
    (hNone : f x = none) : xs.mapM f = none := by
  induction xs with
  | nil => cases hx
  | cons y xs ih =>
      rw [List.mapM_cons]
      rcases List.mem_cons.mp hx with rfl | hx
      · rw [hNone]
        rfl
      · rw [ih hx]
        cases f y <;> rfl

/-- An equals sign is no digit of any base. -/
theorem digits?_eq_none {cs : List Char} (h : '=' ∈ cs) (base : Nat) : digits? base cs = none := by
  have hPieces : '=' ∈ (cs.splitOn '_').flatten := by
    have hWhole : ['_'].intercalate (cs.splitOn '_') = cs := List.intercalate_splitOn '_'
    rw [← hWhole] at h
    rcases mem_intercalate h with hSep | hPiece
    · simp at hSep
    · exact List.mem_flatten.mpr hPiece
  have hNone : (cs.splitOn '_').flatten.mapM (fun c => (digitValue? c).filter (· < base)) = none := by
    apply mapM_eq_none_of_mem hPieces
    have hValue : digitValue? '=' = none := by decide
    rw [hValue]
    rfl
  rw [digits?, hNone]
  exact ite_self none

theorem readMagnitude?_eq_none {cs : List Char} (h : '=' ∈ cs) : readMagnitude? cs = none := by
  have hSkip {ds : List Char} (hds : '=' ∈ ds) : '=' ∈ skipUnderscore ds := by
    unfold skipUnderscore
    split
    · simpa using hds
    · exact hds
  unfold readMagnitude?
  split
  · rename_i c ds
    have hWhole := digits?_eq_none h 10
    have hTail : c = '=' ∨ '=' ∈ ds := by simpa [eq_comm] using h
    rcases hTail with rfl | hTail
    · simp [hWhole]
    · simp [digits?_eq_none (hSkip hTail), hWhole]
  · rw [digits?_eq_none h]

/-- An equals sign is no part of an integer. -/
theorem readLiteral?_eq_none {cs : List Char} (h : '=' ∈ cs) : readLiteral? cs = none := by
  have hBlank : isNumberBlank '=' = false := by decide
  have hTrim : '=' ∈ trimBoth isNumberBlank cs := by
    have hStart := mem_dropWhile h hBlank
    exact List.mem_reverse.mpr (mem_dropWhile (List.mem_reverse.mpr hStart) hBlank)
  have hSign {ds : List Char} (hds : '=' ∈ ds) : '=' ∈ (takeSign ds).2 := by
    unfold takeSign
    split
    · simpa using hds
    · simpa using hds
    · exact hds
  have hAscii : asciiDigit '=' = '=' := by decide
  have hBody : '=' ∈ ((takeSign (trimBoth isNumberBlank cs)).2.map asciiDigit) :=
    List.mem_map.mpr ⟨'=', hSign hTrim, hAscii⟩
  show (readMagnitude? ((takeSign (trimBoth isNumberBlank cs)).2.map asciiDigit)).map _ = none
  rw [readMagnitude?_eq_none hBody]
  rfl

end ProjectAtlas.Text
