import ProjectAtlas.Text.Pieces

/-!
Cutting texts in which a character stands at one place, or nowhere; and putting texts in order.
-/

namespace ProjectAtlas.Text

/-- No piece of a cut text holds the separator. -/
theorem not_mem_of_mem_splitOn {sep : Char} {cs : List Char} :
    ∀ p ∈ cs.splitOn sep, sep ∉ p := by
  induction cs with
  | nil => simp
  | cons c cs ih =>
      rw [List.splitOn_cons_eq_if_modifyHead]
      split
      · exact List.forall_mem_cons.mpr ⟨by simp, ih⟩
      · rename_i hApart
        obtain ⟨q, qs, hPieces⟩ := List.exists_cons_of_ne_nil (List.splitOn_ne_nil sep cs)
        rw [hPieces, List.forall_mem_cons] at ih
        rw [hPieces, List.modifyHead_cons]
        exact List.forall_mem_cons.mpr ⟨by grind, ih.2⟩

/-- Names without slashes come back when their join is cut at the slashes. -/
theorem splitOn_slash_intercalate {ss : List String} (hSome : ss ≠ [])
    (hSlash : ∀ s ∈ ss, '/' ∉ s.toList) :
    (("/".intercalate ss).toList.splitOn '/').map String.ofList = ss := by
  have hApart : ∀ cs ∈ ss.map String.toList, '/' ∉ cs := by
    intro cs hcs
    obtain ⟨s, hs, rfl⟩ := List.mem_map.mp hcs
    exact hSlash s hs
  rw [String.toList_intercalate]
  change (List.splitOn '/' (['/'].intercalate (ss.map String.toList))).map String.ofList = ss
  rw [List.splitOn_intercalate '/' hApart (by simpa using hSome), List.map_map]
  simp [Function.comp_def]

/-- A text is cut at the first place of a character. -/
theorem cutAt?_append {c : Char} {front : List Char} (h : c ∉ front) (t : List Char) :
    cutAt? [c] (front ++ c :: t) = some (front, t) := by
  induction front with
  | nil => simp [cutAt?]
  | cons d front ih =>
      rw [List.mem_cons, not_or] at h
      rw [List.cons_append, cutAt?, ih h.2]
      simp [h.1]

/-- The first place of a character splits a text in one way. -/
theorem eq_of_append_cons_eq {c : Char} {front front' t t' : List Char} (h : c ∉ front)
    (h' : c ∉ front') (hSame : front ++ c :: t = front' ++ c :: t') : front = front' ∧ t = t' := by
  have hCut := congrArg (cutAt? [c]) hSame
  rw [cutAt?_append h, cutAt?_append h', Option.some.injEq] at hCut
  exact Prod.mk.inj hCut

/-- A mark is not found in a text that lacks its first character. -/
theorem cutAt?_eq_none {c : Char} {mark cs : List Char} (h : c ∉ cs) :
    cutAt? (c :: mark) cs = none := by
  induction cs with
  | nil => simp [cutAt?]
  | cons d cs ih =>
      rw [List.mem_cons, not_or] at h
      rw [cutAt?, ih h.2]
      simp [h.1]

theorem before_eq_self {c : Char} {mark cs : List Char} (h : c ∉ cs) :
    before (c :: mark) cs = cs := by
  rw [before, cutAt?_eq_none h]

theorem before_append {c : Char} {front : List Char} (h : c ∉ front) (t : List Char) :
    before [c] (front ++ c :: t) = front := by
  rw [before, cutAt?_append h]

/-- A mark that stands nowhere in a text is not found. -/
theorem cutAt?_eq_none_of_not_infix {mark cs : List Char} (h : ¬mark <:+: cs) :
    cutAt? mark cs = none := by
  induction cs with
  | nil =>
      have hMark : mark ≠ [] := by
        rintro rfl
        exact h (List.infix_refl [])
      simp [cutAt?, hMark]
  | cons c cs ih =>
      rw [List.infix_cons_iff, not_or] at h
      have hHead : mark.isPrefixOf (c :: cs) = false := by
        rw [Bool.eq_false_iff, Ne, List.isPrefixOf_iff_prefix]
        exact h.1
      simp [cutAt?, hHead, ih h.2]

theorem before_eq_self_of_not_infix {mark cs : List Char} (h : ¬mark <:+: cs) :
    before mark cs = cs := by
  rw [before, cutAt?_eq_none_of_not_infix h]

/-- Behind the first place of a mark a text may go on as it will. -/
theorem exists_cutAt?_append {mark text : List Char} (h : mark <:+: text) :
    ∃ front back, ∀ t, cutAt? mark (text ++ t) = some (front, back ++ t) := by
  induction text with
  | nil =>
      obtain rfl := List.infix_nil.mp h
      refine ⟨[], [], fun t => ?_⟩
      cases t <;> simp [cutAt?]
  | cons c cs ih =>
      by_cases hHead : mark <+: c :: cs
      · refine ⟨[], (c :: cs).drop mark.length, fun t => ?_⟩
        have hMore : mark.isPrefixOf (c :: (cs ++ t)) = true :=
          List.isPrefixOf_iff_prefix.mpr (hHead.trans (List.prefix_append (c :: cs) t))
        have hDrop : (c :: cs ++ t).drop mark.length = (c :: cs).drop mark.length ++ t :=
          List.drop_append_of_le_length hHead.length_le
        rw [List.cons_append, cutAt?, if_pos hMore, ← List.cons_append, hDrop]
      · have hRest := (List.infix_cons_iff.mp h).resolve_left hHead
        obtain ⟨front, back, hCut⟩ := ih hRest
        refine ⟨c :: front, back, fun t => ?_⟩
        -- The mark fits into `cs`, so it would begin there already.
        have hNone : ¬mark.isPrefixOf (c :: (cs ++ t)) = true := by
          intro hMore
          have hLong : mark.length ≤ (c :: cs).length :=
            Nat.le_trans hRest.length_le (Nat.le_succ _)
          exact hHead (List.prefix_of_prefix_length_le (List.isPrefixOf_iff_prefix.mp hMore)
            (List.prefix_append (c :: cs) t) hLong)
        rw [List.cons_append, cutAt?, if_neg hNone, hCut]
        rfl

theorem before_append_of_infix {mark text : List Char} (h : mark <:+: text) (t : List Char) :
    before mark (text ++ t) = before mark text := by
  obtain ⟨front, back, hCut⟩ := exists_cutAt?_append h
  have hOwn := hCut []
  rw [List.append_nil] at hOwn
  rw [before, before, hCut t, hOwn]

theorem prefix_before (mark cs : List Char) : before mark cs <+: cs := by
  induction cs with
  | nil => cases mark <;> exact List.nil_prefix
  | cons c cs ih =>
      rw [before] at ih ⊢
      rw [cutAt?]
      by_cases hHead : mark.isPrefixOf (c :: cs) = true
      · rw [if_pos hHead]
        exact List.nil_prefix
      · rw [if_neg hHead]
        cases hCut : cutAt? mark cs with
        | none => exact List.prefix_rfl
        | some r =>
            rw [hCut] at ih
            exact List.cons_prefix_cons.mpr ⟨rfl, ih⟩

theorem mem_intercalate {sep : List Char} {ps : List (List Char)} {c : Char}
    (h : c ∈ sep.intercalate ps) : c ∈ sep ∨ ∃ p ∈ ps, c ∈ p := by
  induction ps with
  | nil => cases h
  | cons p ps ih =>
      rcases Classical.em (ps = []) with rfl | hSome
      · exact .inr ⟨p, by simp, by simpa using h⟩
      · rw [List.intercalate_cons_of_ne_nil hSome, List.mem_append, List.mem_append] at h
        rcases h with (hPiece | hSep) | hRest
        · exact .inr ⟨p, by simp, hPiece⟩
        · exact .inl hSep
        · rcases ih hRest with hSep | ⟨a, ha, hPiece⟩
          · exact .inl hSep
          · exact .inr ⟨a, List.mem_cons_of_mem p ha, hPiece⟩

/-- The characters of every piece stand in the join. -/
theorem mem_intercalate_of_mem {sep p : List Char} {ps : List (List Char)} (hp : p ∈ ps) {c : Char}
    (hc : c ∈ p) : c ∈ sep.intercalate ps := by
  induction ps with
  | nil => cases hp
  | cons q ps ih =>
      rcases Classical.em (ps = []) with rfl | hSome
      · rw [List.mem_singleton.mp hp] at hc
        simpa using hc
      · rw [List.intercalate_cons_of_ne_nil hSome, List.mem_append, List.mem_append]
        rcases List.mem_cons.mp hp with rfl | hp
        · exact .inl (.inl hc)
        · exact .inr (ih hp)

/-- What is kept of a join is the join of what is kept of the pieces. -/
theorem filter_intercalate (f : Char → Bool) (sep : List Char) (ps : List (List Char)) :
    (sep.intercalate ps).filter f = (sep.filter f).intercalate (ps.map fun p => p.filter f) := by
  induction ps with
  | nil => rfl
  | cons p ps ih =>
      rcases Classical.em (ps = []) with rfl | hSome
      · simp
      · rw [List.intercalate_cons_of_ne_nil hSome, List.map_cons,
          List.intercalate_cons_of_ne_nil (by simpa using hSome), List.filter_append,
          List.filter_append, ih]

theorem length_le_intercalate {sep p : List Char} {ps : List (List Char)} (hp : p ∈ ps) :
    p.length ≤ (sep.intercalate ps).length := by
  induction ps with
  | nil => cases hp
  | cons q ps ih =>
      rcases Classical.em (ps = []) with rfl | hSome
      · simp [List.mem_singleton.mp hp]
      · rw [List.intercalate_cons_of_ne_nil hSome, List.length_append, List.length_append]
        rcases List.mem_cons.mp hp with rfl | hp
        · omega
        · have hRest := ih hp
          omega

/-- Joins of pieces are joined like pieces. -/
theorem intercalate_append (sep : List Char) {ps qs : List (List Char)} (hFront : ps ≠ [])
    (hBack : qs ≠ []) :
    sep.intercalate (ps ++ qs) = sep.intercalate ps ++ sep ++ sep.intercalate qs := by
  induction ps with
  | nil => exact absurd rfl hFront
  | cons p ps ih =>
      rcases Classical.em (ps = []) with rfl | hSome
      · simp [List.intercalate_cons_of_ne_nil hBack]
      · rw [List.cons_append, List.intercalate_cons_of_ne_nil (by simp [hSome]),
          List.intercalate_cons_of_ne_nil hSome, ih hSome]
        simp only [List.append_assoc]

/-! Lists in the order of texts, which compares code points from the front. -/

/-- Sorting by a text puts the items in the order of these texts. -/
theorem pairwise_le_mergeSort {α : Type} (key : α → String) (xs : List α) :
    (xs.mergeSort fun a b => key a ≤ key b).Pairwise fun a b => key a ≤ key b := by
  have hSorted : (xs.mergeSort fun a b => key a ≤ key b).Pairwise
      fun a b => decide (key a ≤ key b) = true := by
    refine List.pairwise_mergeSort (fun a b c hab hbc => ?_) (fun a b => ?_) xs
    · simp only [decide_eq_true_eq] at hab hbc ⊢
      exact String.le_trans hab hbc
    · simpa using String.le_total (key a) (key b)
  exact hSorted.imp of_decide_eq_true

/-- Items that are sorted by different texts ascend. -/
theorem pairwise_lt_of_apart {α : Type} (key : α → String) {xs : List α}
    (hSorted : xs.Pairwise fun a b => key a ≤ key b)
    (hApart : xs.Pairwise fun a b => key a ≠ key b) : xs.Pairwise fun a b => key a < key b := by
  refine (hSorted.and hApart).imp fun {a b} h => ?_
  apply String.not_le.mp
  exact fun hBack => h.2 (String.le_antisymm h.1 hBack)

end ProjectAtlas.Text
