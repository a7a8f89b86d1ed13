import Mathlib.Data.List.Basic
import ProjectAtlas.Proofs.Source.EnumBody

/-!
Annotations inside a text. An annotation ends at the first closing parenthesis, whatever stands in it,
so of an annotation whose own text has closing parentheses a rest is left. The rest depends on this
text alone, and not on what stands in front of the annotation or behind it.
-/

namespace ProjectAtlas.Source

open ProjectAtlas.Text

/-- The name of an annotation. -/
def metaName : List Char := ['U', 'M', 'E', 'T', 'A']

/-- An annotation with this text. -/
def noteText (m : List Char) : List Char :=
  metaName ++ '(' :: m ++ [')']

theorem toList_metaName : "UMETA".toList = metaName := by
  decide

/-- An annotation at the head: its name, blanks, and a group up to the first closing parenthesis. -/
theorem afterMeta?_eq_some_iff {cs after : List Char} :
    afterMeta? cs = some after ↔
      ∃ gap inner, (∀ c ∈ gap, isBlank c = true) ∧ ')' ∉ inner ∧
        cs = metaName ++ gap ++ '(' :: inner ++ ')' :: after := by
  constructor
  · intro h
    unfold afterMeta? at h
    split at h
    · rename_i hPrefix
      rw [toList_metaName, List.isPrefixOf_iff_prefix] at hPrefix
      obtain ⟨rest, rfl⟩ := hPrefix
      have hDrop : (metaName ++ rest).drop 5 = rest := rfl
      rw [hDrop] at h
      split at h
      · rename_i group hOpen
        split at h
        · rename_i close found hClose
          cases h
          have hRest : rest = rest.takeWhile isBlank ++ '(' :: group := by
            rw [← hOpen]
            exact List.takeWhile_append_dropWhile.symm
          have hMark : close = ')' := by
            have hHead := List.head?_dropWhile_not (· != ')') group
            rw [hClose] at hHead
            simpa using hHead
          have hGroup : group = group.takeWhile (· != ')') ++ ')' :: after := by
            rw [hMark] at hClose
            rw [← hClose]
            exact List.takeWhile_append_dropWhile.symm
          refine ⟨rest.takeWhile isBlank, group.takeWhile (· != ')'), ?_, ?_, ?_⟩
          · exact fun c hc => List.mem_takeWhile_imp hc
          · exact fun hMem => by simpa using List.mem_takeWhile_imp hMem
          · conv_lhs => rw [hRest, hGroup]
            simp
        · cases h
      · cases h
    · cases h
  · rintro ⟨gap, inner, hGap, hInner, rfl⟩
    have hPrefix : metaName.isPrefixOf (metaName ++ gap ++ '(' :: inner ++ ')' :: after) = true := by
      rw [List.isPrefixOf_iff_prefix, List.append_assoc, List.append_assoc]
      exact List.prefix_append _ _
    have hOpen : trimStart ((metaName ++ gap ++ '(' :: inner ++ ')' :: after).drop 5) =
        '(' :: (inner ++ ')' :: after) := by
      show trimStart (gap ++ '(' :: inner ++ ')' :: after) = _
      rw [trimStart, List.append_assoc, List.dropWhile_append_of_pos hGap]
      rfl
    have hClose : (inner ++ ')' :: after).dropWhile (· != ')') = ')' :: after := by
      rw [List.dropWhile_append_of_pos]
      · rfl
      · intro c hc
        have hOther : c ≠ ')' := fun hSame => hInner (hSame ▸ hc)
        simpa using hOther
    simp only [afterMeta?, toList_metaName, hPrefix, if_true, hOpen, hClose]

theorem dropMetaFrom_eq_drop (k : Nat) (cs : List Char) :
    dropMetaFrom k cs = dropMeta (cs.drop k) := by
  induction cs generalizing k with
  | nil => simp [dropMeta, dropMetaFrom]
  | cons c cs ih =>
      cases k with
      | zero => rfl
      | succ k => exact ih k

/-- A character at which no annotation begins is kept. -/
theorem dropMeta_cons {c : Char} {cs : List Char} (h : afterMeta? (c :: cs) = none) :
    dropMeta (c :: cs) = c :: dropMeta cs := by
  rw [dropMeta, dropMetaFrom, h]
  rfl

/-- An annotation at the head is dropped. -/
theorem dropMeta_of_afterMeta? {cs after : List Char} (h : afterMeta? cs = some after) :
    dropMeta cs = dropMeta after := by
  obtain ⟨gap, inner, -, -, hShape⟩ := afterMeta?_eq_some_iff.mp h
  cases cs with
  | nil => cases hShape
  | cons c cs =>
      have hRest : cs = ['M', 'E', 'T', 'A'] ++ gap ++ '(' :: inner ++ [')'] ++ after := by
        rw [metaName, List.cons_append, List.cons_append, List.cons_append, List.cons.injEq] at hShape
        simpa using hShape.2
      have hDrop : cs.drop (cs.length - after.length) = after := by
        rw [hRest, List.length_append, Nat.add_sub_cancel, List.drop_left]
      rw [dropMeta, dropMetaFrom, h]
      exact (dropMetaFrom_eq_drop _ _).trans (congrArg dropMeta hDrop)

/-- No annotation begins in front of the name of an annotation and goes on behind it. -/
theorem afterMeta?_append_note {w : List Char} (hSome : w ≠ []) (hOpen : '(' ∉ w) (t : List Char) :
    afterMeta? (w ++ (metaName ++ '(' :: t)) = none := by
  cases hFound : afterMeta? (w ++ (metaName ++ '(' :: t)) with
  | none => rfl
  | some after =>
      obtain ⟨gap, inner, hGap, -, hShape⟩ := afterMeta?_eq_some_iff.mp hFound
      have hBlankOpen : '(' ∉ gap := fun hMem => absurd (hGap _ hMem) (by decide)
      have hLeft : '(' ∉ w ++ metaName := by simp [hOpen, metaName]
      have hRight : '(' ∉ metaName ++ gap := by simp [hBlankOpen, metaName]
      rw [← List.append_assoc, List.append_assoc (metaName ++ gap), List.cons_append] at hShape
      -- Both texts hold their first opening parenthesis at the same place.
      obtain ⟨hFront, -⟩ := eq_of_append_cons_eq hLeft hRight hShape
      cases hLast : gap.getLast? with
      | none =>
          rw [List.getLast?_eq_none_iff.mp hLast, List.append_nil] at hFront
          exact absurd (List.append_left_eq_self.mp hFront) hSome
      | some c =>
          have hEnds := congrArg List.getLast? hFront
          rw [List.getLast?_append, List.getLast?_append, hLast, metaName] at hEnds
          have hBlank := hGap c (List.mem_of_mem_getLast? hLast)
          cases hEnds
          exact absurd hBlank (by decide)

/-- A text without parentheses in front of an annotation is kept. -/
theorem dropMeta_append_note {w : List Char} (hOpen : '(' ∉ w) (t : List Char) :
    dropMeta (w ++ (metaName ++ '(' :: t)) = w ++ dropMeta (metaName ++ '(' :: t) := by
  induction w with
  | nil => rfl
  | cons c w ih =>
      have hNone : afterMeta? (c :: (w ++ (metaName ++ '(' :: t))) = none :=
        afterMeta?_append_note (List.cons_ne_nil c w) hOpen t
      rw [List.cons_append, dropMeta_cons hNone, ih fun hMem => hOpen (List.mem_cons_of_mem c hMem)]
      rfl

/-- An annotation that begins in front of a closing parenthesis ends there at the latest. -/
theorem afterMeta?_append_close (front t : List Char) :
    afterMeta? (front ++ ')' :: t) = (afterMeta? (front ++ [')'])).map (· ++ t) := by
  have hSplit : front ++ ')' :: t = (front ++ [')']) ++ t := by simp
  cases hOwn : afterMeta? (front ++ [')']) with
  | some after =>
      obtain ⟨gap, inner, hGap, hInner, hShape⟩ := afterMeta?_eq_some_iff.mp hOwn
      apply afterMeta?_eq_some_iff.mpr
      exact ⟨gap, inner, hGap, hInner, by rw [hSplit, hShape]; simp⟩
  | none =>
      cases hFound : afterMeta? (front ++ ')' :: t) with
      | none => rfl
      | some after =>
          obtain ⟨gap, inner, hGap, hInner, hShape⟩ := afterMeta?_eq_some_iff.mp hFound
          let note := metaName ++ gap ++ '(' :: inner
          have hNote : ')' ∉ note := by
            have hBlank : ')' ∉ gap := fun hMem => absurd (hGap _ hMem) (by decide)
            simp [note, metaName, hBlank, hInner]
          have hPrefix : note ++ [')'] <+: front ++ [')'] := by
            have hLong : note ++ [')'] <+: front ++ ')' :: t := ⟨after, by rw [hShape]; simp [note]⟩
            have hShort : front ++ [')'] <+: front ++ ')' :: t := ⟨t, hSplit.symm⟩
            rcases List.prefix_or_prefix_of_prefix hLong hShort with h | h
            · exact h
            · rcases List.prefix_concat_iff.mp h with hSame | hInside
              · exact hSame ▸ List.prefix_rfl
              · exact absurd (hInside.mem (by simp)) hNote
          obtain ⟨rest, hRest⟩ := hPrefix
          have hSome : afterMeta? (front ++ [')']) = some rest :=
            afterMeta?_eq_some_iff.mpr ⟨gap, inner, hGap, hInner, by rw [← hRest]; simp [note]⟩
          rw [hOwn] at hSome
          cases hSome

/-- What annotations leave in front of a closing parenthesis, and what they leave behind it. -/
theorem dropMeta_append_close (front t : List Char) :
    dropMeta (front ++ ')' :: t) = dropMeta (front ++ [')']) ++ dropMeta t := by
  induction hLength : front.length using Nat.strongRecOn generalizing front with
  | ind n ih =>
      cases hOwn : afterMeta? (front ++ [')']) with
      | some after =>
          have hFound : afterMeta? (front ++ ')' :: t) = some (after ++ t) := by
            rw [afterMeta?_append_close, hOwn]
            rfl
          rw [dropMeta_of_afterMeta? hFound, dropMeta_of_afterMeta? hOwn]
          obtain ⟨gap, inner, -, -, hShape⟩ := afterMeta?_eq_some_iff.mp hOwn
          rcases List.eq_nil_or_concat after with rfl | ⟨less, close, rfl⟩
          · rfl
          · have hLast : front = metaName ++ gap ++ '(' :: inner ++ ')' :: less ∧ ')' = close := by
              apply List.append_singleton_inj.mp
              rw [hShape]
              simp
            obtain ⟨hFront, rfl⟩ := hLast
            have hLess : less.length < n := by
              rw [← hLength, hFront]
              simp
              omega
            have hRest := ih less.length hLess less rfl
            rw [List.concat_eq_append, List.append_assoc, List.singleton_append, hRest]
      | none =>
          have hNone : afterMeta? (front ++ ')' :: t) = none := by
            rw [afterMeta?_append_close, hOwn]
            rfl
          cases front with
          | nil =>
              rw [List.nil_append] at hNone hOwn
              rw [List.nil_append, List.nil_append, dropMeta_cons hNone, dropMeta_cons hOwn]
              rfl
          | cons c front =>
              have hLess : front.length < n := by
                rw [← hLength, List.length_cons]
                omega
              rw [List.cons_append] at hNone hOwn
              rw [List.cons_append, List.cons_append, dropMeta_cons hNone, dropMeta_cons hOwn,
                ih front.length hLess front rfl]
              rfl

/-- What is left of an annotation with this text. -/
def residue (m : List Char) : List Char :=
  dropMeta (noteText m)

/-- An annotation leaves the same wherever it stands. -/
theorem dropMeta_noteText_append (m t : List Char) :
    dropMeta (noteText m ++ t) = residue m ++ dropMeta t := by
  have hShape : noteText m ++ t = (metaName ++ '(' :: m) ++ ')' :: t := by simp [noteText]
  rw [hShape, dropMeta_append_close]
  rfl

theorem dropMeta_blanks_append {gap : List Char} (hGap : ∀ c ∈ gap, isBlank c = true)
    (t : List Char) : dropMeta (gap ++ t) = gap ++ dropMeta t := by
  induction gap with
  | nil => rfl
  | cons c gap ih =>
      obtain ⟨hFirst, hRest⟩ := List.forall_mem_cons.mp hGap
      have hNone : afterMeta? (c :: (gap ++ t)) = none := by
        have hOther : c ≠ 'U' := by
          rintro rfl
          exact absurd hFirst (by decide)
        simp [afterMeta?, toList_metaName, metaName, Ne.symm hOther]
      rw [List.cons_append, dropMeta_cons hNone, ih hRest]
      rfl

/-- An annotation ends at the first closing parenthesis; blanks behind its name count for nothing. -/
theorem dropMeta_note {inner m : List Char} (hInner : ∀ c ∈ inner, isBlank c = true)
    (hClose : ')' ∉ m) (t : List Char) :
    dropMeta (metaName ++ inner ++ '(' :: m ++ ')' :: t) = dropMeta t :=
  dropMeta_of_afterMeta? (afterMeta?_eq_some_iff.mpr ⟨inner, m, hInner, hClose, rfl⟩)

theorem residue_of_not_mem {m : List Char} (hClose : ')' ∉ m) : residue m = [] :=
  dropMeta_note (List.forall_mem_nil _) hClose []

/-- What follows the first closing parenthesis is left. -/
theorem residue_append {front : List Char} (hClose : ')' ∉ front) (rest : List Char) :
    residue (front ++ ')' :: rest) = dropMeta (rest ++ [')']) := by
  have hShape : noteText (front ++ ')' :: rest) =
      metaName ++ [] ++ '(' :: front ++ ')' :: (rest ++ [')']) := by simp [noteText]
  rw [residue, hShape, dropMeta_note (by simp) hClose]

theorem dropMeta_inner_eq_residue {inner : List Char} (hInner : ∀ c ∈ inner, isBlank c = true)
    (m : List Char) : dropMeta (metaName ++ inner ++ '(' :: m ++ [')']) = residue m := by
  by_cases hClose : ')' ∈ m
  · obtain ⟨front, rest, rfl, hFront⟩ := List.eq_append_cons_of_mem hClose
    have hShape : metaName ++ inner ++ '(' :: (front ++ ')' :: rest) ++ [')'] =
        metaName ++ inner ++ '(' :: front ++ ')' :: (rest ++ [')']) := by simp
    rw [residue_append hFront, hShape, dropMeta_note hInner hFront]
  · rw [residue_of_not_mem hClose, dropMeta_note hInner hClose]
    rfl

/-- The text of an annotation, if what follows the first closing parenthesis in it happens to be the
beginning of another annotation. -/
inductive ReadsAsNotes : List Char → Prop where
  | last {m : List Char} (hClose : ')' ∉ m) : ReadsAsNotes m
  | next {front gap inner m : List Char} (hClose : ')' ∉ front)
      (hGap : ∀ c ∈ gap, isBlank c = true) (hInner : ∀ c ∈ inner, isBlank c = true)
      (hRest : ReadsAsNotes m) :
      ReadsAsNotes (front ++ ')' :: (gap ++ metaName ++ inner ++ '(' :: m))

theorem ReadsAsNotes.residue {m : List Char} (h : ReadsAsNotes m) :
    ∀ c ∈ Source.residue m, isBlank c = true := by
  induction h with
  | last hClose => simp [residue_of_not_mem hClose]
  | @next front gap inner m hClose hGap hInner _ ih =>
      have hShape : gap ++ metaName ++ inner ++ '(' :: m ++ [')'] =
          gap ++ (metaName ++ inner ++ '(' :: m ++ [')']) := by simp
      rw [residue_append hClose, hShape, dropMeta_blanks_append hGap,
        dropMeta_inner_eq_residue hInner]
      intro c hc
      rcases List.mem_append.mp hc with hc | hc
      · exact hGap c hc
      · exact ih c hc

/-- If nothing but blanks is left of a text in front of a closing parenthesis, and it does not begin with
a blank, then it begins with an annotation. -/
theorem exists_note_of_blank {y : List Char}
    (hKept : ∀ c ∈ dropMeta (y ++ [')']), isBlank c = true)
    (hFirst : ∀ c ∈ y.head?, isBlank c = false) :
    ∃ inner m, (∀ c ∈ inner, isBlank c = true) ∧ y = metaName ++ inner ++ '(' :: m := by
  cases hNote : afterMeta? (y ++ [')']) with
  | none =>
      cases y with
      | nil =>
          rw [List.nil_append] at hNote hKept
          rw [dropMeta_cons hNote] at hKept
          exact absurd (hKept ')' List.mem_cons_self) (by decide)
      | cons d y =>
          rw [List.cons_append] at hNote hKept
          rw [dropMeta_cons hNote] at hKept
          have hHead := hKept d List.mem_cons_self
          rw [hFirst d rfl] at hHead
          cases hHead
  | some after =>
      obtain ⟨inner, group, hInner, -, hShape⟩ := afterMeta?_eq_some_iff.mp hNote
      rcases List.eq_nil_or_concat (group ++ ')' :: after) with hNone | ⟨m, close, hGroup⟩
      · simp at hNone
      · refine ⟨inner, m, hInner, ?_⟩
        have hWhole : y ++ [')'] = (metaName ++ inner ++ '(' :: m) ++ [close] := by
          rw [hShape, List.append_assoc, List.cons_append, hGroup, List.concat_eq_append]
          simp
        exact (List.append_singleton_inj.mp hWhole).1

/-- Only such texts leave nothing but blanks. -/
theorem readsAsNotes_of_residue {m : List Char} (h : ∀ c ∈ residue m, isBlank c = true) :
    ReadsAsNotes m := by
  induction hLength : m.length using Nat.strongRecOn generalizing m with
  | ind n ih =>
      by_cases hClose : ')' ∈ m
      · obtain ⟨front, rest, rfl, hFront⟩ := List.eq_append_cons_of_mem hClose
        let gap := rest.takeWhile isBlank
        let y := rest.dropWhile isBlank
        have hRest : gap ++ y = rest := List.takeWhile_append_dropWhile
        have hGap : ∀ c ∈ gap, isBlank c = true := fun c hc => List.mem_takeWhile_imp hc
        rw [residue_append hFront, ← hRest, List.append_assoc, dropMeta_blanks_append hGap] at h
        have hKept : ∀ c ∈ dropMeta (y ++ [')']), isBlank c = true := fun c hc =>
          h c (List.mem_append_right gap hc)
        have hHead : ∀ c ∈ y.head?, isBlank c = false := by
          intro c hc
          have hStop := List.head?_dropWhile_not isBlank rest
          rw [Option.mem_def.mp hc] at hStop
          exact hStop
        obtain ⟨inner, m, hInner, hNote⟩ := exists_note_of_blank hKept hHead
        have hLess : m.length < n := by
          rw [← hLength, ← hRest, hNote]
          simp
          omega
        rw [hNote, dropMeta_inner_eq_residue hInner] at hKept
        have hShape : rest = gap ++ metaName ++ inner ++ '(' :: m := by
          rw [← hRest, hNote]
          simp
        rw [hShape]
        exact .next hFront hGap hInner (ih m.length hLess hKept rfl)
      · exact .last hClose

instance (m : List Char) : Decidable (ReadsAsNotes m) :=
  decidable_of_iff (∀ c ∈ residue m, isBlank c = true)
    ⟨readsAsNotes_of_residue, ReadsAsNotes.residue⟩

/-- A part of a line: an annotation, or a text without any. -/
inductive Segment where
  | plain (text : List Char)
  | note (text : List Char)

/-- The segment as it is written. -/
def Segment.text : Segment → List Char
  | .plain text => text
  | .note text => noteText text

/-- What is kept of the segment. -/
def Segment.kept : Segment → List Char
  | .plain text => text
  | .note text => residue text

/-- Every segment is dropped or kept for itself, if parentheses are only in the annotations. -/
theorem dropMeta_segments {segments : List Segment}
    (hPlain : ∀ w, .plain w ∈ segments → '(' ∉ w) {front : List Char} (hFront : '(' ∉ front) :
    dropMeta (front ++ segments.flatMap Segment.text) = front ++ segments.flatMap Segment.kept := by
  induction segments generalizing front with
  | nil => simp [dropMeta_eq_self hFront]
  | cons s segments ih =>
      have hRest : ∀ w, .plain w ∈ segments → '(' ∉ w := fun w hw =>
        hPlain w (List.mem_cons_of_mem s hw)
      rw [List.flatMap_cons, List.flatMap_cons]
      cases s with
      | plain w =>
          have hMore : '(' ∉ front ++ w := by
            simp [hFront, hPlain w List.mem_cons_self]
          rw [Segment.text, Segment.kept, ← List.append_assoc, ih hRest hMore, List.append_assoc]
      | note m =>
          have hShape : front ++ (noteText m ++ segments.flatMap Segment.text) =
              front ++ (metaName ++ '(' :: (m ++ ')' :: segments.flatMap Segment.text)) := by
            simp [noteText]
          have hNote : metaName ++ '(' :: (m ++ ')' :: segments.flatMap Segment.text) =
              noteText m ++ segments.flatMap Segment.text := by
            simp [noteText]
          have hKept := ih hRest (List.not_mem_nil : '(' ∉ [])
          rw [List.nil_append, List.nil_append] at hKept
          rw [Segment.text, Segment.kept, hShape, dropMeta_append_note hFront, hNote,
            dropMeta_noteText_append, hKept]

theorem dropMeta_sublist (cs : List Char) : (dropMeta cs).Sublist cs := by
  have hFrom : ∀ k, (dropMetaFrom k cs).Sublist cs := by
    induction cs with
    | nil => intro k; simp [dropMetaFrom]
    | cons c cs ih =>
        intro k
        cases k with
        | succ k => exact (ih k).cons c
        | zero =>
            rw [dropMetaFrom]
            split
            · exact (ih _).cons c
            · exact (ih 0).cons_cons c
  exact hFrom 0

end ProjectAtlas.Source
