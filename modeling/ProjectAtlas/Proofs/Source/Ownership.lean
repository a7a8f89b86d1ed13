import Mathlib.Data.List.Forall2
import ProjectAtlas.Source.Classifier

/-!
Which marker makes an entity, and which type a function belongs to.

The header of an entity stands between its marker and the next one. So the entities of a file stand in
it in the order of their markers, no two of them on one line, and the name that is handed on while the
file is read is that of the nearest class, struct or interface above.
-/

namespace ProjectAtlas.Source

open ProjectAtlas.Text

/-- The line of the header. -/
def Reflected.line : Reflected → Nat
  | .declaration d => d.line
  | .callable c => c.line

/-- The text stands in the window of the marker on line `m`: on that line behind the marker's own list,
or whole on one of the `window` lines below it, and no other marker comes down to it. -/
structure Candidate.Below (window : Nat) (ls : List (List Char)) (m : Nat) (c : Candidate) :
    Prop where
  notAbove : m ≤ c.number
  notPast : c.number ≤ m + window
  unmarked : ∀ line n, (line, n) ∈ ls.zipIdx 1 → m < n → n ≤ c.number → isMarker line = false
  text : ∃ line, (line, c.number) ∈ ls.zipIdx 1 ∧
    c.text = if c.number = m then (extractSpecifiers line).2 else line
  below : c.below = ls.drop c.number
  remaining : c.remaining = m + window - c.number

/-- The marker on line `m` makes the entity, out of a header in its window. A function belongs to
`owner` if its header has no qualifier. -/
inductive MadeBy (windows : Windows) (ls : List (List Char)) (owner : String) (m : Nat) :
    Reflected → Prop where
  | declaration {d : Declaration} {marker : List Char} {c : Candidate}
      (hMarker : (marker, m) ∈ ls.zipIdx 1) (hKind : typeMarker? marker = some d.kind)
      (hBelow : c.Below windows.declaration ls m) (hLine : d.line = c.number)
      (hHeader : headerOf? d.kind c.text = some (d.name.toList, d.parent.map String.toList)) :
      MadeBy windows ls owner m (.declaration d)
  | callable {f : Callable} {marker : List Char} {c : Candidate} {s : Signature}
      (hMarker : (marker, m) ∈ ls.zipIdx 1) (hKind : isCallableMarker marker = true)
      (hBelow : c.Below windows.callable ls m) (hLine : f.line = c.number)
      (hHeader : signatureOf? (joinWrapped c.text (c.below.take c.remaining)) = some s)
      (hName : f.name.toList = s.name)
      (hOwner : f.owner = if s.qualifier = [] then owner else String.ofList s.qualifier) :
      MadeBy windows ls owner m (.callable f)

/-- The kinds of types that functions belong to. -/
def ownerKinds : List DeclarationKind :=
  [.classType, .structType, .interfaceType]

/-- The name is that of the class, struct or interface with the greatest line above this one; it is
empty if there is none above. -/
inductive NearestOwner (ds : List Declaration) (line : Nat) : String → Prop where
  | found {d : Declaration} (hMem : d ∈ ds) (hKind : d.kind ∈ ownerKinds) (hAbove : d.line < line)
      (hNearest : ∀ e ∈ ds, e.kind ∈ ownerKinds → e.line < line → e.line ≤ d.line) :
      NearestOwner ds line d.name
  | none (hNone : ∀ e ∈ ds, e.kind ∈ ownerKinds → line ≤ e.line) : NearestOwner ds line ""

/-- The entities stand in the order of their markers, one at most for a marker, on ascending lines, and
the functions among them belong to the nearest type above them. -/
structure OwnedInOrder (windows : Windows) (ls : List (List Char)) (rs : List Reflected) : Prop where
  made : ∃ ms : List Nat, ms.Pairwise (· < ·) ∧
    List.Forall₂ (fun m r => ∃ owner, NearestOwner (declarationsOf rs) r.line owner ∧
      MadeBy windows ls owner m r) ms rs
  ascending : rs.Pairwise fun r s => r.line < s.line

section Candidates

theorem mem_zipIdx_append_cons (above below : List (List Char)) (line : List Char) :
    (line, above.length + 1) ∈ (above ++ line :: below).zipIdx 1 := by
  simp [List.mk_mem_zipIdx_iff_le_and_getElem?_sub]

theorem drop_append_cons (above below : List (List Char)) (line : List Char) :
    (above ++ line :: below).drop (above.length + 1) = below := by
  simp

/-- A text below a marker is one of the lines of the window, and neither it nor a line passed over is a
marker. -/
theorem split_of_mem_candidatesBelow {window number : Nat} {ls : List (List Char)} {c : Candidate}
    (h : c ∈ candidatesBelow window number ls) :
    ∃ passed, ls = passed ++ c.text :: c.below ∧ c.number = number + passed.length ∧
      passed.length + 1 + c.remaining = window ∧
      ∀ l ∈ passed ++ [c.text], isMarker l = false := by
  induction ls generalizing window number with
  | nil => simp [candidatesBelow] at h
  | cons line ls ih =>
      cases window with
      | zero => simp [candidatesBelow] at h
      | succ w =>
          cases hMarker : isMarker line with
          | true => simp [candidatesBelow, hMarker] at h
          | false =>
              have hCases : c = ⟨number, line, ls, w⟩ ∨ c ∈ candidatesBelow w (number + 1) ls := by
                simp only [candidatesBelow, hMarker, Bool.false_eq_true, if_false] at h
                split at h
                · exact .inr h
                · exact List.mem_cons.mp h
              rcases hCases with rfl | hLater
              · exact ⟨[], rfl, rfl, by simp [Nat.add_comm], by simp [hMarker]⟩
              · obtain ⟨passed, hLines, hNumber, hWindow, hUnmarked⟩ := ih hLater
                refine ⟨line :: passed, by simp [hLines], ?_, ?_, ?_⟩
                · simp only [List.length_cons]; omega
                · simp only [List.length_cons]; omega
                · simpa [hMarker] using hUnmarked

/-- What may be the header for a marker stands behind its list, or on a line below it. -/
theorem mem_candidates {window number : Nat} {marker : List Char} {below : List (List Char)}
    {c : Candidate} (h : c ∈ candidates window number marker below) :
    c = ⟨number, (extractSpecifiers marker).2, below, window⟩ ∨
      c ∈ candidatesBelow window (number + 1) below := by
  simp only [candidates] at h
  split at h
  · exact .inr h
  · exact List.mem_cons.mp h

/-- What may be the header for a marker stands in its window. -/
theorem below_of_mem_candidates {window : Nat} {above below : List (List Char)} {marker : List Char}
    {c : Candidate} (h : c ∈ candidates window (above.length + 1) marker below) :
    c.Below window (above ++ marker :: below) (above.length + 1) := by
  rcases mem_candidates h with rfl | hLater
  · exact {
      notAbove := Nat.le_refl _
      notPast := by simp
      unmarked := fun _ _ _ hAbove hBelow => absurd hAbove (Nat.not_lt.mpr hBelow)
      text := ⟨marker, mem_zipIdx_append_cons above below marker, by simp⟩
      below := (drop_append_cons above below marker).symm
      remaining := by simp }
  · obtain ⟨passed, hLines, hNumber, hWindow, hUnmarked⟩ := split_of_mem_candidatesBelow hLater
    have hSplit : above ++ marker :: below = (above ++ marker :: passed) ++ c.text :: c.below := by
      simp [hLines]
    have hPlace : c.number = (above ++ marker :: passed).length + 1 := by
      simp only [List.length_append, List.length_cons]
      omega
    exact {
      notAbove := by omega
      notPast := by omega
      unmarked := by
        -- A line between the marker and the text is one that was passed over, or the text itself.
        intro line n hLine hAbove hNotPast
        obtain ⟨-, hLine⟩ := List.mk_mem_zipIdx_iff_le_and_getElem?_sub.mp hLine
        have hBetween : above ++ marker :: below =
            (above ++ [marker]) ++ ((passed ++ [c.text]) ++ c.below) := by
          simp [hLines]
        rw [hBetween, List.getElem?_append_right (by simp; omega),
          List.getElem?_append_left (by simp; omega)] at hLine
        exact hUnmarked line (List.mem_of_getElem? hLine)
      text := by
        refine ⟨c.text, ?_, ?_⟩
        · rw [hSplit, hPlace]
          exact mem_zipIdx_append_cons _ _ _
        · rw [if_neg (by omega)]
      below := by
        rw [hSplit, hPlace, drop_append_cons]
      remaining := by omega }

end Candidates

section Step

variable {windows : Windows} {origin : Origin} {owner : String} {above below : List (List Char)}
  {marker : List Char}

theorem madeBy_of_readDeclaration? {kind : DeclarationKind} {d : Declaration}
    (hKind : typeMarker? marker = some kind)
    (h : readDeclaration? windows origin kind (above.length + 1) marker below = some d) :
    MadeBy windows (above ++ marker :: below) owner (above.length + 1) (.declaration d) := by
  obtain ⟨c, hMem, hRead⟩ := List.exists_of_findSome?_eq_some h
  obtain ⟨⟨name, parent⟩, hHeader, rfl⟩ := Option.map_eq_some_iff.mp hRead
  refine .declaration (mem_zipIdx_append_cons _ _ _) hKind (below_of_mem_candidates hMem) rfl ?_
  cases parent <;> simpa using hHeader

theorem madeBy_of_readCallable? {f : Callable} (hKind : isCallableMarker marker = true)
    (h : readCallable? windows origin owner (above.length + 1) marker below = some f) :
    MadeBy windows (above ++ marker :: below) owner (above.length + 1) (.callable f) := by
  obtain ⟨c, hMem, hRead⟩ := List.exists_of_findSome?_eq_some h
  obtain ⟨s, hHeader, rfl⟩ := Option.map_eq_some_iff.mp hRead
  refine .callable (mem_zipIdx_append_cons _ _ _) hKind (below_of_mem_candidates hMem) rfl hHeader
    (by simp) ?_
  simp only [List.isEmpty_iff]

/-- What a line makes, it makes as a marker, out of a header in its window. -/
theorem madeBy_of_readMarker? {r : Reflected}
    (h : readMarker? windows origin owner (above.length + 1) marker below = some r) :
    MadeBy windows (above ++ marker :: below) owner (above.length + 1) r := by
  rw [readMarker?] at h
  cases hType : typeMarker? marker with
  | some kind =>
      simp only [hType] at h
      obtain ⟨d, hRead, rfl⟩ := Option.map_eq_some_iff.mp h
      exact madeBy_of_readDeclaration? hType hRead
  | none =>
      simp only [hType] at h
      cases hCallable : isCallableMarker marker with
      | false => simp [hCallable] at h
      | true =>
          simp only [hCallable, if_true] at h
          obtain ⟨f, hRead, rfl⟩ := Option.map_eq_some_iff.mp h
          exact madeBy_of_readCallable? hCallable hRead

end Step

/-- The markers on these lines, one below the other and all below line `last`, make the entities. Each
class, struct or interface hands its name on to what comes after it. -/
inductive MadeInTurn (windows : Windows) (ls : List (List Char)) :
    String → Nat → List Nat → List Reflected → Prop where
  | done {owner : String} {last : Nat} : MadeInTurn windows ls owner last [] []
  | next {owner : String} {last m : Nat} {r : Reflected} {ms : List Nat} {rs : List Reflected}
      (hBelow : last < m) (first : MadeBy windows ls owner m r)
      (rest : MadeInTurn windows ls (r.ownerBelow owner) m ms rs) :
      MadeInTurn windows ls owner last (m :: ms) (r :: rs)

theorem MadeInTurn.mono {windows : Windows} {ls : List (List Char)} {owner : String} {last n : Nat}
    {ms : List Nat} {rs : List Reflected} (run : MadeInTurn windows ls owner last ms rs)
    (h : n ≤ last) : MadeInTurn windows ls owner n ms rs := by
  cases run with
  | done => exact .done
  | next hBelow first rest => exact .next (Nat.lt_of_le_of_lt h hBelow) first rest

/-- Reading lines is such a run. The owner at a line is what the lines above it handed on. -/
theorem madeInTurn_reflectedFrom (windows : Windows) (origin : Origin) (owner : String)
    (above below : List (List Char)) :
    ∃ ms, MadeInTurn windows (above ++ below) owner above.length ms
      (reflectedFrom windows origin owner (above.length + 1) below) := by
  induction below generalizing above owner with
  | nil => exact ⟨[], .done⟩
  | cons line below ih =>
      have hLines : above ++ line :: below = (above ++ [line]) ++ below := by simp
      have hLength : (above ++ [line]).length = above.length + 1 := by simp
      rw [reflectedFrom]
      cases hRead : readMarker? windows origin owner (above.length + 1) line below with
      | none =>
          obtain ⟨ms, run⟩ := ih owner (above ++ [line])
          rw [← hLines, hLength] at run
          exact ⟨ms, run.mono (Nat.le_succ _)⟩
      | some r =>
          obtain ⟨ms, run⟩ := ih (r.ownerBelow owner) (above ++ [line])
          rw [← hLines, hLength] at run
          exact ⟨_, .next (Nat.lt_succ_self _) (madeBy_of_readMarker? hRead) run⟩

section Order

variable {windows : Windows} {ls : List (List Char)}

theorem MadeBy.marker {owner : String} {m : Nat} {r : Reflected} (h : MadeBy windows ls owner m r) :
    ∃ line, (line, m) ∈ ls.zipIdx 1 ∧ isMarker line = true := by
  cases h with
  | declaration hMarker hKind => exact ⟨_, hMarker, by simp [isMarker, hKind]⟩
  | callable hMarker hKind => exact ⟨_, hMarker, by simp [isMarker, hKind]⟩

theorem MadeBy.exists_below {owner : String} {m : Nat} {r : Reflected}
    (h : MadeBy windows ls owner m r) :
    ∃ (window : Nat) (c : Candidate), c.Below window ls m ∧ r.line = c.number := by
  cases h with
  | declaration _ _ hBelow hLine => exact ⟨_, _, hBelow, hLine⟩
  | callable _ _ hBelow hLine => exact ⟨_, _, hBelow, hLine⟩

/-- A header lies above the next marker, so also above that one's header. -/
theorem MadeBy.line_lt {owner owner' : String} {m n : Nat} {r s : Reflected}
    (hr : MadeBy windows ls owner m r) (hs : MadeBy windows ls owner' n s) (h : m < n) :
    r.line < s.line := by
  obtain ⟨line, hLine, hMarker⟩ := hs.marker
  obtain ⟨_, c, hc, hrLine⟩ := hr.exists_below
  obtain ⟨_, d, hd, hsLine⟩ := hs.exists_below
  have hAbove : c.number < n := by
    by_contra hPast
    have hNone := hc.unmarked line n hLine h (Nat.not_lt.mp hPast)
    rw [hMarker] at hNone
    cases hNone
  calc
    r.line = c.number := hrLine
    _ < n := hAbove
    _ ≤ d.number := hd.notAbove
    _ = s.line := hsLine.symm

variable {owner : String} {last : Nat} {ms : List Nat} {rs : List Reflected}

theorem MadeInTurn.isChain (run : MadeInTurn windows ls owner last ms rs) :
    List.IsChain (· < ·) (last :: ms) := by
  induction run with
  | done => simp
  | next hBelow first rest ih => exact List.isChain_cons_cons.mpr ⟨hBelow, ih⟩

/-- What a marker makes stands above all that later markers make. -/
theorem MadeInTurn.line_lt {owner' : String} {m : Nat} {r : Reflected}
    (hr : MadeBy windows ls owner' m r) (run : MadeInTurn windows ls owner last ms rs)
    (h : m ≤ last) : ∀ s ∈ rs, r.line < s.line := by
  induction run with
  | done => simp
  | next hBelow first rest ih =>
      intro s hs
      rcases List.mem_cons.mp hs with rfl | hs
      · exact hr.line_lt first (Nat.lt_of_le_of_lt h hBelow)
      · exact ih (by omega) s hs

theorem MadeInTurn.ascending (run : MadeInTurn windows ls owner last ms rs) :
    rs.Pairwise fun r s => r.line < s.line := by
  induction run with
  | done => exact .nil
  | next hBelow first rest ih =>
      exact List.pairwise_cons.mpr ⟨MadeInTurn.line_lt first rest (Nat.le_refl _), ih⟩

end Order

section Owner

@[simp] theorem declarationsOf_append (rs ss : List Reflected) :
    declarationsOf (rs ++ ss) = declarationsOf rs ++ declarationsOf ss :=
  List.filterMap_append

@[simp] theorem mem_declarationsOf {rs : List Reflected} {d : Declaration} :
    d ∈ declarationsOf rs ↔ .declaration d ∈ rs := by
  simp only [declarationsOf, List.mem_filterMap]
  constructor
  · rintro ⟨r, hr, h⟩
    cases r with
    | declaration e => exact Option.some.inj h ▸ hr
    | callable f => cases h
  · exact fun h => ⟨_, h, rfl⟩

@[simp] theorem mem_callablesOf {rs : List Reflected} {c : Callable} :
    c ∈ callablesOf rs ↔ .callable c ∈ rs := by
  simp only [callablesOf, List.mem_filterMap]
  constructor
  · rintro ⟨r, hr, h⟩
    cases r with
    | declaration d => cases h
    | callable f => exact Option.some.inj h ▸ hr
  · exact fun h => ⟨_, h, rfl⟩

/-- What comes at this line or later, or owns no functions, does not change the owner. -/
theorem NearestOwner.append {ds es : List Declaration} {line : Nat} {owner : String}
    (h : NearestOwner ds line owner) (hLater : ∀ e ∈ es, e.kind ∈ ownerKinds → line ≤ e.line) :
    NearestOwner (ds ++ es) line owner := by
  cases h with
  | found hMem hKind hAbove hNearest =>
      refine .found (List.mem_append_left _ hMem) hKind hAbove fun e he hOwns hLine => ?_
      rcases List.mem_append.mp he with he | he
      · exact hNearest e he hOwns hLine
      · exact absurd (hLater e he hOwns) (Nat.not_le.mpr hLine)
  | none hNone =>
      refine .none fun e he hOwns => ?_
      rcases List.mem_append.mp he with he | he
      · exact hNone e he hOwns
      · exact hLater e he hOwns

variable {windows : Windows} {ls : List (List Char)}

theorem MadeBy.kind {owner : String} {m : Nat} {d : Declaration}
    (h : MadeBy windows ls owner m (.declaration d)) (hOther : d.kind ≠ .enumType) :
    d.kind ∈ ownerKinds := by
  cases h with
  | declaration _ hKind =>
      have hKnown : d.kind ∈ DeclarationKind.known := List.mem_of_find?_eq_some hKind
      simpa [DeclarationKind.known, ownerKinds, hOther] using hKnown

/-- The name that an entity hands on is that of the nearest type above any line further down. -/
theorem MadeBy.nearestOwner {above : List Reflected} {owner owner' : String} {m line : Nat}
    {r : Reflected} (h : MadeBy windows ls owner' m r) (hAbove : ∀ a ∈ above, a.line < r.line)
    (hLine : r.line < line) (hOwner : NearestOwner (declarationsOf above) line owner) :
    NearestOwner (declarationsOf (above ++ [r])) line (r.ownerBelow owner) := by
  cases r with
  | callable f => simpa [declarationsOf, Reflected.ownerBelow] using hOwner
  | declaration d =>
      have hSplit : declarationsOf (above ++ [.declaration d]) = declarationsOf above ++ [d] := by
        rw [declarationsOf_append]; rfl
      rw [hSplit]
      by_cases hEnum : d.kind = .enumType
      · rw [Reflected.ownerBelow, if_pos hEnum]
        refine hOwner.append fun e he hOwns => ?_
        rw [List.mem_singleton.mp he, hEnum] at hOwns
        exact absurd hOwns (by decide)
      · rw [Reflected.ownerBelow, if_neg hEnum]
        refine .found (by simp) (h.kind hEnum) hLine fun e he _ _ => ?_
        rcases List.mem_append.mp he with he | he
        · exact Nat.le_of_lt (hAbove _ (mem_declarationsOf.mp he))
        · exact Nat.le_of_eq (congrArg Declaration.line (List.mem_singleton.mp he))

variable {owner : String} {last : Nat} {ms : List Nat} {rs : List Reflected}

/-- In a run that comes after other entities, the owner at each marker is the nearest type above, if it
is so at the beginning. -/
theorem MadeInTurn.forall₂ (run : MadeInTurn windows ls owner last ms rs) (above : List Reflected)
    (hAscending : (above ++ rs).Pairwise fun r s => r.line < s.line)
    (hOwner : ∀ line, (∀ a ∈ above, a.line < line) → NearestOwner (declarationsOf above) line owner) :
    List.Forall₂ (fun m r => ∃ owner, NearestOwner (declarationsOf (above ++ rs)) r.line owner ∧
      MadeBy windows ls owner m r) ms rs := by
  -- At each step the first entity of the run joins those above it, so that the whole stays the same.
  induction run generalizing above with
  | done => exact .nil
  | @next owner last m r ms rs hBelow first rest ih =>
      obtain ⟨-, hRest, hBetween⟩ := List.pairwise_append.mp hAscending
      have hAbove : ∀ a ∈ above, a.line < r.line := fun a ha => hBetween a ha r (by simp)
      have hLater : ∀ s ∈ r :: rs, r.line ≤ s.line := by
        intro s hs
        rcases List.mem_cons.mp hs with rfl | hs
        · exact Nat.le_refl _
        · exact Nat.le_of_lt ((List.pairwise_cons.mp hRest).1 s hs)
      refine .cons ⟨owner, ?_, first⟩ ?_
      · rw [declarationsOf_append]
        exact (hOwner r.line hAbove).append fun e he _ => hLater _ (mem_declarationsOf.mp he)
      · rw [List.append_cons] at hAscending ⊢
        refine ih _ hAscending fun line hLine => ?_
        simp only [List.mem_append, List.mem_singleton] at hLine
        exact first.nearestOwner hAbove (hLine r (.inr rfl))
          (hOwner line fun a ha => hLine a (.inl ha))

end Owner

/-- The entities of any text come in the order of their markers and of their lines, one at most for a
marker, and a function without a qualifier belongs to the nearest class, struct or interface above. -/
theorem ownedInOrder_reflected (windows : Windows) (origin : Origin) (text : List Char) :
    OwnedInOrder windows ((lines text).map trim) (reflected windows origin text) := by
  obtain ⟨ms, run⟩ := madeInTurn_reflectedFrom windows origin "" [] ((lines text).map trim)
  have hAscending := run.ascending
  refine ⟨⟨ms, ?_, ?_⟩, hAscending⟩
  · exact (List.pairwise_cons.mp (List.isChain_iff_pairwise.mp run.isChain)).2
  · exact run.forall₂ [] hAscending fun line _ => .none (by simp)

/-- An enumeration between a class and its function owns nothing. -/
example :
    let text := "UCLASS()\nclass AHero\nUENUM() enum EMode {}\nUFUNCTION()\n// aims\nvoid Aim();"
    (callablesOf (reflected {} ⟨"Hero.h", none⟩ text.toList)).map (fun f => (f.owner, f.line)) =
      [("AHero", 6)] := by
  decide +kernel

end ProjectAtlas.Source
