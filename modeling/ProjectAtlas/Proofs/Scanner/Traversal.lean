/-!
Steps that may fail, one behind the other, and for every item of a list: they succeed together or one of
them ends it all. A selection by a test that may fail is the selection by what the test says, or ends with
its first failure.
-/

namespace ProjectAtlas

variable {ε δ α β : Type}

theorem map_eq_ok_iff {f : α → β} {x : Except ε α} {b : β} :
    x.map f = .ok b ↔ ∃ a, x = .ok a ∧ f a = b := by
  cases x <;> simp [Except.map]

theorem map_eq_error_iff {f : α → β} {x : Except ε α} {e : ε} :
    x.map f = .error e ↔ x = .error e := by
  cases x <;> simp [Except.map]

theorem mapError_eq_error_iff {f : ε → δ} {x : Except ε α} {e : δ} :
    x.mapError f = .error e ↔ ∃ d, x = .error d ∧ f d = e := by
  cases x with
  | error d =>
      show (Except.error (f d) : Except δ α) = .error e ↔ _
      simp
  | ok a =>
      show (Except.ok a : Except δ α) = .error e ↔ _
      simp

theorem mapError_eq_ok_iff {f : ε → δ} {x : Except ε α} {a : α} :
    x.mapError f = .ok a ↔ x = .ok a := by
  cases x with
  | error d =>
      show (Except.error (f d) : Except δ α) = .ok a ↔ _
      simp
  | ok b =>
      show (Except.ok b : Except δ α) = .ok a ↔ _
      simp

theorem bind_eq_ok_iff {f : α → Except ε β} {x : Except ε α} {b : β} :
    x.bind f = .ok b ↔ ∃ a, x = .ok a ∧ f a = .ok b := by
  cases x <;> simp [Except.bind]

theorem seq_eq_ok_iff {f : Except ε (α → β)} {x : Except ε α} {b : β} :
    f <*> x = .ok b ↔ ∃ g a, f = .ok g ∧ x = .ok a ∧ g a = b := by
  cases f <;> cases x <;> simp [Seq.seq, Except.bind, Except.map]

theorem map_fails_iff {f : α → β} {x : Except ε α} :
    (∃ e, f <$> x = .error e) ↔ ∃ e, x = .error e :=
  exists_congr fun _ => map_eq_error_iff

theorem seq_fails_iff {f : Except ε (α → β)} {x : Except ε α} :
    (∃ e, f <*> x = .error e) ↔ (∃ e, f = .error e) ∨ ∃ e, x = .error e := by
  cases f <;> cases x <;> simp [Seq.seq, Except.bind, Except.map]

/-- A traversal succeeds if its first item and the traversal of the others do. -/
theorem mapM_cons_eq_ok_iff {f : α → Except ε β} {x : α} {xs : List α} {zs : List β} :
    (x :: xs).mapM f = .ok zs ↔
      ∃ y ys, f x = .ok y ∧ xs.mapM f = .ok ys ∧ zs = y :: ys := by
  rw [List.mapM_cons]
  cases hFirst : f x with
  | error e => simp [bind, Except.bind]
  | ok y =>
      cases hRest : xs.mapM f with
      | error e => simp [bind, Except.bind]
      | ok ys => simp [bind, Except.bind, pure, Except.pure, eq_comm]

/-- Every item of a traversal that succeeds has its result among the results. -/
theorem exists_mem_of_mapM {f : α → Except ε β} {xs : List α} {ys : List β}
    (h : xs.mapM f = .ok ys) : ∀ x ∈ xs, ∃ y ∈ ys, f x = .ok y := by
  induction xs generalizing ys with
  | nil => simp
  | cons x xs ih =>
      obtain ⟨z, zs, hFirst, hRest, rfl⟩ := mapM_cons_eq_ok_iff.mp h
      intro a ha
      rcases List.mem_cons.mp ha with rfl | ha
      · exact ⟨z, by simp, hFirst⟩
      · obtain ⟨b, hb, hOk⟩ := ih hRest a ha
        exact ⟨b, by simp [hb], hOk⟩

/-- Every result of a traversal is that of one of its items. -/
theorem exists_of_mem_mapM {f : α → Except ε β} {xs : List α} {ys : List β}
    (h : xs.mapM f = .ok ys) : ∀ y ∈ ys, ∃ x ∈ xs, f x = .ok y := by
  induction xs generalizing ys with
  | nil =>
      cases h
      simp
  | cons x xs ih =>
      obtain ⟨z, zs, hFirst, hRest, rfl⟩ := mapM_cons_eq_ok_iff.mp h
      intro b hb
      rcases List.mem_cons.mp hb with rfl | hb
      · exact ⟨x, by simp, hFirst⟩
      · obtain ⟨a, ha, hOk⟩ := ih hRest b hb
        exact ⟨a, by simp [ha], hOk⟩

/-- If every item succeeds then the traversal gives their results in order. -/
theorem mapM_eq_ok_map {f : α → Except ε β} {g : α → β} {xs : List α}
    (h : ∀ x ∈ xs, f x = .ok (g x)) : xs.mapM f = .ok (xs.map g) := by
  induction xs with
  | nil => rfl
  | cons x xs ih =>
      have hRest := ih fun a ha => h a (by simp [ha])
      exact mapM_cons_eq_ok_iff.mpr ⟨g x, xs.map g, h x (by simp), hRest, rfl⟩

/-- A traversal fails with the first failure of its items. -/
theorem mapM_eq_error_iff {f : α → Except ε β} {xs : List α} {e : ε} :
    xs.mapM f = .error e ↔
      ∃ front x back, xs = front ++ x :: back ∧ (∀ y ∈ front, ∃ b, f y = .ok b) ∧
        f x = .error e := by
  induction xs with
  | nil =>
      constructor
      · intro h
        cases h
      · rintro ⟨front, x, back, hSplit, -⟩
        simp at hSplit
  | cons x xs ih =>
      rw [List.mapM_cons]
      cases hFirst : f x with
      | error e' =>
          constructor
          · intro h
            cases h
            exact ⟨[], x, xs, rfl, by simp, hFirst⟩
          · rintro ⟨front, y, back, hSplit, hFront, hFails⟩
            cases front with
            | nil =>
                obtain ⟨rfl, rfl⟩ := List.cons.inj hSplit
                rw [hFirst] at hFails
                cases hFails
                rfl
            | cons z front =>
                obtain ⟨rfl, rfl⟩ := List.cons.inj hSplit
                obtain ⟨b, hOk⟩ := hFront x (by simp)
                rw [hFirst] at hOk
                cases hOk
      | ok b =>
          show (xs.mapM f).map (b :: ·) = .error e ↔ _
          rw [map_eq_error_iff, ih]
          constructor
          · rintro ⟨front, y, back, rfl, hFront, hFails⟩
            exact ⟨x :: front, y, back, rfl, by simpa [hFirst] using hFront, hFails⟩
          · rintro ⟨front, y, back, hSplit, hFront, hFails⟩
            cases front with
            | nil =>
                obtain ⟨rfl, rfl⟩ := List.cons.inj hSplit
                rw [hFirst] at hFails
                cases hFails
            | cons z front =>
                obtain ⟨rfl, rfl⟩ := List.cons.inj hSplit
                exact ⟨front, y, back, rfl, fun a ha => hFront a (by simp [ha]), hFails⟩

theorem exists_error_of_mapM {f : α → Except ε β} {xs : List α} {e : ε}
    (h : xs.mapM f = .error e) : ∃ x ∈ xs, f x = .error e := by
  obtain ⟨front, x, back, rfl, -, hFails⟩ := mapM_eq_error_iff.mp h
  exact ⟨x, by simp, hFails⟩

/-- A traversal succeeds exactly if every item does. -/
theorem mapM_isOk_iff {f : α → Except ε β} {xs : List α} :
    (∃ ys, xs.mapM f = .ok ys) ↔ ∀ x ∈ xs, ∃ y, f x = .ok y := by
  constructor
  · rintro ⟨ys, h⟩ x hx
    obtain ⟨y, -, hOk⟩ := exists_mem_of_mapM h x hx
    exact ⟨y, hOk⟩
  · intro hAll
    cases h : xs.mapM f with
    | ok ys => exact ⟨ys, rfl⟩
    | error e =>
        obtain ⟨x, hx, hError⟩ := exists_error_of_mapM h
        obtain ⟨y, hOk⟩ := hAll x hx
        rw [hError] at hOk
        cases hOk

theorem filterAuxM_eq (test : α → Except ε Bool) (xs done : List α) :
    xs.filterAuxM test done = (xs.filterAuxM test []).map (· ++ done) := by
  induction xs generalizing done with
  | nil => rfl
  | cons x xs ih =>
      simp only [List.filterAuxM]
      cases test x with
      | error e => rfl
      | ok kept =>
          show xs.filterAuxM test (cond kept (x :: done) done) =
            (xs.filterAuxM test (cond kept [x] [])).map (· ++ done)
          cases kept with
          | false => exact ih done
          | true =>
              rw [cond_true, cond_true, ih (x :: done), ih [x]]
              cases xs.filterAuxM test [] <;> simp [Except.map]

theorem filterM_cons (test : α → Except ε Bool) (x : α) (xs : List α) :
    (x :: xs).filterM test = (test x).bind fun kept =>
      (xs.filterM test).map fun ys => if kept then x :: ys else ys := by
  simp only [List.filterM, List.filterAuxM]
  cases test x with
  | error e => rfl
  | ok kept =>
      show ((xs.filterAuxM test (cond kept [x] [])).bind fun ys => .ok ys.reverse) =
        Except.map (fun ys => if kept then x :: ys else ys)
          ((xs.filterAuxM test []).bind fun ys => .ok ys.reverse)
      rw [filterAuxM_eq]
      cases xs.filterAuxM test [] <;> cases kept <;> simp [Except.map, Except.bind]

/-- If the test of every item succeeds then the selection keeps the items that it says to keep. -/
theorem filterM_eq_ok_filter {test : α → Except ε Bool} {keep : α → Bool} {xs : List α}
    (h : ∀ x ∈ xs, test x = .ok (keep x)) : xs.filterM test = .ok (xs.filter keep) := by
  induction xs with
  | nil => rfl
  | cons x xs ih =>
      rw [filterM_cons, h x (by simp), ih fun a ha => h a (by simp [ha])]
      cases hKeep : keep x <;> simp [Except.bind, Except.map, hKeep]

/-- Tests that say the same of every item select the same. -/
theorem filterM_congr {f g : α → Except ε Bool} {xs : List α} (h : ∀ x ∈ xs, f x = g x) :
    xs.filterM f = xs.filterM g := by
  induction xs with
  | nil => rfl
  | cons x xs ih => rw [filterM_cons, filterM_cons, h x (by simp), ih fun a ha => h a (by simp [ha])]

/-- A selection fails with the first failure of its test, as the traversal by the test does. -/
theorem filterM_eq_error_iff {test : α → Except ε Bool} {xs : List α} {e : ε} :
    xs.filterM test = .error e ↔ xs.mapM test = .error e := by
  induction xs with
  | nil =>
      constructor <;>
      · intro h
        cases h
  | cons x xs ih =>
      rw [filterM_cons, List.mapM_cons]
      cases test x with
      | error e' =>
          show (Except.error e' : Except ε (List α)) = .error e ↔
            (Except.error e' : Except ε (List Bool)) = .error e
          simp
      | ok kept =>
          show Except.map _ (xs.filterM test) = .error e ↔ (xs.mapM test).map (kept :: ·) = .error e
          rw [map_eq_error_iff, map_eq_error_iff, ih]

theorem exists_error_of_filterM {test : α → Except ε Bool} {xs : List α} {e : ε}
    (h : xs.filterM test = .error e) : ∃ x ∈ xs, test x = .error e :=
  exists_error_of_mapM (filterM_eq_error_iff.mp h)

/-- A selection that succeeds leaves items out, and keeps exactly those that the test says to keep. -/
theorem sublist_of_filterM {test : α → Except ε Bool} {xs ys : List α} (h : xs.filterM test = .ok ys) :
    ys.Sublist xs ∧ (∀ x ∈ xs, ∃ kept, test x = .ok kept) ∧
      ∀ x, x ∈ ys ↔ x ∈ xs ∧ test x = .ok true := by
  induction xs generalizing ys with
  | nil =>
      cases h
      simp
  | cons x xs ih =>
      rw [filterM_cons] at h
      obtain ⟨kept, hFirst, hRest⟩ := bind_eq_ok_iff.mp h
      obtain ⟨zs, hOthers, rfl⟩ := map_eq_ok_iff.mp hRest
      obtain ⟨hSublist, hAll, hMem⟩ := ih hOthers
      refine ⟨?_, by simpa [hFirst] using hAll, fun y => ?_⟩
      · cases kept with
        | false => exact hSublist.cons x
        | true => exact hSublist.cons_cons x
      · cases kept with
        | false =>
            simp only [Bool.false_eq_true, if_false, hMem, List.mem_cons]
            constructor
            · rintro ⟨hy, hKept⟩
              exact ⟨.inr hy, hKept⟩
            · rintro ⟨rfl | hy, hKept⟩
              · rw [hFirst] at hKept
                cases hKept
              · exact ⟨hy, hKept⟩
        | true =>
            simp only [if_true, List.mem_cons, hMem]
            constructor
            · rintro (rfl | ⟨hy, hKept⟩)
              · exact ⟨.inl rfl, hFirst⟩
              · exact ⟨.inr hy, hKept⟩
            · rintro ⟨rfl | hy, hKept⟩
              · exact .inl rfl
              · exact .inr ⟨hy, hKept⟩

end ProjectAtlas
