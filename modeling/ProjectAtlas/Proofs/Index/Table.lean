import Mathlib.Data.List.Induction
import ProjectAtlas.Index.Table

/-!
Tables that were made of a list: the latest item of a key is found, the keys stand in the order in which
they first appeared, and each item beyond those replaced another one.
-/

namespace ProjectAtlas.Table

variable {κ α : Type} [DecidableEq κ]

/-- Putting an item changes what is found under its own key, and nothing else. -/
theorem get?_put (t : Table κ α) (key k : κ) (item : α) :
    (t.put key item).get? k = if key = k then some item else t.get? k := by
  obtain ⟨entries⟩ := t
  simp only [get?, put]
  induction entries with
  | nil => by_cases hKey : key = k <;> simp [putEntry, hKey]
  | cons e es ih =>
      obtain ⟨first, a⟩ := e
      by_cases hFirst : first = key
      · subst hFirst
        by_cases hKey : first = k <;> simp [putEntry, hKey]
      · simp only [putEntry, hFirst, if_false, List.find?_cons]
        by_cases hFound : first = k
        · have hOther : key ≠ k := fun hSame => hFirst (hFound.trans hSame.symm)
          simp [hFound, hOther]
        · simpa [hFound] using ih

theorem ofList_append_singleton (key : α → κ) (items : List α) (a : α) :
    ofList key (items ++ [a]) = (ofList key items).put (key a) a := by
  simp [ofList]

/-- In a table made of a list, the last item of a key is found under it. -/
theorem get?_ofList (key : α → κ) (items : List α) (k : κ) :
    (ofList key items).get? k = items.reverse.find? fun a => key a = k := by
  induction items using List.reverseRecOn with
  | nil => rfl
  | append_singleton items a ih =>
      rw [ofList_append_singleton, get?_put, ih, List.reverse_append]
      by_cases hKey : key a = k <;> simp [hKey]

theorem key_of_get?_ofList {key : α → κ} {items : List α} {k : κ} {a : α}
    (h : (ofList key items).get? k = some a) : key a = k := by
  rw [get?_ofList] at h
  simpa using List.find?_some h

theorem mem_keys_of_get? {t : Table κ α} {k : κ} {a : α} (h : t.get? k = some a) : k ∈ t.keys := by
  obtain ⟨e, hFound, -⟩ := Option.map_eq_some_iff.mp h
  have hKey : e.1 = k := by simpa using List.find?_some hFound
  exact List.mem_map.mpr ⟨e, List.mem_of_find?_eq_some hFound, hKey⟩

/-- No key of the list is lost. -/
theorem exists_get?_ofList {key : α → κ} {items : List α} {a : α} (ha : a ∈ items) :
    ∃ b, (ofList key items).get? (key a) = some b ∧ key b = key a := by
  have hFound : (items.reverse.find? fun b => key b = key a).isSome := by
    rw [List.find?_isSome]
    exact ⟨a, List.mem_reverse.mpr ha, by simp⟩
  obtain ⟨b, hb⟩ := Option.isSome_iff_exists.mp hFound
  refine ⟨b, ?_, ?_⟩
  · rw [get?_ofList, hb]
  · simpa using List.find?_some hb

/-- Putting an item changes the keys only if its own is new; that one comes last. -/
theorem keys_put (t : Table κ α) (key : κ) (item : α) :
    (t.put key item).keys = if key ∈ t.keys then t.keys else t.keys ++ [key] := by
  obtain ⟨entries⟩ := t
  simp only [keys, put]
  induction entries with
  | nil => simp [putEntry]
  | cons e es ih =>
      obtain ⟨first, a⟩ := e
      by_cases hFirst : first = key
      · simp [putEntry, hFirst]
      · simp only [putEntry, hFirst, if_false, List.map_cons, List.mem_cons, Ne.symm hFirst,
          false_or, ih]
        by_cases hMem : key ∈ es.map (·.1) <;> simp [hMem]

theorem nodup_keys_put {t : Table κ α} (hKeys : t.keys.Nodup) (key : κ) (item : α) :
    (t.put key item).keys.Nodup := by
  rw [keys_put]
  split
  · exact hKeys
  · rename_i hNew
    rw [List.nodup_append]
    refine ⟨hKeys, by simp, ?_⟩
    rintro k hk other hOther rfl
    exact hNew (List.mem_singleton.mp hOther ▸ hk)

theorem mem_entries_put {t : Table κ α} {key : κ} {item : α} {e : κ × α}
    (he : e ∈ (t.put key item).entries) : e = (key, item) ∨ e ∈ t.entries := by
  obtain ⟨entries⟩ := t
  simp only [put] at he
  induction entries with
  | nil => simpa [putEntry] using he
  | cons first rest ih =>
      simp only [putEntry] at he
      split at he
      · rename_i hSame
        rcases List.mem_cons.mp he with rfl | hRest
        · exact .inl (by rw [hSame])
        · exact .inr (List.mem_cons_of_mem _ hRest)
      · rcases List.mem_cons.mp he with rfl | hRest
        · exact .inr List.mem_cons_self
        · exact (ih hRest).imp_right (List.mem_cons_of_mem _)

/-- The keys of a table made of a list are those of the list, each where it first appears. -/
theorem keys_ofList (key : α → κ) (items : List α) :
    (ofList key items).keys = (items.map key).eraseDups := by
  induction items using List.reverseRecOn with
  | nil => rfl
  | append_singleton items a ih =>
      rw [ofList_append_singleton, keys_put, ih, List.map_append, List.eraseDups_append]
      by_cases hMem : key a ∈ items.map key
      · have hNone : [key a].removeAll (items.map key) = [] := by
          rw [List.removeAll, List.filter_cons_of_neg (by simpa using hMem), List.filter_nil]
        rw [if_pos (List.mem_eraseDups.mpr hMem), List.map_singleton, hNone, List.eraseDups_nil,
          List.append_nil]
      · have hNew : [key a].removeAll (items.map key) = [key a] := by
          rw [List.removeAll, List.filter_cons_of_pos (by simpa using hMem), List.filter_nil]
        rw [if_neg (mt List.mem_eraseDups.mp hMem), List.map_singleton, hNew,
          List.eraseDups_cons, List.filter_nil, List.eraseDups_nil]

theorem nodup_keys_ofList (key : α → κ) (items : List α) : (ofList key items).keys.Nodup := by
  induction items using List.reverseRecOn with
  | nil => exact List.nodup_nil
  | append_singleton items a ih =>
      rw [ofList_append_singleton]
      exact nodup_keys_put ih (key a) a

theorem key_of_mem_ofList {key : α → κ} {items : List α} {e : κ × α}
    (he : e ∈ (ofList key items).entries) : key e.2 = e.1 := by
  induction items using List.reverseRecOn with
  | nil => cases he
  | append_singleton items a ih =>
      rw [ofList_append_singleton] at he
      rcases mem_entries_put he with rfl | hOld
      · rfl
      · exact ih hOld

/-- The items of a table made of a list have its keys, in its order. -/
theorem map_key_items_ofList (key : α → κ) (items : List α) :
    (ofList key items).items.map key = (ofList key items).keys := by
  rw [Table.items, keys, List.map_map]
  exact List.map_congr_left fun e he => key_of_mem_ofList he

theorem get?_of_mem {t : Table κ α} (hKeys : t.keys.Nodup) {e : κ × α} (he : e ∈ t.entries) :
    t.get? e.1 = some e.2 := by
  obtain ⟨front, back, hSplit⟩ := List.append_of_mem he
  have hFront : ∀ other ∈ front, other.1 ≠ e.1 := by
    rw [keys, hSplit, List.map_append, List.nodup_append] at hKeys
    intro other hOther
    exact hKeys.2.2 _ (List.mem_map_of_mem hOther) _ (by simp)
  have hFound : t.entries.find? (fun x => x.1 = e.1) = some e := by
    rw [List.find?_eq_some_iff_append]
    refine ⟨by simp, front, back, hSplit, fun other hOther => ?_⟩
    simpa using hFront other hOther
  rw [get?, hFound]
  rfl

theorem get?_key_of_mem_items {key : α → κ} {items : List α} {a : α}
    (ha : a ∈ (ofList key items).items) : (ofList key items).get? (key a) = some a := by
  obtain ⟨e, he, rfl⟩ := List.mem_map.mp ha
  rw [key_of_mem_ofList he]
  exact get?_of_mem (nodup_keys_ofList key items) he

theorem mem_items_of_get? {t : Table κ α} {k : κ} {a : α} (h : t.get? k = some a) : a ∈ t.items := by
  obtain ⟨e, hFound, rfl⟩ := Option.map_eq_some_iff.mp h
  exact List.mem_map_of_mem (List.mem_of_find?_eq_some hFound)

/-- A table holds only items of the list that it was made of. -/
theorem items_ofList_subset (key : α → κ) (items : List α) : (ofList key items).items ⊆ items := by
  intro a ha
  have hFound := get?_key_of_mem_items ha
  rw [get?_ofList] at hFound
  exact List.mem_reverse.mp (List.mem_of_find?_eq_some hFound)

/-- A list without two items of one key is its own table. -/
theorem ofList_of_nodup {key : α → κ} {items : List α} (hKeys : (items.map key).Nodup) :
    ofList key items = ⟨items.map fun a => (key a, a)⟩ := by
  induction items using List.reverseRecOn with
  | nil => rfl
  | append_singleton items a ih =>
      rw [List.map_append, List.nodup_append] at hKeys
      have hNew : key a ∉ (items.map fun b => (key b, b)).map (·.1) := by
        rw [List.map_map]
        exact fun hMem => hKeys.2.2 _ hMem _ (by simp) rfl
      rw [ofList_append_singleton, ih hKeys.1, put, List.map_append]
      congr 1
      -- Past entries with other keys, an item is put at the end.
      generalize items.map (fun b => (key b, b)) = entries at hNew
      induction entries with
      | nil => rfl
      | cons e es ihEntries =>
          rw [List.map_cons, List.mem_cons, not_or] at hNew
          simp [putEntry, Ne.symm hNew.1, ihEntries hNew.2]

/-- A table made of the items of a table is that table: what was replaced leaves no trace. -/
theorem ofList_items_ofList (key : α → κ) (items : List α) :
    ofList key (ofList key items).items = ofList key items := by
  have hKeys : ((ofList key items).items.map key).Nodup := by
    rw [map_key_items_ofList]
    exact nodup_keys_ofList key items
  rw [ofList_of_nodup hKeys, Table.items, List.map_map]
  have hSame : (ofList key items).entries.map ((fun a => (key a, a)) ∘ (·.2)) =
      (ofList key items).entries := by
    conv_rhs => rw [← List.map_id (ofList key items).entries]
    refine List.map_congr_left fun e he => ?_
    simp [key_of_mem_ofList he]
  rw [hSame]

end ProjectAtlas.Table

namespace ProjectAtlas

variable {κ : Type} [DecidableEq κ]

/-- Each item of a list is either counted as one that is there already or is the first of its sort. -/
theorem length_repeatedAfter (seen ks : List κ) :
    (repeatedAfter seen ks).length + (ks.filter fun k => k ∉ seen).eraseDups.length =
      ks.length := by
  induction ks generalizing seen with
  | nil => simp [repeatedAfter]
  | cons k ks ih =>
      by_cases hSeen : k ∈ seen
      · have hRest := ih seen
        simp only [repeatedAfter, List.contains_eq_mem, hSeen, decide_true, if_true,
          List.length_cons, not_true_eq_false, decide_false, Bool.false_eq_true,
          not_false_eq_true, List.filter_cons_of_neg]
        omega
      · have hRest := ih (k :: seen)
        have hSame : (ks.filter fun j => j ∉ seen).filter (fun j => !j == k) =
            ks.filter fun j => j ∉ k :: seen := by
          rw [List.filter_filter]
          refine List.filter_congr fun j _ => ?_
          by_cases hFirst : j = k <;> simp [hFirst]
        simp only [repeatedAfter, List.contains_eq_mem, hSeen, decide_false, Bool.false_eq_true,
          if_false, not_false_eq_true, decide_true, List.filter_cons_of_pos,
          List.eraseDups_cons, List.length_cons, hSame]
        omega

theorem firsts_eq_eraseDups (ks : List κ) : firsts ks = ks.eraseDups := by
  rw [firsts, Table.keys_ofList, List.map_id]

theorem nodup_firsts (ks : List κ) : (firsts ks).Nodup :=
  Table.nodup_keys_ofList id ks

theorem length_repeated (ks : List κ) :
    (repeated ks).length + ks.eraseDups.length = ks.length := by
  have hAll : (ks.filter fun k => k ∉ ([] : List κ)) = ks := by simp
  simpa only [repeated, hAll] using length_repeatedAfter [] ks

end ProjectAtlas
