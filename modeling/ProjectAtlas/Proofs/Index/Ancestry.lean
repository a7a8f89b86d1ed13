import Mathlib.Data.List.Chain
import Mathlib.Data.List.Perm.Subperm
import ProjectAtlas.Index.Relations
import ProjectAtlas.Proofs.Index.Table

/-!
Chains of parents in an index, with loops, ways into loops, and parents that are not there.

The chain of a name is first given as a relation that knows no bound on its length. The names that were
met are different and all of them are keys of the index, so the bound of the search is never what ends
a chain: the search finds the chain of the relation and nothing else.
-/

namespace ProjectAtlas.Index

/-- The parent that the declaration of a name has, if there is such a declaration. -/
def parentOf? (x : Index) (name : String) : Option String :=
  (x.findDeclaration name).bind Declaration.parent?

/-- The chain of parents that begins at a name, of whatever length it may be. The names in `seen` were
met before; the chain ends in front of a name that is not there or was met. -/
inductive Ancestry (x : Index) : List String → String → List String → Prop where
  | unknown {seen : List String} {name : String} (found : x.findDeclaration name = none) :
      Ancestry x seen name []
  | again {seen : List String} {name : String} {d : Declaration}
      (found : x.findDeclaration name = some d) (met : d.name ∈ seen) :
      Ancestry x seen name []
  | last {seen : List String} {name : String} {d : Declaration}
      (found : x.findDeclaration name = some d) (new : d.name ∉ seen)
      (parent : d.parent? = none) :
      Ancestry x seen name [d.name]
  | next {seen : List String} {name : String} {d : Declaration} {q : String} {rest : List String}
      (found : x.findDeclaration name = some d) (new : d.name ∉ seen)
      (parent : d.parent? = some q) (further : Ancestry x (d.name :: seen) q rest) :
      Ancestry x seen name (d.name :: rest)

/-- Every declaration is found under its own name. -/
def FindsByName (x : Index) : Prop :=
  ∀ name d, x.findDeclaration name = some d → d.name = name

theorem FindsByName.parentOf?_eq {x : Index} (hNames : x.FindsByName) {name : String}
    {d : Declaration} (found : x.findDeclaration name = some d) :
    x.parentOf? d.name = d.parent? := by
  rw [parentOf?, hNames _ _ found, found]
  rfl

theorem findsByName_build (p : Project) (f : Findings) : (Index.build p f).FindsByName :=
  fun _ _ hFound => Table.key_of_get?_ofList hFound

namespace Ancestry

variable {x : Index} {seen chain : List String} {name : String}

theorem unique {other : List String} (hChain : Ancestry x seen name chain)
    (hOther : Ancestry x seen name other) : chain = other := by
  induction hChain generalizing other with
  | unknown found =>
      cases hOther with
      | unknown => rfl
      | again | last | next => simp_all
  | again found met =>
      cases hOther with
      | unknown | again => rfl
      | last | next => simp_all
  | last found new parent =>
      cases hOther with
      | last => simp_all
      | unknown | again | next => simp_all
  | next found new parent further ih =>
      cases hOther with
      | next found' new' parent' further' =>
          obtain rfl := Option.some.inj (found.symm.trans found')
          obtain rfl := Option.some.inj (parent.symm.trans parent')
          rw [ih further']
      | unknown | again | last => simp_all

/-- A chain has no name twice, and none that was met before. -/
theorem nodup (hChain : Ancestry x seen name chain) : chain.Nodup ∧ ∀ n ∈ chain, n ∉ seen := by
  induction hChain with
  | unknown | again => simp
  | last found new parent => simpa using new
  | next found new parent further ih =>
      obtain ⟨hRest, hNew⟩ := ih
      refine ⟨List.nodup_cons.mpr ⟨fun hMem => hNew _ hMem List.mem_cons_self, hRest⟩, ?_⟩
      intro n hn
      rcases List.mem_cons.mp hn with rfl | hn
      · exact new
      · exact fun hSeen => hNew n hn (List.mem_cons_of_mem _ hSeen)

theorem isSome_of_mem (hNames : x.FindsByName) (hChain : Ancestry x seen name chain) {n : String}
    (hn : n ∈ chain) : (x.findDeclaration n).isSome := by
  induction hChain with
  | unknown | again => cases hn
  | last found new parent =>
      obtain rfl := List.mem_singleton.mp hn
      rw [hNames _ _ found, found]
      rfl
  | next found new parent further ih =>
      rcases List.mem_cons.mp hn with rfl | hn
      · rw [hNames _ _ found, found]
        rfl
      · exact ih hn

/-- A chain begins with its name, unless that is not there or was met. -/
theorem head?_eq (hNames : x.FindsByName) (hChain : Ancestry x seen name chain) :
    chain.head? = if (x.findDeclaration name).isSome ∧ name ∉ seen then some name else none := by
  cases hChain with
  | unknown found => simp [found]
  | again found met =>
      have hName := hNames _ _ found
      subst hName
      simp [met]
  | last found new parent | next found new parent further =>
      have hName := hNames _ _ found
      subst hName
      simp [found, new]

/-- Each further name of a chain is the parent of the one in front of it, and is there. -/
theorem isChain (hNames : x.FindsByName) (hChain : Ancestry x seen name chain) :
    chain.IsChain fun child parent =>
      x.parentOf? child = some parent ∧ (x.findDeclaration parent).isSome := by
  induction hChain with
  | unknown | again | last => simp
  | next found new parent further ih =>
      rw [List.isChain_cons]
      refine ⟨fun n hn => ?_, ih⟩
      rw [further.head?_eq hNames, Option.mem_def] at hn
      split at hn
      · rename_i hThere
        cases hn
        exact ⟨(hNames.parentOf?_eq found).trans parent, hThere.1⟩
      · cases hn

theorem eq_nil_iff (hNames : x.FindsByName) (hChain : Ancestry x seen name chain) :
    chain = [] ↔ x.findDeclaration name = none ∨ name ∈ seen := by
  rw [← List.head?_eq_none_iff, hChain.head?_eq hNames]
  by_cases hSeen : name ∈ seen <;> simp [hSeen]

/-- A chain ends only where the parent is not there or was met. -/
theorem parent_of_getLast? (hNames : x.FindsByName) (hChain : Ancestry x seen name chain)
    {last q : String} (hLast : chain.getLast? = some last) (hParent : x.parentOf? last = some q) :
    x.findDeclaration q = none ∨ q ∈ seen ∨ q ∈ chain := by
  induction hChain with
  | unknown | again => cases hLast
  | last found new parent =>
      obtain rfl : _ = last := by simpa using hLast
      rw [hNames.parentOf?_eq found, parent] at hParent
      cases hParent
  | @next seen name d r rest found new parent further ih =>
      have hMet : q ∈ d.name :: seen → q ∈ seen ∨ q ∈ d.name :: rest := fun hMem => by
        rcases List.mem_cons.mp hMem with rfl | hSeen
        · exact .inr List.mem_cons_self
        · exact .inl hSeen
      cases rest with
      | nil =>
          obtain rfl : d.name = last := by simpa using hLast
          rw [hNames.parentOf?_eq found, parent] at hParent
          cases hParent
          exact ((further.eq_nil_iff hNames).mp rfl).imp_right hMet
      | cons n rest =>
          rw [List.getLast?_cons_cons] at hLast
          rcases ih hLast with hNone | hSeen | hRest
          · exact .inl hNone
          · exact .inr (hMet hSeen)
          · exact .inr (.inr (List.mem_cons_of_mem _ hRest))

/-- A parent that is there and was not met comes second. -/
theorem getElem?_one (hNames : x.FindsByName) (hChain : Ancestry x seen name chain)
    (hName : name ∉ seen) {q : String} (hParent : x.parentOf? name = some q)
    (hFound : (x.findDeclaration q).isSome) (hNew : q ∉ name :: seen) : chain[1]? = some q := by
  cases hChain with
  | unknown found =>
      rw [parentOf?, found] at hParent
      cases hParent
  | again found met => exact absurd (hNames _ _ found ▸ met) hName
  | last found new parent =>
      rw [← hNames _ _ found, hNames.parentOf?_eq found, parent] at hParent
      cases hParent
  | next found new parent further =>
      rw [← hNames _ _ found, hNames.parentOf?_eq found, parent] at hParent
      cases hParent
      rw [← hNames _ _ found] at hNew
      rw [List.getElem?_cons_succ, ← List.head?_eq_getElem?, further.head?_eq hNames,
        if_pos ⟨hFound, hNew⟩]

end Ancestry

/-- As long as a search may go on for as many declarations as were not met, its limit does not end it:
what it finds is the whole chain. -/
theorem ancestry_chainFrom {x : Index} (hNames : x.FindsByName) {seen : List String}
    (hDistinct : seen.Nodup) (hSeen : seen ⊆ x.declarationTable.keys) (name : String) {limit : Nat}
    (hLimit : x.declarationTable.size ≤ seen.length + limit) :
    x.Ancestry seen name (x.chainFrom seen name limit) := by
  induction limit generalizing seen name with
  | zero =>
      cases hFound : x.findDeclaration name with
      | none => exact .unknown hFound
      | some d =>
          -- As many different names were met as there are, so this one is among them.
          have hAll : seen.Perm x.declarationTable.keys :=
            (hDistinct.subperm hSeen).perm_of_length_le (by simpa [Table.keys, Table.size] using hLimit)
          have hKey : d.name ∈ x.declarationTable.keys := by
            rw [hNames _ _ hFound]
            exact Table.mem_keys_of_get? hFound
          exact .again hFound (hAll.mem_iff.mpr hKey)
  | succ limit ih =>
      simp only [chainFrom]
      cases hFound : x.findDeclaration name with
      | none => exact .unknown hFound
      | some d =>
          by_cases hMet : d.name ∈ seen
          · simpa [hMet] using Ancestry.again hFound hMet
          · have hKey : d.name ∈ x.declarationTable.keys := by
              rw [hNames _ _ hFound]
              exact Table.mem_keys_of_get? hFound
            simp only [List.contains_eq_mem, hMet, decide_false, Bool.false_eq_true, if_false]
            cases hParent : d.parent? with
            | none => exact .last hFound hMet hParent
            | some q =>
                refine .next hFound hMet hParent (ih ?_ ?_ q ?_)
                · exact List.nodup_cons.mpr ⟨hMet, hDistinct⟩
                · exact List.cons_subset.mpr ⟨hKey, hSeen⟩
                · rw [List.length_cons]
                  omega

/-- The hierarchy of a name, in an index over any findings. It is empty exactly if the name is not
there. Otherwise it begins with the name, goes on from each declaration to its parent, has no name
twice, and ends only at a declaration without a parent, with one that is not there, or with one that
the hierarchy has already. So the bound on its length never ends it: it is the one chain of parents
without a bound, and what any larger bound gives. It has at most as many names as there are
declarations, and a parent that is there and is not the name itself comes second. -/
theorem hierarchy_eq_ancestry (p : Project) (f : Findings) (name : String) :
    let ix := Index.build p f
    let chain := ix.hierarchy name
    (chain = [] ↔ ix.findDeclaration name = none) ∧
      (∀ d, ix.findDeclaration name = some d → chain.head? = some name) ∧
      (chain.IsChain fun child parent =>
        ix.parentOf? child = some parent ∧ (ix.findDeclaration parent).isSome) ∧
      chain.Nodup ∧
      (∀ last q, chain.getLast? = some last → ix.parentOf? last = some q →
        ix.findDeclaration q = none ∨ q ∈ chain) ∧
      (∀ other, ix.Ancestry [] name other ↔ other = chain) ∧
      (∀ limit, ix.declarationTable.size ≤ limit → ix.chainFrom [] name limit = chain) ∧
      chain.length ≤ (ix.declarations none).length ∧
      ∀ q, ix.parentOf? name = some q → (ix.findDeclaration q).isSome → q ≠ name →
        chain[1]? = some q := by
  intro ix chain
  have hNames : ix.FindsByName := findsByName_build p f
  have hLarge : ∀ limit, ix.declarationTable.size ≤ limit →
      ix.Ancestry [] name (ix.chainFrom [] name limit) := fun limit hLimit =>
    ancestry_chainFrom hNames List.nodup_nil (List.nil_subset _) name (by simpa using hLimit)
  have hChain : ix.Ancestry [] name chain := hLarge _ (Nat.le_refl _)
  have hLength : chain.length ≤ ix.declarationTable.keys.length := by
    refine (hChain.nodup.1.subperm fun n hn => ?_).length_le
    obtain ⟨d, hFound⟩ := Option.isSome_iff_exists.mp (hChain.isSome_of_mem hNames hn)
    exact Table.mem_keys_of_get? hFound
  refine ⟨?_, ?_, hChain.isChain hNames, hChain.nodup.1, ?_, ?_, ?_, ?_, ?_⟩
  · simpa using hChain.eq_nil_iff hNames
  · intro d hFound
    simpa [hFound] using hChain.head?_eq hNames
  · intro last q hLast hParent
    simpa using hChain.parent_of_getLast? hNames hLast hParent
  · exact fun other => ⟨fun hOther => hOther.unique hChain, fun hSame => hSame ▸ hChain⟩
  · exact fun limit hLimit => (hLarge limit hLimit).unique hChain
  · simpa [declarations, Table.items, Table.keys] using hLength
  · intro q hParent hFound hOther
    exact hChain.getElem?_one hNames List.not_mem_nil hParent hFound (by simpa using hOther)

end ProjectAtlas.Index
