import ProjectAtlas.Json.Printer
import ProjectAtlas.Proofs.Json.Writable

/-!
Which values can be sent: those that can be written, and hold no text with half of a surrogate pair. An
object that is left with some of its fields keeps them as they are, and can be sent if all of it can.
-/

namespace ProjectAtlas

namespace Json

mutual

/-- The value holds a text, or the name of a field, with half of a surrogate pair. -/
def holdsLoneHalf : Json → Bool
  | .str s => Text.hasLoneHalf s
  | .arr items => anyLoneHalf items
  | .obj fields => anyFieldLoneHalf fields
  | _ => false

/-- Some item holds such a text. -/
def anyLoneHalf : List Json → Bool
  | [] => false
  | v :: vs => holdsLoneHalf v || anyLoneHalf vs

/-- Some field holds such a text, or has such a name. -/
def anyFieldLoneHalf : List (String × Json) → Bool
  | [] => false
  | (k, v) :: fs => Text.hasLoneHalf k || holdsLoneHalf v || anyFieldLoneHalf fs

end

mutual

/-- What can be sent can be written and has no half of a surrogate pair in it. -/
theorem isPlain_eq : (v : Json) → isPlain v = (!holdsTooLong v && !holdsLoneHalf v)
  | .null | .bool _ | .float _ | .int _ | .str _ => by simp [isPlain, holdsTooLong, holdsLoneHalf]
  | .arr items => by
      rw [isPlain, holdsTooLong, holdsLoneHalf]
      exact arePlain_eq items
  | .obj fields => by
      rw [isPlain, holdsTooLong, holdsLoneHalf]
      exact fieldsArePlain_eq fields

theorem arePlain_eq : (vs : List Json) → arePlain vs = (!anyTooLong vs && !anyLoneHalf vs)
  | [] => rfl
  | v :: vs => by
      rw [arePlain, anyTooLong, anyLoneHalf, isPlain_eq v, arePlain_eq vs, Bool.not_or, Bool.not_or]
      ac_rfl

theorem fieldsArePlain_eq : (fs : List (String × Json)) →
    fieldsArePlain fs = (!anyFieldTooLong fs && !anyFieldLoneHalf fs)
  | [] => rfl
  | (k, v) :: fs => by
      rw [fieldsArePlain, anyFieldTooLong, anyFieldLoneHalf, isPlain_eq v, fieldsArePlain_eq fs,
        Bool.not_or, Bool.not_or, Bool.not_or]
      ac_rfl

end

theorem holdsTooLong_of_isPlain {v : Json} (h : v.isPlain = true) : v.holdsTooLong = false := by
  rw [isPlain_eq, Bool.and_eq_true, Bool.not_eq_true'] at h
  exact h.1

/-- `served` has exactly these fields, with the values that they have in `printed`. -/
structure Shows (keys : List String) (printed served : Json) : Prop where
  fields : ∃ fields, served = .obj fields ∧ fields.map (·.1) = keys
  values : ∀ key ∈ keys, served.field? key = printed.field? key

theorem lookup_filter_contains {keys : List String} {key : String} (hKey : key ∈ keys)
    (fs : List (String × Json)) :
    (fs.filter fun f => keys.contains f.1).lookup key = fs.lookup key := by
  induction fs with
  | nil => rfl
  | cons f fs ih =>
      by_cases hSame : key = f.1
      · have hKept : keys.contains f.1 = true := by simpa [← hSame] using hKey
        rw [List.filter_cons, if_pos hKept, List.lookup_cons, List.lookup_cons, beq_iff_eq.mpr hSame]
      · have hOther : (key == f.1) = false := by simpa using hSame
        rw [List.filter_cons]
        split
        · rw [List.lookup_cons, List.lookup_cons, hOther, ih]
        · rw [ih, List.lookup_cons, hOther]

/-- The fields that an object is left with keep their values. -/
theorem field?_only {keys : List String} {key : String} (hKey : key ∈ keys) (v : Json) :
    (v.only keys).field? key = v.field? key := by
  cases v with
  | obj fields => exact lookup_filter_contains hKey fields
  | _ => rfl

/-- An object of which all these fields are there, in this order, shows them if it is left with them. -/
theorem shows_only {keys : List String} {fs : List (String × Json)}
    (hKeys : (fs.map (·.1)).filter keys.contains = keys) :
    Shows keys (.obj fs) ((Json.obj fs).only keys) where
  fields := ⟨_, rfl, by rwa [List.filter_map] at hKeys⟩
  values := fun _ hKey => field?_only hKey _

theorem arePlain_eq_all (vs : List Json) : arePlain vs = vs.all isPlain := by
  induction vs with
  | nil => rfl
  | cons v vs ih => rw [arePlain, ih, List.all_cons]

theorem isPlain_obj (fs : List (String × Json)) :
    (Json.obj fs).isPlain = fs.all fun f => !Text.hasLoneHalf f.1 && f.2.isPlain := by
  show fieldsArePlain fs = _
  induction fs with
  | nil => rfl
  | cons f fs ih => rw [fieldsArePlain, ih, List.all_cons]

/-- A list can be sent if all items can. -/
theorem isPlain_list {α : Type} (f : α → Json) (xs : List α) :
    (list f xs).isPlain = xs.all fun x => (f x).isPlain := by
  show arePlain (xs.map f) = _
  rw [arePlain_eq_all, List.all_map]
  rfl

/-- A field can be sent if the object can. -/
theorem isPlain_of_field? (key : String) {v value : Json} (h : v.isPlain = true)
    (hField : v.field? key = some value) : value.isPlain = true := by
  cases v with
  | obj fields =>
      obtain ⟨before, behind, rfl, -⟩ := List.lookup_eq_some_iff.mp hField
      simp only [isPlain_obj, List.all_append, List.all_cons, Bool.and_eq_true] at h
      exact h.2.1.2
  | _ => cases hField

/-- What is left of an object can be sent if all of it can. -/
theorem isPlain_only {keys : List String} {v : Json} (h : v.isPlain = true) :
    (v.only keys).isPlain = true := by
  cases v with
  | obj fields =>
      simp only [only, isPlain_obj, List.all_eq_true] at h ⊢
      exact fun f hf => h f (List.mem_filter.mp hf).1
  | _ => exact h

end Json

end ProjectAtlas
