import ProjectAtlas.Json.Printer
import ProjectAtlas.Render

/-!
Which values hold an integer of too many digits to be written. Of what an index holds, only lines, sizes and
the values of enumerations are integers at all.
-/

namespace ProjectAtlas

namespace Json

theorem anyTooLong_eq (vs : List Json) : anyTooLong vs = vs.any holdsTooLong := by
  induction vs with
  | nil => rfl
  | cons v vs ih => rw [anyTooLong, ih, List.any_cons]

theorem anyFieldTooLong_eq (fs : List (String × Json)) :
    anyFieldTooLong fs = fs.any fun f => f.2.holdsTooLong := by
  induction fs with
  | nil => rfl
  | cons f fs ih => rw [anyFieldTooLong, ih, List.any_cons]

@[simp] theorem holdsTooLong_int (n : Int) : (Json.int n).holdsTooLong = Text.isTooLong n := rfl

@[simp] theorem holdsTooLong_nat (n : Nat) : (nat n).holdsTooLong = Text.isTooLong n := rfl

@[simp] theorem holdsTooLong_bool (b : Bool) : (Json.bool b).holdsTooLong = false := rfl

@[simp] theorem holdsTooLong_str (s : String) : (Json.str s).holdsTooLong = false := rfl

@[simp] theorem holdsTooLong_obj (fs : List (String × Json)) :
    (Json.obj fs).holdsTooLong = fs.any fun f => f.2.holdsTooLong :=
  anyFieldTooLong_eq fs

@[simp] theorem holdsTooLong_list {α : Type} (f : α → Json) (xs : List α) :
    (list f xs).holdsTooLong = xs.any fun x => (f x).holdsTooLong := by
  show anyTooLong (xs.map f) = _
  rw [anyTooLong_eq, List.any_map]
  rfl

@[simp] theorem holdsTooLong_texts (xs : List String) : (texts xs).holdsTooLong = false := by
  show (list Json.str xs).holdsTooLong = false
  simp

@[simp] theorem holdsTooLong_opt {α : Type} (f : α → Json) (a : Option α) :
    (opt f a).holdsTooLong = a.any fun x => (f x).holdsTooLong := by
  cases a <;> rfl

@[simp] theorem holdsTooLong_optText (s : Option String) : (optText s).holdsTooLong = false := by
  cases s <;> rfl

end Json

/-- The line of a type or the value of one of its entries has too many digits. -/
def Declaration.HoldsLongInteger (d : Declaration) : Prop :=
  Text.isTooLong d.line = true ∨
    ∃ e ∈ d.values, ∃ n, e.value = some n ∧ Text.isTooLong n = true

theorem Declaration.holdsTooLong_toJson (d : Declaration) :
    d.toJson.holdsTooLong = true ↔ d.HoldsLongInteger := by
  simp [Declaration.toJson, EnumValue.toJson, Declaration.HoldsLongInteger, Option.any_eq_true]

@[simp] theorem Callable.holdsTooLong_toJson (c : Callable) :
    c.toJson.holdsTooLong = Text.isTooLong c.line := by
  simp [Callable.toJson, Parameter.toJson]

@[simp] theorem Asset.holdsTooLong_toJson (a : Asset) :
    a.toJson.holdsTooLong = Text.isTooLong a.size := by
  simp [Asset.toJson]

@[simp] theorem Plugin.holdsTooLong_toJson (p : Plugin) : p.toJson.holdsTooLong = false := by
  simp [Plugin.toJson, ModuleRef.toJson]

@[simp] theorem LayoutReport.holdsTooLong_toJson (r : LayoutReport) :
    r.toJson.holdsTooLong = false := by
  simp [LayoutReport.toJson]

end ProjectAtlas
