import Mathlib.Data.List.Basic
import Mathlib.Data.List.Induction
import Mathlib.Tactic.Common
import Wiretap.Message.Fields

/-!
# Fields added one after the other

Fields that are added one by one end up grouped by name.  The groups stand in the order in which
their names first appeared, and each holds the values that were added under its name, in order
(`ofList_eq_grouped`).  Reading a name off such fields gives the values that were added under it
(`getAll_grouped`).
-/

namespace Wiretap.Message.Fields

set_option autoImplicit false

/-! ## Names and values of a list of lines -/

/-- The names of some lines, folded, each at its first appearance. -/
def namesOf (lines : List (Bytes × Bytes)) : List Bytes :=
  (lines.map fun line => line.1.fold).eraseDups

/-- The values that some lines give a folded name, in order. -/
def valuesOf (lines : List (Bytes × Bytes)) (name : Bytes) : List Bytes :=
  (lines.filter fun line => line.1.fold == name).map (·.2)

/-- The fields of some lines: names in the order of their first appearance, and with each name the
values that the lines give it, in their order. -/
def grouped (lines : List (Bytes × Bytes)) : Fields :=
  ⟨(namesOf lines).map fun name => ⟨name, valuesOf lines name⟩⟩

theorem mem_namesOf {lines : List (Bytes × Bytes)} {name : Bytes} :
    name ∈ namesOf lines ↔ ∃ line ∈ lines, line.1.fold = name := by
  rw [namesOf, List.mem_eraseDups, List.mem_map]

theorem namesOf_concat (lines : List (Bytes × Bytes)) (line : Bytes × Bytes) :
    namesOf (lines ++ [line]) =
      if line.1.fold ∈ namesOf lines then namesOf lines else namesOf lines ++ [line.1.fold] := by
  have known : line.1.fold ∈ namesOf lines ↔ line.1.fold ∈ lines.map fun l => l.1.fold :=
    List.mem_eraseDups
  rw [namesOf, List.map_append, List.eraseDups_append, List.map_singleton]
  split
  · next member =>
    have none : [line.1.fold].removeAll (lines.map fun l => l.1.fold) = [] := by
      simp only [List.removeAll, List.filter_cons, List.filter_nil]
      rw [if_neg (by simpa using known.mp member)]
    rw [none]
    simp [namesOf]
  · next fresh =>
    have all : [line.1.fold].removeAll (lines.map fun l => l.1.fold) = [line.1.fold] := by
      simp only [List.removeAll, List.filter_cons, List.filter_nil]
      rw [if_pos (by simpa using fun h => fresh (known.mpr h))]
    rw [all]
    rfl

theorem valuesOf_concat (lines : List (Bytes × Bytes)) (line : Bytes × Bytes) (name : Bytes) :
    valuesOf (lines ++ [line]) name =
      if line.1.fold = name then valuesOf lines name ++ [line.2] else valuesOf lines name := by
  by_cases same : line.1.fold = name <;> simp [valuesOf, List.filter_append, same]

theorem valuesOf_eq_nil {lines : List (Bytes × Bytes)} {name : Bytes}
    (fresh : name ∉ namesOf lines) : valuesOf lines name = [] := by
  rw [valuesOf, List.map_eq_nil_iff, List.filter_eq_nil_iff]
  intro line member same
  exact fresh (mem_namesOf.mpr ⟨line, member, by simpa using same⟩)

/-! ## Adding the lines -/

theorem append_grouped (lines : List (Bytes × Bytes)) (line : Bytes × Bytes) :
    (grouped lines).append line.1 line.2 = grouped (lines ++ [line]) := by
  have any_iff : ((grouped lines).groups.any fun g => g.name == line.1.fold) = true ↔
      line.1.fold ∈ namesOf lines := by
    simp [grouped]
  rw [append, update]
  simp only [any_iff]
  rw [grouped, grouped, namesOf_concat]
  split
  · next member =>
    rw [List.map_map]
    congr 1
    refine List.map_congr_left fun name _ => ?_
    rw [valuesOf_concat]
    by_cases same : line.1.fold = name
    · simp [same]
    · simp [same, Ne.symm same]
  · next fresh =>
    rw [List.map_append, List.map_singleton, valuesOf_concat, if_pos rfl, valuesOf_eq_nil fresh]
    congr 2
    refine List.map_congr_left fun name member => ?_
    have other : line.1.fold ≠ name := fun same => fresh (same ▸ member)
    rw [valuesOf_concat, if_neg other]

/-- **Lines that are added one after the other are grouped.** -/
theorem ofList_eq_grouped (lines : List (Bytes × Bytes)) : ofList lines = grouped lines := by
  induction lines using List.reverseRecOn with
  | nil => rfl
  | append_singleton lines line ih => rw [← append_grouped, ← ih, ofList, List.foldl_concat]; rfl

/-! ## Reading a name -/

theorem getAll_grouped (lines : List (Bytes × Bytes)) (name : Bytes) :
    (grouped lines).getAll name = valuesOf lines name.fold := by
  have found : (grouped lines).groups.find? (fun g => g.name == name.fold) =
      ((namesOf lines).find? (· == name.fold)).map fun n => ⟨n, valuesOf lines n⟩ := by
    rw [grouped, List.find?_map]
    rfl
  rw [getAll, found]
  cases first : (namesOf lines).find? (· == name.fold) with
  | none =>
    have fresh : name.fold ∉ namesOf lines := fun member => by
      simpa using List.find?_eq_none.mp first _ member
    rw [valuesOf_eq_nil fresh]
    rfl
  | some n =>
    obtain rfl : n = name.fold := by simpa using List.find?_some first
    rfl

theorem get?_grouped (lines : List (Bytes × Bytes)) (name : Bytes) :
    (grouped lines).get? name =
      (lines.find? fun line => line.1.fold == name.fold).map (·.2) := by
  rw [get?, getAll_grouped, valuesOf, List.head?_map, List.head?_filter]

end Wiretap.Message.Fields
