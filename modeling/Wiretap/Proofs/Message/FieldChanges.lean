import Mathlib.Data.List.Basic
import Mathlib.Tactic.Common
import Wiretap.Message.Fields

/-!
# Changing fields

A change concerns one name: its values are changed, and those of every other name are not
(`getAll_update`, `getAll_update_of_ne`).  Keeping some names leaves their values as they are
(`getAll_keep`).  Changes of different names can be made in either order, as long as the first name
is there already and so keeps its place (`update_comm`).
-/

namespace Wiretap.Message

set_option autoImplicit false

/-- A group with its values changed, if it is the one of the name. -/
def FieldGroup.changed (g : FieldGroup) (name : Bytes) (change : List Bytes → List Bytes) :
    FieldGroup :=
  if g.name == name then { g with values := change g.values } else g

@[simp] theorem FieldGroup.name_changed (g : FieldGroup) (name : Bytes)
    (change : List Bytes → List Bytes) : (g.changed name change).name = g.name := by
  unfold changed
  split <;> rfl

theorem FieldGroup.changed_of_ne {g : FieldGroup} {name : Bytes} (different : g.name ≠ name)
    (change : List Bytes → List Bytes) : g.changed name change = g :=
  if_neg fun same => different (eq_of_beq same)

namespace Fields

variable {f : Fields} {name other : Bytes} {change : List Bytes → List Bytes}

/-- Values of the name are there. -/
def Names (f : Fields) (name : Bytes) : Prop := name.fold ∈ f.groups.map (·.name)

/-! ## Where groups stand -/

theorem any_iff : (f.groups.any fun g => g.name == name.fold) = true ↔ f.Names name := by
  simp [Names]

/-- The values of a name that is there are changed in its place. -/
theorem update_of_names (there : f.Names name) :
    f.update name change = ⟨f.groups.map (·.changed name.fold change)⟩ :=
  if_pos (any_iff.mpr there)

/-- A name that is not there is added at the end. -/
theorem update_of_not_names (absent : ¬ f.Names name) :
    f.update name change = ⟨f.groups ++ [⟨name.fold, change []⟩]⟩ :=
  if_neg fun any => absent (any_iff.mp any)

theorem names_update :
    (f.update name change).Names other ↔ f.Names other ∨ other.fold = name.fold := by
  by_cases there : f.Names name
  · have same : (f.groups.map (·.changed name.fold change)).map (·.name) =
        f.groups.map (·.name) := by simp
    rw [update_of_names there, Names, same]
    exact ⟨.inl, fun either => either.elim id fun equal => equal ▸ there⟩
  · rw [update_of_not_names there]
    simp [Names]

/-! ## Values -/

/-- A name that is not there has no values. -/
theorem getAll_of_not_names (absent : ¬ f.Names name) : f.getAll name = [] := by
  have none : (f.groups.find? fun g => g.name == name.fold) = none :=
    List.find?_eq_none.mpr fun g member same =>
      absent (List.mem_map.mpr ⟨g, member, eq_of_beq same⟩)
  rw [getAll, none]
  rfl

theorem name_of_find? {groups : List FieldGroup} {g : FieldGroup}
    (found : groups.find? (·.name == name) = some g) : g.name = name :=
  eq_of_beq (List.find?_some found :)

theorem find?_changed (g : List FieldGroup) (name other : Bytes)
    (change : List Bytes → List Bytes) :
    (g.map (·.changed name change)).find? (·.name == other) =
      (g.find? (·.name == other)).map (·.changed name change) := by
  rw [List.find?_map]
  refine congrArg (Option.map _) (congrArg (List.find? · g) ?_)
  funext g
  exact congrArg (· == other) (g.name_changed name change)

/-- **The values of the name are changed.** -/
theorem getAll_update (same : other.fold = name.fold) :
    (f.update name change).getAll other = change (f.getAll name) := by
  by_cases there : f.Names name
  · obtain ⟨g, member, named⟩ := List.mem_map.mp there
    obtain ⟨first, found⟩ : ∃ first, f.groups.find? (·.name == name.fold) = some first :=
      Option.isSome_iff_exists.mp
        (List.find?_isSome.mpr ⟨g, member, beq_iff_eq.mpr named⟩)
    rw [update_of_names there, getAll, getAll, same, find?_changed, found]
    exact congrArg FieldGroup.values (if_pos (beq_iff_eq.mpr (name_of_find? found)))
  · rw [update_of_not_names there, getAll_of_not_names there]
    have none : (f.groups.find? fun g => g.name == name.fold) = none :=
      List.find?_eq_none.mpr fun g member same =>
        there (List.mem_map.mpr ⟨g, member, eq_of_beq same⟩)
    simp [getAll, same, none]

/-- The values of every other name are not. -/
theorem getAll_update_of_ne (different : other.fold ≠ name.fold) :
    (f.update name change).getAll other = f.getAll other := by
  by_cases there : f.Names name
  · rw [update_of_names there, getAll, getAll, find?_changed]
    cases found : f.groups.find? (·.name == other.fold) with
    | none => rfl
    | some g =>
      exact congrArg FieldGroup.values
        (FieldGroup.changed_of_ne (name_of_find? found ▸ different) change)
  · rw [update_of_not_names there]
    simp [getAll, List.find?_append, Ne.symm different]

/-- Keeping some names leaves their values as they are. -/
theorem getAll_keep {p : Bytes → Bool} (kept : p name.fold) :
    (f.keep p).getAll name = f.getAll name := by
  have same : (fun g : FieldGroup => decide (p g.name = true ∧ (g.name == name.fold) = true)) =
      fun g => g.name == name.fold := by
    funext g
    by_cases named : g.name = name.fold <;> simp [named, kept]
  rw [getAll, getAll, keep, List.find?_filter, same]

theorem getAll_keep_of_not {p : Bytes → Bool} (dropped : p name.fold = false) :
    (f.keep p).getAll name = [] := by
  refine getAll_of_not_names fun there => ?_
  obtain ⟨g, member, named⟩ := List.mem_map.mp there
  have kept := (List.mem_filter.mp member).2
  rw [named, dropped] at kept
  cases kept

/-! ## The order of changes -/

theorem changed_comm {first second : Bytes} (different : first ≠ second) (g : FieldGroup)
    (change change' : List Bytes → List Bytes) :
    (g.changed first change).changed second change' =
      (g.changed second change').changed first change := by
  by_cases named : g.name = first
  · have other : g.name ≠ second := named ▸ different
    have still : (g.changed first change).name ≠ second := by rwa [FieldGroup.name_changed]
    rw [FieldGroup.changed_of_ne still, FieldGroup.changed_of_ne other]
  · have still : (g.changed second change').name ≠ first := by rwa [FieldGroup.name_changed]
    rw [FieldGroup.changed_of_ne named, FieldGroup.changed_of_ne still]

/-- **Changes of two names can be made in either order**, if the first one is there. -/
theorem update_comm {change' : List Bytes → List Bytes} (different : name.fold ≠ other.fold)
    (there : f.Names name) :
    (f.update name change).update other change' =
      (f.update other change').update name change := by
  have first : (f.update other change').Names name := names_update.mpr (.inl there)
  rw [update_of_names first]
  by_cases second : f.Names other
  · rw [update_of_names there, update_of_names second,
      update_of_names (by simpa [Names] using second), List.map_map, List.map_map]
    apply congrArg Fields.mk
    exact List.map_congr_left fun g _ => changed_comm different g change change'
  · have absent : ¬ (f.update name change).Names other := fun either =>
      (names_update.mp either).elim second fun same => different same.symm
    rw [update_of_not_names absent, update_of_not_names second, update_of_names there,
      List.map_append, List.map_singleton]
    have still : FieldGroup.changed ⟨other.fold, change' []⟩ name.fold change =
        ⟨other.fold, change' []⟩ := FieldGroup.changed_of_ne (Ne.symm different) change
    rw [still]

/-- A change of one name can be made before or after others are added. -/
theorem update_appendAll {g : Fields} (there : f.Names name)
    (apart : ∀ line ∈ g.toList, line.1.fold ≠ name.fold) :
    (f.update name change).appendAll g = (f.appendAll g).update name change := by
  rw [appendAll, appendAll]
  generalize g.toList = lines at apart
  induction lines generalizing f with
  | nil => rfl
  | cons line rest ih =>
    have different : name.fold ≠ line.1.fold := Ne.symm (apart line List.mem_cons_self)
    have still : (f.append line.1 line.2).Names name := names_update.mpr (.inl there)
    rw [List.foldl_cons, List.foldl_cons, ← ih still fun l member => apart l (.tail _ member)]
    exact congrArg (rest.foldl _) (update_comm different there)

theorem names_appendAll {g : Fields} :
    (f.appendAll g).Names name ↔ f.Names name ∨ ∃ line ∈ g.toList, name.fold = line.1.fold := by
  rw [appendAll]
  generalize g.toList = lines
  induction lines generalizing f with
  | nil => simp
  | cons line rest ih =>
    rw [List.foldl_cons, ih, append, names_update, or_assoc]
    simp

/-! ## Keeping -/

/-- Where all names are kept, nothing is changed. -/
theorem keep_eq_self {p : Bytes → Bool} (all : ∀ n ∈ f.groups.map (·.name), p n) :
    f.keep p = f := by
  refine congrArg Fields.mk (List.filter_eq_self.mpr ?_)
  intro g member
  exact all g.name (List.mem_map_of_mem member)

/-- A change of a name that is dropped is dropped with it. -/
theorem keep_update_of_not {p : Bytes → Bool} (dropped : p name.fold = false) :
    (f.update name change).keep p = f.keep p := by
  by_cases there : f.Names name
  · rw [update_of_names there, keep, keep, List.filter_map]
    have same : (fun g : FieldGroup => p g.name) ∘
        (fun g : FieldGroup => g.changed name.fold change) = fun g => p g.name := by
      funext g
      exact congrArg p (g.name_changed name.fold change)
    rw [same]
    refine congrArg Fields.mk ((List.map_congr_left ?_).trans (List.map_id _))
    intro g member
    have kept := (List.mem_filter.mp member).2
    refine FieldGroup.changed_of_ne ?_ change
    rintro named
    rw [named, dropped] at kept
    cases kept
  · rw [update_of_not_names there, keep, keep, List.filter_append]
    simp [dropped]

/-! ## Names in lower case -/

/-- Names are kept in lower case. -/
def Folded (f : Fields) : Prop := ∀ n ∈ f.groups.map (·.name), n.fold = n

theorem Folded.append {value : Bytes} (folded : f.Folded) : (f.append name value).Folded := by
  rw [Fields.append]
  by_cases there : f.Names name
  · rw [update_of_names there]
    simpa [Folded] using folded
  · rw [update_of_not_names there]
    intro n member
    rw [List.map_append, List.mem_append] at member
    obtain old | new := member
    · exact folded n old
    · rw [List.map_singleton, List.mem_singleton] at new
      rw [new]
      exact Bytes.fold_fold name

end Fields

end Wiretap.Message
