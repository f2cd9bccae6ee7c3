import Mathlib.Tactic.Common
import Wiretap.Observer.Metric

/-!
# Totals

A total is the sum of what was added under its name (`Metric.total_totals`).  No label makes the name
of another total out of the one for active connections (`Metric.series_ne`), so that total is the
number of connections counted less the number counted off (`Metric.active_eq`).
-/

namespace Wiretap.Observer.Metric

set_option autoImplicit false

/-- The total under a name; one that was never touched is zero. -/
def total (totals : List (String × Int)) (name : String) : Int := (totals.lookup name).getD 0

/-- What a change adds to the total under a name. -/
def share (name : String) (change : String × Int) : Int :=
  if change.1 = name then change.2 else 0

/-- What some changes add to the total under a name. -/
def shares (name : String) : List (String × Int) → Int
  | [] => 0
  | change :: changes => share name change + shares name changes

theorem shares_append (name : String) (changes more : List (String × Int)) :
    shares name (changes ++ more) = shares name changes + shares name more := by
  induction changes with
  | nil => exact (Int.zero_add _).symm
  | cons change changes ih => rw [List.cons_append, shares, ih, shares, Int.add_assoc]

/-! ## Sums -/

theorem lookup_of_untouched {totals : List (String × Int)} {name : String}
    (untouched : totals.any (·.1 == name) = false) : totals.lookup name = none := by
  induction totals with
  | nil => rfl
  | cons t totals ih =>
    rw [List.any_cons, Bool.or_eq_false_iff] at untouched
    have other : (name == t.1) = false := by
      rw [BEq.comm]
      exact untouched.1
    rw [List.lookup_cons, other]
    exact ih untouched.2

theorem lookup_raised (totals : List (String × Int)) (name raised : String) (n : Int) :
    (totals.map fun t => if t.1 == raised then (t.1, t.2 + n) else t).lookup name =
      (totals.lookup name).map fun m => m + share name (raised, n) := by
  induction totals with
  | nil => rfl
  | cons t totals ih =>
    obtain ⟨key, m⟩ := t
    rw [List.map_cons, List.lookup_cons, List.lookup_cons]
    by_cases here : name = key
    · subst here
      by_cases same : name = raised
      · simp [same, share]
      · simp [same, share, Ne.symm same]
    · have apart : (name == key) = false := beq_eq_false_iff_ne.mpr here
      rw [apart]
      by_cases same : key = raised
      · subst same
        rw [if_pos (beq_self_eq_true key), apart]
        exact ih
      · rw [if_neg (beq_iff_eq.not.mpr same), apart]
        exact ih

/-- Adding a change adds its share to each total. -/
theorem total_add (totals : List (String × Int)) (change : String × Int) (name : String) :
    total (add totals change) name = total totals name + share name change := by
  obtain ⟨key, n⟩ := change
  rw [total, total, add]
  cases touched : totals.any (·.1 == key) with
  | true =>
    rw [if_pos rfl, lookup_raised]
    cases found : totals.lookup name with
    | some m => rfl
    | none =>
      have other : key ≠ name := by
        rintro rfl
        obtain ⟨t, member, same⟩ := List.any_eq_true.mp touched
        have missing := List.lookup_eq_none_iff.mp found t member
        rw [bne_iff_ne, ← beq_iff_eq.mp same] at missing
        exact missing rfl
      simp [share, other]
  | false =>
    rw [if_neg Bool.false_ne_true, List.lookup_append]
    by_cases same : key = name
    · subst same
      rw [lookup_of_untouched touched]
      simp [share]
    · have apart : (name == key) = false := beq_eq_false_iff_ne.mpr (Ne.symm same)
      rw [List.lookup_cons, apart, List.lookup_nil, Option.or_none, share, if_neg same,
        Int.add_zero]

/-- **A total is the sum of what was added under its name.** -/
theorem total_totals (counted : List Metric) (name : String) :
    total (totals counted) name = shares name (counted.flatMap changes) := by
  have from_any (changes : List (String × Int)) (before : List (String × Int)) :
      total (changes.foldl add before) name = total before name + shares name changes := by
    induction changes generalizing before with
    | nil => exact (Int.add_zero _).symm
    | cons change changes ih => rw [List.foldl_cons, ih, total_add, shares, Int.add_assoc]
  rw [totals, from_any]
  exact Int.zero_add _

/-! ## Active connections -/

/-- A total with labels is not one whose name begins otherwise. -/
theorem series_ne {name other : String} (apart : ¬ name.toList <+: other.toList)
    (labels : List (String × String)) : series name labels ≠ other := by
  rintro rfl
  apply apart
  rw [series]
  split
  · exact List.prefix_refl _
  · rw [String.toList_append, String.toList_append, String.toList_append, List.append_assoc,
      List.append_assoc]
    exact List.prefix_append _ _

/-- Whether a connection is counted. -/
def isOpened : Metric → Bool
  | opened => true
  | _ => false

/-- Whether a connection is counted off. -/
def isClosed : Metric → Bool
  | closed .. => true
  | _ => false

theorem share_series (name : String) (apart : ¬ name.toList <+: activeSeries.toList)
    (labels : List (String × String)) (n : Int) :
    share activeSeries (series name labels, n) = 0 :=
  if_neg (series_ne apart labels)

/-- **The active connections are those counted less those counted off**, whatever else was
counted. -/
theorem active_eq (counted : List Metric) :
    total (totals counted) activeSeries = counted.countP isOpened - counted.countP isClosed := by
  rw [total_totals]
  induction counted with
  | nil => rfl
  | cons m counted ih =>
    rw [List.flatMap_cons, shares_append, ih, List.countP_cons, List.countP_cons]
    have one : shares activeSeries m.changes =
        (if m.isOpened then 1 else 0) - (if m.isClosed then 1 else 0 : Int) := by
      cases m with
      | opened => rfl
      | closed protocol outcome =>
        simp only [changes, shares,
          share_series "capture_connections_total" (by decide),
          share_series "capture_connection_duration_seconds" (by decide)]
        rfl
      | relayed protocol direction bytes =>
        simp only [changes, shares,
          share_series "capture_relayed_bytes_total" (by decide)]
        rfl
      | targetFailed protocol =>
        simp only [changes, shares,
          share_series "capture_upstream_failures_total" (by decide)]
        rfl
    rw [one]
    push_cast
    split <;> split <;> omega

end Wiretap.Observer.Metric
