import ClusterConnect.Timeline

/-!
# Comparing times

A deadline is reached or it is not. That makes a time that is not late an early one only where the
times are numbers: an undefined one is neither.

* `Timeline.Total`: of two numbers, one is at most the other or the other is before it.
* `total_float`, `total_int`: doubles and whole milliseconds are compared like that.
-/

namespace ClusterConnect

/-- Numbers are compared: if one is not at most another, then the other is before it. -/
def Timeline.Total (τ : Type) [Timeline τ] : Prop :=
  ∀ a b : τ, Timeline.isUndefined a = false → Timeline.isUndefined b = false →
    Timeline.atMost a b = false → Timeline.before b a = true

theorem total_int : Timeline.Total Int := by
  intro a b _ _ h
  exact decide_eq_true (Int.not_le.mp (of_decide_eq_false h))

section

open Float.Model Float.Model.UnpackedFloat

/-- Exchanging two doubles turns their comparison around. -/
theorem compare_swap (a b : UnpackedFloat) : b.compare a = (a.compare b).map Ordering.swap := by
  have hsign : ∀ s t : Sign, compare t s = (compare s t).swap := by
    intro s t
    cases s <;> cases t <;> rfl
  have hfinite : ∀ (e e' : Int) (m m' : Nat), (compare e' e).then (compare m' m) =
      ((compare e e').then (compare m m')).swap := by
    intro e e' m m'
    rw [Ordering.swap_then, ← Std.OrientedCmp.eq_swap, ← Std.OrientedCmp.eq_swap]
  cases a with
  | notANumber => cases b <;> rfl
  | infinity s =>
    cases b with
    | infinity s' => exact congrArg some (hsign s s')
    | _ => cases s <;> rfl
  | zero s =>
    cases b with
    | notANumber => rfl
    | infinity s' => cases s' <;> rfl
    | zero s' => rfl
    | finite s' => cases s' <;> rfl
  | finite s m e _ =>
    cases b with
    | notANumber => cases s <;> rfl
    | infinity s' => cases s <;> cases s' <;> rfl
    | zero s' => cases s <;> rfl
    | finite s' m' e' _ =>
      -- Below zero the order of the sizes is turned around, on both sides of the equation.
      match s, s' with
      | .negative, .negative => exact congrArg (some ·.swap) (hfinite e e' m m')
      | .positive, .positive => exact congrArg some (hfinite e e' m m')
      | .negative, .positive => rfl
      | .positive, .negative => rfl

/-- Doubles that are numbers are compared. -/
theorem isSome_compare {a b : UnpackedFloat} (ha : a.isNaN = false) (hb : b.isNaN = false) :
    (a.compare b).isSome := by
  cases a with
  | notANumber => cases ha
  | infinity s =>
    cases b with
    | notANumber => cases hb
    | infinity s' => rfl
    | _ => cases s <;> rfl
  | zero s =>
    cases b with
    | notANumber => cases hb
    | zero s' => rfl
    | infinity s' => cases s' <;> rfl
    | finite s' => cases s' <;> rfl
  | finite s =>
    cases b with
    | notANumber => cases hb
    | zero s' => cases s <;> rfl
    | infinity s' => cases s <;> cases s' <;> rfl
    | finite s' => cases s <;> cases s' <;> rfl

theorem lt_of_not_le {a b : UnpackedFloat} (ha : a.isNaN = false) (hb : b.isNaN = false)
    (h : a.le b = false) : b.lt a = true := by
  obtain ⟨o, ho⟩ := Option.isSome_iff_exists.mp (isSome_compare ha hb)
  have hgt : o.isLE = false := by simpa [UnpackedFloat.le, ho] using h
  have hswap : o.swap = .lt := by
    cases o with
    | lt => cases hgt
    | eq => cases hgt
    | gt => rfl
  simp [UnpackedFloat.lt, compare_swap a b, ho, hswap]

end

theorem total_float : Timeline.Total Float := by
  intro a b ha hb h
  have hle : a.toModel.unpack.le b.toModel.unpack = false := by
    refine Bool.eq_false_iff.mpr fun hle => ?_
    have hn : ¬ a ≤ b := of_decide_eq_false h
    exact hn (decide_eq_true hle)
  have hlt : Float.lt b a = true := decide_eq_true (lt_of_not_le ha hb hle)
  exact decide_eq_true hlt

end ClusterConnect
