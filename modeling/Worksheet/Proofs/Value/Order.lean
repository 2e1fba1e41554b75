/-
  The order of values is sound for sorting and for comparisons. Exchanging two values reverses
  their order, whatever they are. Without unset cells and without NaN the order is that of four keys
  in a row: the place of the type, the size of a number, the lower case of a text and the truth
  value (`order_eq_compareKeys`). Each key has a linear order, so values have a total preorder
  (`order_totalPreorder`). An unset cell is outside, since it counts as the zero of each type, and
  so is NaN, which counts as equal to each number.
-/
import Worksheet.Proofs.Number.Size
import Worksheet.Value.Order

namespace Worksheet.Value

/-! ## Numbers -/

theorem compareNumbers_eq {x y : Float} (hx : x.isNaN = false) (hy : y.isNaN = false) :
    compareNumbers x y = compare (Number.size x) (Number.size y) := by
  unfold compareNumbers
  simp only [Number.lt_iff_size_lt hx hy, Number.lt_iff_size_lt hy hx]
  rcases Int.lt_trichotomy (Number.size x) (Number.size y) with less | same | more
  · rw [if_pos less, Int.compare_eq_lt.2 less]
  · rw [same, if_neg (Int.lt_irrefl _), if_neg (Int.lt_irrefl _), Int.compare_eq_eq.2 rfl]
  · rw [if_neg (Int.lt_asymm more), if_pos more, Int.compare_eq_gt.2 more]

/-- NaN is equal to all numbers. -/
theorem compareNumbers_of_isNaN {x y : Float} (h : x.isNaN = true ∨ y.isNaN = true) :
    compareNumbers x y = .eq := by
  unfold compareNumbers
  rcases h with left | right
  · rw [if_neg (Number.not_lt_of_isNaN_left left), if_neg (Number.not_lt_of_isNaN_right left)]
  · rw [if_neg (Number.not_lt_of_isNaN_right right), if_neg (Number.not_lt_of_isNaN_left right)]

theorem compareNumbers_swap (x y : Float) : compareNumbers x y = (compareNumbers y x).swap := by
  by_cases nan : x.isNaN = true ∨ y.isNaN = true
  · rw [compareNumbers_of_isNaN nan, compareNumbers_of_isNaN nan.symm]
    rfl
  · obtain ⟨hx, hy⟩ := not_or.1 nan
    rw [Bool.not_eq_true] at hx hy
    rw [compareNumbers_eq hx hy, compareNumbers_eq hy hx]
    exact Std.OrientedCmp.eq_swap

/-! ## Symmetry -/

theorem compareTexts_swap (s t : String) : compareTexts s t = (compareTexts t s).swap := by
  unfold compareTexts
  exact Std.OrientedCmp.eq_swap

theorem compareBooleans_swap (a b : Bool) : compare a b = (compare b a).swap :=
  Std.OrientedCmp.eq_swap

theorem compareSet_swap (v w : Value) : compareSet v w = (compareSet w v).swap := by
  cases v <;> cases w
  case number.number x y => exact compareNumbers_swap x y
  case text.text s t => exact compareTexts_swap s t
  case boolean.boolean a b => exact compareBooleans_swap a b
  -- Values of two types go by the places of these.
  all_goals rfl

theorem order_swap (v w : Value) : v.order w = (w.order v).swap := compareSet_swap _ _

/-! ## Keys -/

/-- The size of a number. -/
def magnitude : Value → Int
  | .number x => Number.size x
  | _ => 0

/-- The characters that a text is ordered by. -/
def letters : Value → List Char
  | .text s => Text.lowerList s.toList
  | _ => []

/-- The truth value, if it is one. -/
def truth : Value → Bool
  | .boolean b => b
  | _ => false

/-- Orders two values by the places of their types, then by what they hold. -/
def compareKeys : Value → Value → Ordering :=
  compareLex (compareOn rank)
    (compareLex (compareOn magnitude) (compareLex (compareOn letters) (compareOn truth)))

instance : Std.TransCmp compareKeys :=
  inferInstanceAs (Std.TransCmp (compareLex (compareOn rank)
    (compareLex (compareOn magnitude) (compareLex (compareOn letters) (compareOn truth)))))

/-- The value has a place in the order: it is set, and it is not NaN. -/
structure Comparable (v : Value) : Prop where
  set : v ≠ .empty
  real : ∀ x, v = .number x → x.isNaN = false

theorem zeroLike_of_ne {v : Value} (h : v ≠ .empty) (w : Value) : v.zeroLike w = v := by
  cases v with
  | empty => exact absurd rfl h
  | _ => rfl

/-- Values that have a place in the order are ordered by their keys. -/
theorem order_eq_compareKeys {v w : Value} (hv : v.Comparable) (hw : w.Comparable) :
    v.order w = compareKeys v w := by
  unfold order
  rw [zeroLike_of_ne hv.set, zeroLike_of_ne hw.set]
  cases v <;> cases w
  case number.number x y =>
    show compareNumbers x y = (compare (Number.size x) (Number.size y)).then .eq
    rw [compareNumbers_eq (hv.real x rfl) (hw.real y rfl), Ordering.then_eq]
  case text.text s t =>
    show compareTexts s t = (compareTexts s t).then .eq
    rw [Ordering.then_eq]
  all_goals first | rfl | exact absurd rfl hv.set | exact absurd rfl hw.set

/-- Values that are equal in the order are of one type. -/
theorem rank_eq_of_order_eq {v w : Value} (hv : v.Comparable) (hw : w.Comparable)
    (h : v.order w = .eq) : v.rank = w.rank := by
  rw [order_eq_compareKeys hv hw] at h
  exact Nat.compare_eq_eq.1 (Ordering.then_eq_eq.1 h).1

/-! ## Unset cells and NaN -/

theorem comparable_zeroLike (v : Value) : (Value.empty.zeroLike v).Comparable := by
  cases v
  case text s => exact ⟨nofun, nofun⟩
  case boolean b => exact ⟨nofun, nofun⟩
  all_goals
    refine ⟨nofun, fun x hx => ?_⟩
    obtain rfl := Value.number.inj hx
    decide

/-- An unset cell is taken as the zero of the other value's type. -/
theorem order_empty {v : Value} (h : v ≠ .empty) :
    v.order .empty = v.order (Value.empty.zeroLike v) := by
  unfold order
  rw [zeroLike_of_ne h, zeroLike_of_ne h, zeroLike_of_ne (comparable_zeroLike v).set]

theorem zeroLike_empty_congr {u v : Value} (hu : u ≠ .empty) (hv : v ≠ .empty)
    (h : u.rank = v.rank) : Value.empty.zeroLike u = Value.empty.zeroLike v := by
  cases u <;> cases v <;> first | rfl | exact absurd rfl hu | exact absurd rfl hv | cases h

/-- NaN is in the place of the numbers, and equal to all of them. -/
theorem order_of_isNaN {v : Value} (h : v ≠ .empty) {x : Float} (nan : x.isNaN = true) :
    v.order (.number x) = compare v.rank 0 := by
  unfold order
  rw [zeroLike_of_ne h]
  cases v
  case empty => exact absurd rfl h
  case number y => exact compareNumbers_of_isNaN (.inr nan)
  all_goals rfl

/-! ## The order -/

/-- Values that are equal in the order compare in the same way with every value. -/
theorem order_congr {u v : Value} (hu : u.Comparable) (hv : v.Comparable) (h : u.order v = .eq)
    (w : Value) : u.order w = v.order w := by
  have ranks := rank_eq_of_order_eq hu hv h
  have placed {w : Value} (hw : w.Comparable) : u.order w = v.order w := by
    rw [order_eq_compareKeys hu hv] at h
    rw [order_eq_compareKeys hu hw, order_eq_compareKeys hv hw]
    exact Std.TransCmp.congr_left h
  by_cases unset : w = .empty
  · subst unset
    have zero := zeroLike_empty_congr hu.set hv.set ranks
    rw [order_empty hu.set, order_empty hv.set, ← zero]
    exact placed (comparable_zeroLike u)
  by_cases nan : ∃ x, w = .number x ∧ x.isNaN = true
  · obtain ⟨x, rfl, nan⟩ := nan
    rw [order_of_isNaN hu.set nan, order_of_isNaN hv.set nan, ranks]
  · refine placed ⟨unset, fun x hx => ?_⟩
    exact Bool.eq_false_iff.2 fun isNaN => nan ⟨x, hx, isNaN⟩

theorem order_trans {u v w : Value} (hu : u.Comparable) (hv : v.Comparable) (hw : w.Comparable)
    (huv : u.order v ≠ .gt) (hvw : v.order w ≠ .gt) : u.order w ≠ .gt := by
  rw [order_eq_compareKeys hu hv] at huv
  rw [order_eq_compareKeys hv hw] at hvw
  rw [order_eq_compareKeys hu hw]
  rw [ne_eq, ← Ordering.isLE_iff_ne_gt] at huv hvw ⊢
  exact Std.TransCmp.isLE_trans huv hvw

/-- Exchanging two values reverses their order. Values that are set and not NaN have a total
    preorder: it is transitive, each two of them are in one order or the other, and two that are
    equal compare in the same way with every value. -/
theorem order_totalPreorder :
    (∀ v w : Value, v.order w = (w.order v).swap) ∧
    (∀ u v w : Value, u.Comparable → v.Comparable → w.Comparable →
      u.order v ≠ .gt → v.order w ≠ .gt → u.order w ≠ .gt) ∧
    (∀ v w : Value, v.order w ≠ .gt ∨ w.order v ≠ .gt) ∧
    ∀ u v : Value, u.Comparable → v.Comparable → u.order v = .eq →
      ∀ w, u.order w = v.order w ∧ w.order u = w.order v := by
  refine ⟨order_swap, fun _ _ _ => order_trans, fun v w => ?_, fun u v hu hv h w => ?_⟩
  · rw [order_swap v w]
    cases w.order v <;> decide
  · have same := order_congr hu hv h w
    refine ⟨same, ?_⟩
    rw [order_swap w u, order_swap w v, same]

/-- A number before a text, and the text in two spellings. -/
theorem order_totalPreorder_spellings :
    let large : Value := .number 1048576.5
    let capitals : Value := .text "STRASSE 1"
    let small : Value := .text "Strasse 1"
    large.Comparable ∧ capitals.Comparable ∧ small.Comparable ∧
      large.order capitals = .lt ∧ capitals.order small = .eq ∧ large.order small ≠ .gt ∧
      ∀ w, capitals.order w = small.order w := by
  intro large capitals small
  have number : large.Comparable := by
    refine ⟨nofun, fun x hx => ?_⟩
    obtain rfl := Value.number.inj hx
    decide
  have upper : capitals.Comparable := ⟨nofun, nofun⟩
  have lower : small.Comparable := ⟨nofun, nofun⟩
  have less : large.order capitals = .lt := by decide
  have same : capitals.order small = .eq := by decide
  obtain ⟨-, trans, -, congr⟩ := order_totalPreorder
  refine ⟨number, upper, lower, less, same, ?_, fun w => (congr _ _ upper lower same w).1⟩
  exact trans large capitals small number upper lower (by rw [less]; decide) (by rw [same]; decide)

/-- An unset cell is equal to values that are not equal to each other. -/
example : order (.number 0.0) .empty = .eq ∧ order .empty (.text "") = .eq ∧
    order (.number 0.0) (.text "") = .lt := by decide

end Worksheet.Value
