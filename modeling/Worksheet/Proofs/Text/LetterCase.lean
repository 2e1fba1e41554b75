/-
  The case of ASCII letters. Two texts differ in nothing else when their capitals are the same. Such
  texts agree in all that is decided about a character without regard to case: where runs of digits
  or letters end, and what stands in them.
-/
import Mathlib
import Worksheet.Proofs.Text.Ascii

namespace Worksheet.Text

/-! ## Single characters -/

/-- What is the same for the letters of the ASCII range and their capitals is the same for all
    characters and their capitals. -/
theorem toUpper_invariant {α : Type} [DecidableEq α] {f : Char → α}
    (all : ∀ n < 128, f (Char.ofNat n).toUpper = f (Char.ofNat n)) (c : Char) :
    f c.toUpper = f c := by
  by_cases ascii : c.toNat < 128
  · exact of_ascii (P := fun c => f c.toUpper = f c) all ascii
  · rw [toUpper_eq_self ascii]

/-- Characters with the same capital agree in what the case does not matter for. -/
theorem congr_of_toUpper_eq {α : Type} {f : Char → α} (invariant : ∀ c, f c.toUpper = f c)
    {c d : Char} (h : d.toUpper = c.toUpper) : f d = f c := by
  rw [← invariant d, h, invariant c]

theorem isDigit_toUpper (c : Char) : c.toUpper.isDigit = c.isDigit :=
  toUpper_invariant (by decide) c

theorem toUpper_of_not_isAlpha {c : Char} (h : c.isAlpha = false) : c.toUpper = c :=
  Char.toUpper_eq_of_not_isLower (Bool.eq_false_iff.1 (Bool.or_eq_false_iff.1 h).2)

/-- Only letters share their capital with another character. -/
theorem eq_of_toUpper_eq {c d : Char} (h : d.toUpper = c.toUpper) (noLetter : c.isAlpha = false) :
    d = c := by
  have noLetter' : d.isAlpha = false :=
    (congr_of_toUpper_eq Char.isAlpha_toUpper_eq_isAlpha h).trans noLetter
  rwa [toUpper_of_not_isAlpha noLetter, toUpper_of_not_isAlpha noLetter'] at h

theorem toUpper_eq_iff {c d : Char} (noLetter : d.isAlpha = false) : c.toUpper = d ↔ c = d := by
  constructor
  · intro h
    refine eq_of_toUpper_eq ?_ noLetter
    rw [h, toUpper_of_not_isAlpha noLetter]
  · rintro rfl
    exact toUpper_of_not_isAlpha noLetter

theorem utf8Size_toUpper (c : Char) : c.toUpper.utf8Size = c.utf8Size :=
  toUpper_invariant (by decide) c

theorem upperChar_toUpper (c : Char) : upperChar c.toUpper = upperChar c :=
  toUpper_invariant (by decide) c

/-! ## Texts -/

variable {cs ds : List Char} {p : Char → Bool}

theorem asciiUpper_cons (c : Char) (cs : List Char) :
    asciiUpper (c :: cs) = c.toUpper :: asciiUpper cs := rfl

theorem asciiUpper_asciiUpper (cs : List Char) : asciiUpper (asciiUpper cs) = asciiUpper cs :=
  List.map_map.trans (List.map_congr_left fun c _ => c.toUpper_toUpper_eq_toUpper)

theorem length_asciiUpper (cs : List Char) : (asciiUpper cs).length = cs.length :=
  List.length_map _

theorem isEmpty_asciiUpper (cs : List Char) : (asciiUpper cs).isEmpty = cs.isEmpty := by
  cases cs <;> rfl

theorem length_eq_of_asciiUpper_eq (h : asciiUpper ds = asciiUpper cs) :
    ds.length = cs.length := by
  rw [← length_asciiUpper, h, length_asciiUpper]

/-- Texts with the same capitals agree in what the case does not matter for. -/
theorem congr_of_asciiUpper_eq {α : Type} {f : List Char → α}
    (invariant : ∀ cs, f (asciiUpper cs) = f cs) (h : asciiUpper ds = asciiUpper cs) :
    f ds = f cs := by
  rw [← invariant ds, h, invariant cs]

theorem takeWhile_asciiUpper (hp : ∀ c, p c.toUpper = p c) (cs : List Char) :
    (asciiUpper cs).takeWhile p = asciiUpper (cs.takeWhile p) := by
  have same : p ∘ Char.toUpper = p := funext hp
  rw [asciiUpper, List.takeWhile_map, same]
  rfl

theorem dropWhile_asciiUpper (hp : ∀ c, p c.toUpper = p c) (cs : List Char) :
    (asciiUpper cs).dropWhile p = asciiUpper (cs.dropWhile p) := by
  have same : p ∘ Char.toUpper = p := funext hp
  rw [asciiUpper, List.dropWhile_map, same]
  rfl

theorem filter_asciiUpper (hp : ∀ c, p c.toUpper = p c) (cs : List Char) :
    (asciiUpper cs).filter p = asciiUpper (cs.filter p) := by
  have same : p ∘ Char.toUpper = p := funext hp
  rw [asciiUpper, List.filter_map, same]
  rfl

theorem all_asciiUpper (hp : ∀ c, p c.toUpper = p c) (cs : List Char) :
    (asciiUpper cs).all p = cs.all p := by
  have same : p ∘ Char.toUpper = p := funext hp
  rw [asciiUpper, List.all_map, same]

theorem any_head?_asciiUpper (hp : ∀ c, p c.toUpper = p c) (cs : List Char) :
    (asciiUpper cs).head?.any p = cs.head?.any p := by
  cases cs with
  | nil => rfl
  | cons c cs => exact hp c

theorem exists_of_mem_head?_asciiUpper {c : Char} (h : c ∈ (asciiUpper cs).head?) :
    ∃ d ∈ cs.head?, d.toUpper = c := by
  rw [asciiUpper, List.head?_map] at h
  exact Option.map_eq_some_iff.1 h

/-- A text begins with what is no letter if its capitals do. -/
theorem exists_of_asciiUpper_eq_cons {c : Char} (noLetter : c.isAlpha = false)
    (h : asciiUpper cs = c :: ds) : ∃ more, cs = c :: more := by
  cases cs with
  | nil => cases h
  | cons d more =>
    have first : d.toUpper = c := (List.cons.inj h).1
    exact ⟨more, by rw [(toUpper_eq_iff noLetter).1 first]⟩

theorem head?_asciiUpper_eq {c : Char} (noLetter : c.isAlpha = false) :
    (asciiUpper cs).head? = some c ↔ cs.head? = some c := by
  cases cs with
  | nil => rfl
  | cons d cs => simp [asciiUpper_cons, toUpper_eq_iff noLetter]

theorem mem_asciiUpper {c : Char} (noLetter : c.isAlpha = false) :
    c ∈ asciiUpper cs ↔ c ∈ cs := by
  simp only [asciiUpper, List.mem_map, toUpper_eq_iff noLetter, exists_eq_right]

theorem asciiUpper_of_no_letter (h : ∀ c ∈ cs, c.isAlpha = false) : asciiUpper cs = cs :=
  (List.map_congr_left fun c hc => toUpper_of_not_isAlpha (h c hc)).trans (List.map_id _)

/-- A text without letters has no other spelling. -/
theorem eq_of_asciiUpper_eq (h : asciiUpper ds = asciiUpper cs)
    (noLetter : ∀ c ∈ cs, c.isAlpha = false) : ds = cs := by
  induction ds generalizing cs with
  | nil => exact (List.map_eq_nil_iff.1 h.symm).symm
  | cons d ds ih =>
    cases cs with
    | nil => cases h
    | cons c cs =>
      obtain ⟨first, rest⟩ := List.cons.inj h
      rw [eq_of_toUpper_eq first (noLetter c List.mem_cons_self),
        ih rest fun c hc => noLetter c (List.mem_cons_of_mem _ hc)]

/-- Whether a string is one without letters does not depend on the case of its letters. -/
theorem eq_iff_of_asciiUpper_eq {s s' symbol : String}
    (h : asciiUpper s'.toList = asciiUpper s.toList)
    (noLetter : symbol.toList.any Char.isAlpha = false) : s' = symbol ↔ s = symbol := by
  have noLetter : ∀ c ∈ symbol.toList, c.isAlpha = false := fun c hc =>
    Bool.eq_false_iff.2 (List.any_eq_false.1 noLetter c hc)
  constructor
  · rintro rfl
    exact String.toList_injective (eq_of_asciiUpper_eq h.symm noLetter)
  · rintro rfl
    exact String.toList_injective (eq_of_asciiUpper_eq h noLetter)

theorem upperList_asciiUpper (cs : List Char) : upperList (asciiUpper cs) = upperList cs := by
  rw [upperList, asciiUpper, List.flatMap_map]
  simp only [upperChar_toUpper]
  rfl

end Worksheet.Text
