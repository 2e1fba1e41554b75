/-
  Plain characters and runs of them. What can be decided about one character is checked for the
  whole ASCII range at once (`of_ascii`); upper case by the Unicode tables and by arithmetic
  agree there.
-/
import Worksheet.Text.Blank
import Worksheet.Text.Case

namespace Worksheet.Text

/-! ## Single characters -/

/-- What holds of all ASCII characters holds of each. -/
theorem of_ascii {P : Char → Prop} [DecidablePred P] (all : ∀ n < 128, P (Char.ofNat n))
    {c : Char} (h : c.toNat < 128) : P c := by
  rw [← Char.ofNat_toNat c]
  exact all _ h

theorem isAlpha_of_isUpper {c : Char} (h : c.isUpper = true) : c.isAlpha = true :=
  Bool.or_eq_true_iff.2 (.inl h)

theorem isAlphanum_of_isAlpha {c : Char} (h : c.isAlpha = true) : c.isAlphanum = true :=
  Bool.or_eq_true_iff.2 (.inl h)

theorem isAlphanum_of_isDigit {c : Char} (h : c.isDigit = true) : c.isAlphanum = true :=
  Bool.or_eq_true_iff.2 (.inr h)

theorem toNat_lt_of_isAlphanum {c : Char} (h : c.isAlphanum = true) : c.toNat < 128 := by
  have below {bound : Nat} (le : c.toNat ≤ bound) (small : bound < 128) : c.toNat < 128 :=
    Nat.lt_of_le_of_lt le small
  rcases Bool.or_eq_true_iff.1 h with letter | digit
  · rcases Bool.or_eq_true_iff.1 letter with upper | lower
    · exact below (of_decide_eq_true upper).2 (by decide)
    · exact below (of_decide_eq_true (Bool.and_eq_true_iff.1 lower).2) (by decide)
  · exact below (of_decide_eq_true (Bool.and_eq_true_iff.1 digit).2) (by decide)

theorem isAlpha_eq_false_of_isDigit {c : Char} (h : c.isDigit = true) : c.isAlpha = false :=
  of_ascii (P := fun c => c.isDigit = true → c.isAlpha = false) (by decide)
    (toNat_lt_of_isAlphanum (isAlphanum_of_isDigit h)) h

theorem isDigit_of_mem_toDigits {n : Nat} {c : Char} (h : c ∈ Nat.toDigits 10 n) :
    c.isDigit = true :=
  Nat.isDigit_of_mem_toDigits (by decide) (by decide) h

/-! ## Upper case -/

theorem toUpper_of_isDigit {c : Char} (h : c.isDigit = true) : c.toUpper = c :=
  of_ascii (P := fun c => c.isDigit = true → c.toUpper = c) (by decide)
    (toNat_lt_of_isAlphanum (isAlphanum_of_isDigit h)) h

theorem not_isDigit_toUpper {c : Char} (h : c.isAlpha = true) : (!c.toUpper.isDigit) = true :=
  of_ascii (P := fun c => c.isAlpha = true → (!c.toUpper.isDigit) = true) (by decide)
    (toNat_lt_of_isAlphanum (isAlphanum_of_isAlpha h)) h

/-- Only plain characters have another capital. -/
theorem toUpper_eq_self {c : Char} (h : ¬ c.toNat < 128) : c.toUpper = c :=
  dif_neg fun lower => h (Nat.lt_of_le_of_lt (show c.toNat ≤ 122 from lower.2) (by decide))

theorem asciiUpper_append (cs ds : List Char) :
    asciiUpper (cs ++ ds) = asciiUpper cs ++ asciiUpper ds :=
  List.map_append

theorem upperList_of_ascii {cs : List Char} (h : ∀ c ∈ cs, c.toNat < 128) :
    upperList cs = asciiUpper cs := by
  induction cs with
  | nil => rfl
  | cons c cs ih =>
    have later := ih fun d hd => h d (List.mem_cons_of_mem c hd)
    have first : upperChar c = [c.toUpper] := if_pos (h c List.mem_cons_self)
    show upperChar c ++ upperList cs = c.toUpper :: asciiUpper cs
    rw [first, later]
    rfl

/-! ## Blanks -/

theorem isBlank_of_isAlphanum {c : Char} (h : c.isAlphanum = true) : isBlank c = false :=
  of_ascii (P := fun c => c.isAlphanum = true → isBlank c = false) (by decide)
    (toNat_lt_of_isAlphanum h) h

theorem isBlank_toUpper (c : Char) : isBlank c.toUpper = isBlank c := by
  by_cases ascii : c.toNat < 128
  · exact of_ascii (P := fun c => isBlank c.toUpper = isBlank c) (by decide) ascii
  · rw [toUpper_eq_self ascii]

theorem trimLeft_of_not_blank {cs : List Char} (h : ∀ c ∈ cs, isBlank c = false) :
    trimLeft cs = cs := by
  cases cs with
  | nil => rfl
  | cons c cs => simp [trimLeft, h c List.mem_cons_self]

/-- Trimming leaves a text without blanks as it is. -/
theorem trimBoth_of_not_blank {cs : List Char} (h : ∀ c ∈ cs, isBlank c = false) :
    trimBoth cs = cs := by
  have reversed : trimLeft cs.reverse = cs.reverse :=
    trimLeft_of_not_blank fun c hc => h c (List.mem_reverse.1 hc)
  show (trimLeft (trimLeft cs).reverse).reverse = cs
  rw [trimLeft_of_not_blank h, reversed, List.reverse_reverse]

/-! ## Runs -/

variable {p : Char → Bool} {run rest : List Char}

/-- A run of characters ends where the text after it does not go on with it. -/
theorem takeWhile_append_of_stops (all : ∀ c ∈ run, p c = true)
    (stops : ∀ c ∈ rest.head?, p c = false) : (run ++ rest).takeWhile p = run := by
  rw [List.takeWhile_append_of_pos all]
  cases rest with
  | nil => simp
  | cons c rest => simp [stops c rfl]

theorem dropWhile_append_of_stops (all : ∀ c ∈ run, p c = true)
    (stops : ∀ c ∈ rest.head?, p c = false) : (run ++ rest).dropWhile p = rest := by
  rw [List.dropWhile_append_of_pos all]
  cases rest with
  | nil => rfl
  | cons c rest => simp [stops c rfl]

theorem drop_length_takeWhile (p : Char → Bool) (cs : List Char) :
    cs.drop (cs.takeWhile p).length = cs.dropWhile p := by
  have split : cs.takeWhile p ++ cs.dropWhile p = cs := List.takeWhile_append_dropWhile
  calc cs.drop (cs.takeWhile p).length
      = (cs.takeWhile p ++ cs.dropWhile p).drop (cs.takeWhile p).length := by rw [split]
    _ = cs.dropWhile p := List.drop_left

end Worksheet.Text
