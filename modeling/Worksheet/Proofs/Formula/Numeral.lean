/-
  The characters of numbers. What is cut from the front of a text as a number has the shape of one
  and is a prefix of the text (`numberChars_spec`), and characters of that shape are cut off again
  whatever follows them, if that does not begin like the rest of a number
  (`IsNumeral.numberChars_append`). An exponent takes some care: its letter and sign belong to the
  number only when a digit follows.
-/
import Mathlib.Data.List.TakeWhile
import Worksheet.Formula.Lexeme
import Worksheet.Proofs.Decimal.Unsigned

namespace Worksheet

/-! ## The shape of numbers -/

/-- A point with digits after it, or nothing. -/
inductive IsFraction : List Char → Prop where
  | none : IsFraction []
  | point {ds : List Char} (digits : ∀ d ∈ ds, d.isDigit = true) : IsFraction ('.' :: ds)

/-- The sign of an exponent before the rest of its text, or no sign. -/
def IsSignOf (sign rest : List Char) : Prop :=
  (sign = [] ∧ ∀ c ∈ rest.head?, c ≠ '+' ∧ c ≠ '-') ∨ sign = ['+'] ∨ sign = ['-']

/-- The letter of an exponent with its sign and at least one digit, or nothing. -/
inductive IsExponent : List Char → Prop where
  | none : IsExponent []
  | letter {e : Char} {sign ds : List Char} (letter : e = 'e' ∨ e = 'E')
      (signs : IsSignOf sign ds) (nonempty : ds ≠ [])
      (digits : ∀ d ∈ ds, d.isDigit = true) : IsExponent (e :: (sign ++ ds))

/-- The characters of a number: digits, a fraction and an exponent, each of which may be missing. -/
inductive IsNumeral : List Char → Prop where
  | parts {ds fraction exponent : List Char} (whole : ∀ d ∈ ds, d.isDigit = true)
      (isFraction : IsFraction fraction) (isExponent : IsExponent exponent) :
      IsNumeral (ds ++ fraction ++ exponent)

/-! ## Cutting a number off -/

theorem isDigit_of_mem_leadingDigits {cs : List Char} {d : Char}
    (h : d ∈ Decimal.leadingDigits cs) : d.isDigit = true :=
  List.mem_takeWhile_imp h

theorem leadingDigits_append_afterDigits (cs : List Char) :
    Decimal.leadingDigits cs ++ Decimal.afterDigits cs = cs :=
  List.takeWhile_append_dropWhile

/-- The sign is that of the digits after it, whatever follows them. -/
theorem isSignOf_append {sign ds : List Char} (nonempty : ds ≠ []) (rest : List Char) :
    IsSignOf sign (ds ++ rest) ↔ IsSignOf sign ds := by
  obtain ⟨d, ds, rfl⟩ := List.exists_cons_of_ne_nil nonempty
  rfl

theorem exists_sign (cs : List Char) : ∃ sign rest, cs = sign ++ rest ∧ IsSignOf sign rest := by
  by_cases signed : ∃ c rest, cs = c :: rest ∧ (c = '+' ∨ c = '-')
  · obtain ⟨c, rest, rfl, rfl | rfl⟩ := signed
    · exact ⟨['+'], rest, rfl, .inr (.inl rfl)⟩
    · exact ⟨['-'], rest, rfl, .inr (.inr rfl)⟩
  · refine ⟨[], cs, rfl, .inl ⟨rfl, fun c hc => ?_⟩⟩
    obtain ⟨rest, rfl⟩ := List.head?_eq_some_iff.1 hc
    exact not_or.1 fun sign => signed ⟨c, rest, rfl, sign⟩

/-- An exponent is cut only if digits follow its letter and sign. -/
theorem exponentChars_letter {e : Char} {sign rest : List Char} (letter : e = 'e' ∨ e = 'E')
    (signs : IsSignOf sign rest) :
    numberChars.exponentChars (e :: (sign ++ rest)) =
      if Decimal.leadingDigits rest = [] then []
      else e :: (sign ++ Decimal.leadingDigits rest) := by
  rcases signs with ⟨rfl, unsigned⟩ | rfl | rfl
  · have noPlus (tail : List Char) (sign : rest = '+' :: tail) : False :=
      (unsigned '+' (sign ▸ rfl)).1 rfl
    have noMinus (tail : List Char) (sign : rest = '-' :: tail) : False :=
      (unsigned '-' (sign ▸ rfl)).2 rfl
    rw [List.nil_append, numberChars.exponentChars, if_pos letter]
    · cases digits : Decimal.leadingDigits rest <;> simp [digits]
    · exact noPlus
    · exact noMinus
  · rw [List.singleton_append, numberChars.exponentChars, if_pos letter]
    cases digits : Decimal.leadingDigits rest <;> simp [digits]
  · rw [List.singleton_append, numberChars.exponentChars, if_pos letter]
    cases digits : Decimal.leadingDigits rest <;> simp [digits]

/-- The exponent of a text is one, and the text begins with it. -/
theorem exponentChars_spec (cs : List Char) :
    IsExponent (numberChars.exponentChars cs) ∧ numberChars.exponentChars cs <+: cs := by
  cases cs with
  | nil => exact ⟨.none, List.nil_prefix⟩
  | cons e more =>
    by_cases letter : e = 'e' ∨ e = 'E'
    · obtain ⟨sign, rest, rfl, signs⟩ := exists_sign more
      rw [exponentChars_letter letter signs]
      split
      · exact ⟨.none, List.nil_prefix⟩
      · next nonempty =>
        have whole := leadingDigits_append_afterDigits rest
        have ofDigits : IsSignOf sign (Decimal.leadingDigits rest) := by
          rw [← whole] at signs
          exact (isSignOf_append nonempty _).1 signs
        refine ⟨.letter letter ofDigits nonempty fun d => isDigit_of_mem_leadingDigits,
          Decimal.afterDigits rest, ?_⟩
        simp [whole]
    · have none : numberChars.exponentChars (e :: more) = [] := if_neg letter
      rw [none]
      exact ⟨.none, List.nil_prefix⟩

theorem numberChars_of_point {cs more : List Char} (point : Decimal.afterDigits cs = '.' :: more) :
    numberChars cs = Decimal.leadingDigits cs ++ '.' :: Decimal.leadingDigits more ++
      numberChars.exponentChars (Decimal.afterDigits more) := by
  have after : more.drop (Decimal.leadingDigits more).length = Decimal.afterDigits more :=
    Text.drop_length_takeWhile _ _
  unfold numberChars
  rw [point]
  show _ ++ numberChars.exponentChars (more.drop (Decimal.leadingDigits more).length) = _
  rw [after]
  rfl

theorem numberChars_of_no_point {cs : List Char}
    (noPoint : ∀ c ∈ (Decimal.afterDigits cs).head?, c ≠ '.') :
    numberChars cs =
      Decimal.leadingDigits cs ++ numberChars.exponentChars (Decimal.afterDigits cs) := by
  unfold numberChars
  dsimp only
  split
  · next more point =>
    exact absurd rfl (noPoint '.' (by rw [point]; rfl))
  · rw [List.append_nil, List.length_nil, List.drop_zero]

/-- The number at the start of a text is a numeral, and the text begins with it. -/
theorem numberChars_spec (cs : List Char) :
    IsNumeral (numberChars cs) ∧ numberChars cs <+: cs := by
  have whole := leadingDigits_append_afterDigits cs
  by_cases point : ∃ more, Decimal.afterDigits cs = '.' :: more
  · obtain ⟨more, point⟩ := point
    obtain ⟨exponent, rest, cut⟩ := exponentChars_spec (Decimal.afterDigits more)
    have decimals := leadingDigits_append_afterDigits more
    rw [numberChars_of_point point]
    refine ⟨.parts (fun d => isDigit_of_mem_leadingDigits)
      (.point fun d => isDigit_of_mem_leadingDigits) exponent, rest, ?_⟩
    rw [List.append_assoc, cut, List.append_assoc, List.cons_append, decimals, ← point, whole]
  · obtain ⟨exponent, rest, cut⟩ := exponentChars_spec (Decimal.afterDigits cs)
    have noPoint : ∀ c ∈ (Decimal.afterDigits cs).head?, c ≠ '.' := by
      rintro c hc rfl
      exact point (List.head?_eq_some_iff.1 hc)
    rw [numberChars_of_no_point noPoint]
    refine ⟨?_, rest, by rw [List.append_assoc, cut, whole]⟩
    simpa using IsNumeral.parts (fun d => isDigit_of_mem_leadingDigits) .none exponent

/-! ## Numbers before other text -/

/-- The text begins with nothing that a number could go on with. -/
def EndsNumeral (rest : List Char) : Prop :=
  ∀ c ∈ rest.head?, c.isDigit = false ∧ c ≠ '.' ∧ c ≠ 'e' ∧ c ≠ 'E'

/-- An exponent does not go on with the digits before it. -/
theorem IsExponent.head {exponent rest : List Char} (h : IsExponent exponent)
    (ends : EndsNumeral rest) : ∀ c ∈ (exponent ++ rest).head?, c.isDigit = false ∧ c ≠ '.' := by
  intro c hc
  cases h with
  | none => exact ⟨(ends c hc).1, (ends c hc).2.1⟩
  | letter letter =>
    obtain rfl := Option.some.inj hc
    rcases letter with rfl | rfl <;> decide

theorem IsExponent.exponentChars_append {exponent rest : List Char} (h : IsExponent exponent)
    (ends : EndsNumeral rest) :
    numberChars.exponentChars (exponent ++ rest) = exponent := by
  cases h with
  | none =>
    cases rest with
    | nil => rfl
    | cons c rest =>
      obtain ⟨-, -, lower, upper⟩ := ends c rfl
      exact if_neg fun letter => letter.elim lower upper
  | @letter e sign ds letter signs nonempty digits =>
    have leading : Decimal.leadingDigits (ds ++ rest) = ds :=
      Text.takeWhile_append_of_stops digits fun c hc => (ends c hc).1
    have signs' : IsSignOf sign (ds ++ rest) := (isSignOf_append nonempty rest).2 signs
    rw [List.cons_append, List.append_assoc, exponentChars_letter letter signs', leading,
      if_neg nonempty]

/-- A number is cut off where the text does not go on with it. -/
theorem IsNumeral.numberChars_append {cs rest : List Char} (h : IsNumeral cs)
    (ends : EndsNumeral rest) : numberChars (cs ++ rest) = cs := by
  cases h with
  | @parts ds fraction exponent whole isFraction isExponent =>
    have last := isExponent.exponentChars_append ends
    have ends := isExponent.head ends
    cases isFraction with
    | none =>
      have text : ds ++ [] ++ exponent ++ rest = ds ++ (exponent ++ rest) := by simp
      have leading : Decimal.leadingDigits (ds ++ (exponent ++ rest)) = ds :=
        Text.takeWhile_append_of_stops whole fun c hc => (ends c hc).1
      have after : Decimal.afterDigits (ds ++ (exponent ++ rest)) = exponent ++ rest :=
        Text.dropWhile_append_of_stops whole fun c hc => (ends c hc).1
      rw [text, numberChars_of_no_point (by rw [after]; exact fun c hc => (ends c hc).2), leading,
        after, last, List.append_nil]
    | @point decimals digits =>
      have text : ds ++ '.' :: decimals ++ exponent ++ rest =
          ds ++ '.' :: (decimals ++ (exponent ++ rest)) := by simp
      have leading : Decimal.leadingDigits (ds ++ '.' :: (decimals ++ (exponent ++ rest))) = ds :=
        Text.takeWhile_append_of_stops whole (by simp)
      have after : Decimal.afterDigits (ds ++ '.' :: (decimals ++ (exponent ++ rest))) =
          '.' :: (decimals ++ (exponent ++ rest)) :=
        Text.dropWhile_append_of_stops whole (by simp)
      have leading' : Decimal.leadingDigits (decimals ++ (exponent ++ rest)) = decimals :=
        Text.takeWhile_append_of_stops digits fun c hc => (ends c hc).1
      have after' : Decimal.afterDigits (decimals ++ (exponent ++ rest)) = exponent ++ rest :=
        Text.dropWhile_append_of_stops digits fun c hc => (ends c hc).1
      rw [text, numberChars_of_point after, leading, leading', after', last]

theorem Decimal.IsPlain.isNumeral {cs : List Char} (h : IsPlain cs) : IsNumeral cs := by
  obtain ⟨whole, fraction, -, wholeDigits, fractionDigits, rfl | ⟨-, rfl⟩⟩ := h
  · simpa using IsNumeral.parts wholeDigits .none .none
  · simpa using IsNumeral.parts wholeDigits (.point fractionDigits) .none

end Worksheet
