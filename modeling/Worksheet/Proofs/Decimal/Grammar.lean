/-
  The grammar of decimal numbers, stated apart from the reader: a sign that may be missing, digits
  with at most one point beside or among them, and an exponent that may be missing. The reader takes
  a text apart from the left, and takes exactly the texts of the grammar (`exists_literal_iff`).
-/
import Worksheet.Proofs.Formula.Numeral

namespace Worksheet.Decimal

/-! ## The grammar -/

/-- Digits with at most one point, and at least one digit before or behind it. -/
inductive IsMantissa : List Char → Prop where
  | whole {ds : List Char} (digits : ∀ d ∈ ds, d.isDigit = true) (nonempty : ds ≠ []) :
      IsMantissa ds
  | point {ds fs : List Char} (digits : ∀ d ∈ ds, d.isDigit = true)
      (digits' : ∀ d ∈ fs, d.isDigit = true) (nonempty : ds ≠ [] ∨ fs ≠ []) :
      IsMantissa (ds ++ '.' :: fs)

/-- A decimal number: a sign, a mantissa and an exponent. Only the mantissa must be there. -/
inductive IsDecimal : List Char → Prop where
  | parts {sign mantissa exponent : List Char} (signs : sign = [] ∨ sign = ['+'] ∨ sign = ['-'])
      (isMantissa : IsMantissa mantissa) (isExponent : IsExponent exponent) :
      IsDecimal (sign ++ mantissa ++ exponent)

/-! ## Signs and exponents -/

variable {sign ds rest : List Char}

/-- What is split off is the sign. -/
theorem splitSign_append (signs : IsSignOf sign rest) : (splitSign (sign ++ rest)).2 = rest := by
  rcases signs with ⟨rfl, unsigned⟩ | rfl | rfl
  · rw [List.nil_append, splitSign]
    · rintro cs rfl
      exact (unsigned '-' rfl).2 rfl
    · rintro cs rfl
      exact (unsigned '+' rfl).1 rfl
  · rfl
  · rfl

theorem exists_signedExponent_iff (signs : IsSignOf sign ds) :
    (∃ e, signedExponent? (sign ++ ds) = some e) ↔ ds ≠ [] ∧ ∀ d ∈ ds, d.isDigit = true := by
  have split := splitSign_append signs
  unfold signedExponent?
  generalize splitSign (sign ++ ds) = parts at split
  obtain ⟨negative, rfl⟩ : ∃ negative, parts = (negative, ds) := ⟨parts.1, Prod.ext rfl split⟩
  have test : (ds.isEmpty || !ds.all Char.isDigit) = true ↔
      ¬ (ds ≠ [] ∧ ∀ d ∈ ds, d.isDigit = true) := by
    simp [Decidable.imp_iff_not_or]
  dsimp only
  split
  · next bad => exact ⟨nofun, fun good => absurd good (test.1 bad)⟩
  · next good => exact ⟨fun _ => Decidable.not_not.1 (mt test.2 good), fun _ => ⟨_, rfl⟩⟩

/-- The exponents that are read are those of the grammar. -/
theorem exists_exponentPart_iff {cs : List Char} :
    (∃ e, exponentPart? cs = some e) ↔ IsExponent cs := by
  cases cs with
  | nil => exact ⟨fun _ => .none, fun _ => ⟨0, rfl⟩⟩
  | cons c cs =>
    rw [exponentPart?]
    constructor
    · rintro ⟨e, read⟩
      split at read
      · next letter =>
        obtain ⟨sign, ds, rfl, signs⟩ := exists_sign cs
        obtain ⟨nonempty, digits⟩ := (exists_signedExponent_iff signs).1 ⟨e, read⟩
        exact .letter (by simpa using letter) signs nonempty digits
      · cases read
    · intro h
      cases h with
      | letter letter signs nonempty digits =>
        rw [if_pos (by simpa using letter)]
        exact (exists_signedExponent_iff signs).2 ⟨nonempty, digits⟩

/-! ## Literals -/

/-- A literal is read if there is a digit and the text ends with an exponent. -/
theorem exists_literal_iff_parts (signs : IsSignOf sign rest) :
    (∃ l, Literal.parse? (sign ++ rest) = some l) ↔
      (leadingDigits rest ≠ [] ∨ (splitFraction (afterDigits rest)).1 ≠ []) ∧
        IsExponent (splitFraction (afterDigits rest)).2 := by
  have split := splitSign_append signs
  rw [← exists_exponentPart_iff]
  unfold Literal.parse?
  generalize splitSign (sign ++ rest) = parts at split
  obtain ⟨negative, rfl⟩ : ∃ negative, parts = (negative, rest) := ⟨parts.1, Prod.ext rfl split⟩
  dsimp only
  split
  · next noDigit =>
    rw [Bool.and_eq_true, List.isEmpty_iff, List.isEmpty_iff] at noDigit
    exact ⟨nofun, fun ⟨digit, _⟩ => (digit.elim (· noDigit.1) (· noDigit.2)).elim⟩
  · next digit =>
    rw [Bool.and_eq_true, List.isEmpty_iff, List.isEmpty_iff, Decidable.not_and_iff_not_or_not]
      at digit
    constructor
    · rintro ⟨l, read⟩
      obtain ⟨e, exponent, -⟩ := Option.map_eq_some_iff.1 read
      exact ⟨digit, e, exponent⟩
    · rintro ⟨-, e, exponent⟩
      rw [exponent]
      exact ⟨_, rfl⟩

theorem splitFraction_of_no_point {cs : List Char} (noPoint : ∀ c ∈ cs.head?, c ≠ '.') :
    splitFraction cs = ([], cs) := by
  unfold splitFraction
  split
  · exact absurd rfl (noPoint '.' rfl)
  · rfl

/-- A mantissa begins with no sign. -/
theorem IsMantissa.head {mantissa : List Char} (h : IsMantissa mantissa) (rest : List Char) :
    ∀ c ∈ (mantissa ++ rest).head?, c ≠ '+' ∧ c ≠ '-' := by
  have digit {c : Char} (h : c.isDigit = true) : c ≠ '+' ∧ c ≠ '-' :=
    ⟨fun plus => absurd (plus ▸ h) (by decide), fun minus => absurd (minus ▸ h) (by decide)⟩
  intro c hc
  cases h with
  | @whole ds digits nonempty =>
    obtain ⟨d, ds, rfl⟩ := List.exists_cons_of_ne_nil nonempty
    obtain rfl := Option.some.inj hc
    exact digit (digits d List.mem_cons_self)
  | @point ds fs digits =>
    cases ds with
    | nil =>
      obtain rfl := Option.some.inj hc
      decide
    | cons d ds =>
      obtain rfl := Option.some.inj hc
      exact digit (digits d List.mem_cons_self)

/-- The texts that are read as literals are the decimal numbers. -/
theorem exists_literal_iff {cs : List Char} :
    (∃ l, Literal.parse? cs = some l) ↔ IsDecimal cs := by
  constructor
  · intro read
    obtain ⟨sign, rest, rfl, signs⟩ := exists_sign cs
    obtain ⟨nonempty, exponent⟩ := (exists_literal_iff_parts signs).1 read
    have whole := leadingDigits_append_afterDigits rest
    have digits {cs : List Char} : ∀ d ∈ leadingDigits cs, d.isDigit = true :=
      fun d => isDigit_of_mem_leadingDigits
    by_cases point : ∃ more, afterDigits rest = '.' :: more
    · obtain ⟨more, point⟩ := point
      have decimals := leadingDigits_append_afterDigits more
      rw [point] at nonempty exponent
      have parts := IsDecimal.parts (signs.imp_left And.left)
        (.point digits digits nonempty) exponent
      have text : sign ++ (leadingDigits rest ++ '.' :: leadingDigits more) ++ afterDigits more =
          sign ++ rest := by
        rw [List.append_assoc, List.append_assoc, List.cons_append, decimals, ← point, whole]
      exact text ▸ parts
    · have noPoint : ∀ c ∈ (afterDigits rest).head?, c ≠ '.' := by
        rintro c hc rfl
        exact point (List.head?_eq_some_iff.1 hc)
      rw [splitFraction_of_no_point noPoint] at nonempty exponent
      have parts := IsDecimal.parts (signs.imp_left And.left)
        (.whole digits (nonempty.resolve_right fun none => none rfl)) exponent
      rwa [List.append_assoc, whole] at parts
  · rintro @⟨sign, mantissa, exponent, signs, isMantissa, isExponent⟩
    have isSign : IsSignOf sign (mantissa ++ exponent) :=
      signs.imp_left fun unsigned => ⟨unsigned, isMantissa.head exponent⟩
    have stops : ∀ c ∈ (exponent ++ []).head?, c.isDigit = false ∧ c ≠ '.' :=
      isExponent.head nofun
    rw [List.append_nil] at stops
    have noDigit : ∀ c ∈ exponent.head?, c.isDigit = false := fun c hc => (stops c hc).1
    rw [List.append_assoc, exists_literal_iff_parts isSign]
    cases isMantissa with
    | @whole _ digits nonempty =>
      have leading : leadingDigits (mantissa ++ exponent) = mantissa :=
        Text.takeWhile_append_of_stops digits noDigit
      have after : afterDigits (mantissa ++ exponent) = exponent :=
        Text.dropWhile_append_of_stops digits noDigit
      rw [leading, after, splitFraction_of_no_point fun c hc => (stops c hc).2]
      exact ⟨.inl nonempty, isExponent⟩
    | @point ds fs digits digits' nonempty =>
      have leading : leadingDigits (ds ++ '.' :: fs ++ exponent) = ds := by
        rw [List.append_assoc]
        exact Text.takeWhile_append_of_stops digits (by simp)
      have after : afterDigits (ds ++ '.' :: fs ++ exponent) = '.' :: (fs ++ exponent) := by
        rw [List.append_assoc]
        exact Text.dropWhile_append_of_stops digits (by simp)
      have decimals : leadingDigits (fs ++ exponent) = fs :=
        Text.takeWhile_append_of_stops digits' noDigit
      have rest : afterDigits (fs ++ exponent) = exponent :=
        Text.dropWhile_append_of_stops digits' noDigit
      rw [leading, after, splitFraction, decimals, rest]
      exact ⟨nonempty, isExponent⟩

/-! ## Numbers in a text -/

theorem IsMantissa.isDecimal {mantissa exponent : List Char} (h : IsMantissa mantissa)
    (isExponent : IsExponent exponent) : IsDecimal (mantissa ++ exponent) :=
  @IsDecimal.parts [] mantissa exponent (.inl rfl) h isExponent

/-- The number that is cut from a text is a decimal number. -/
theorem isDecimal_numberChars {c : Char} {cs : List Char} (begins : beginsNumber c cs = true) :
    IsDecimal (numberChars (c :: cs)) := by
  have digits {cs : List Char} : ∀ d ∈ leadingDigits cs, d.isDigit = true :=
    fun d => isDigit_of_mem_leadingDigits
  have leading {d : Char} {ds : List Char} (digit : d.isDigit = true) :
      leadingDigits (d :: ds) ≠ [] := by
    simp [leadingDigits, digit]
  simp only [beginsNumber, Bool.or_eq_true, Bool.and_eq_true, beq_iff_eq] at begins
  by_cases point : ∃ more, afterDigits (c :: cs) = '.' :: more
  · obtain ⟨more, point⟩ := point
    rw [numberChars_of_point point]
    refine IsMantissa.isDecimal (.point digits digits ?_) (exponentChars_spec _).1
    rcases begins with digit | ⟨rfl, digit⟩
    · exact .inl (leading digit)
    · obtain rfl : cs = more := (List.cons.inj point).2
      obtain ⟨d, first, digit⟩ := (Option.any_eq_true _ _).1 digit
      obtain ⟨ds, rfl⟩ := List.head?_eq_some_iff.1 first
      exact .inr (leading digit)
  · have noPoint : ∀ d ∈ (afterDigits (c :: cs)).head?, d ≠ '.' := by
      rintro d hd rfl
      exact point (List.head?_eq_some_iff.1 hd)
    rw [numberChars_of_no_point noPoint]
    refine IsMantissa.isDecimal (.whole digits ?_) (exponentChars_spec _).1
    rcases begins with digit | ⟨rfl, -⟩
    · exact leading digit
    · exact absurd ⟨cs, rfl⟩ point

end Worksheet.Decimal
