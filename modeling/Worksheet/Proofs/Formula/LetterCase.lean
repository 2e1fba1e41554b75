/-
  Formulas in upper and lower case. Outside text literals the case of letters decides nothing about
  how a text is cut: numbers, truth values, references and names end at the same places
  (`Cuts.recased`). So a text and the same text with letters in other cases have tokens of the same
  kinds at the same places, which differ at most in the spelling of numbers and names
  (`tokenize_recased`).
-/
import Mathlib.Data.List.Forall2
import Worksheet.Proofs.Formula.Cutting
import Worksheet.Proofs.Text.LetterCase

namespace Worksheet

open Text (asciiUpper)

/-! ## Numbers -/

namespace Decimal

theorem leadingDigits_asciiUpper (cs : List Char) :
    leadingDigits (asciiUpper cs) = leadingDigits cs := by
  have digits : ∀ c ∈ cs.takeWhile Char.isDigit, c.isAlpha = false := fun c hc =>
    Text.isAlpha_eq_false_of_isDigit (List.mem_takeWhile_imp hc)
  rw [leadingDigits, Text.takeWhile_asciiUpper Text.isDigit_toUpper,
    Text.asciiUpper_of_no_letter digits]
  rfl

theorem afterDigits_asciiUpper (cs : List Char) :
    afterDigits (asciiUpper cs) = asciiUpper (afterDigits cs) :=
  Text.dropWhile_asciiUpper Text.isDigit_toUpper cs

end Decimal

theorem isSignOf_asciiUpper {sign rest : List Char} (h : IsSignOf sign rest) :
    IsSignOf sign (asciiUpper rest) := by
  rcases h with ⟨rfl, unsigned⟩ | rfl | rfl
  · refine .inl ⟨rfl, fun c hc => ?_⟩
    obtain ⟨d, hd, rfl⟩ := Text.exists_of_mem_head?_asciiUpper hc
    rw [Ne, Text.toUpper_eq_iff (by decide), Ne, Text.toUpper_eq_iff (by decide)]
    exact unsigned d hd
  · exact .inr (.inl rfl)
  · exact .inr (.inr rfl)

theorem asciiUpper_of_sign {sign rest : List Char} (h : IsSignOf sign rest) :
    asciiUpper sign = sign := by
  rcases h with ⟨rfl, -⟩ | rfl | rfl <;> rfl

theorem toUpper_eq_exponent (c : Char) :
    (c.toUpper = 'e' ∨ c.toUpper = 'E') ↔ c = 'e' ∨ c = 'E' := by
  have same := Text.toUpper_invariant (f := fun c => decide (c = 'e' ∨ c = 'E')) (by decide) c
  exact decide_eq_decide.1 same

theorem exponentChars_asciiUpper (cs : List Char) :
    numberChars.exponentChars (asciiUpper cs) = asciiUpper (numberChars.exponentChars cs) := by
  cases cs with
  | nil => rfl
  | cons e more =>
    by_cases letter : e = 'e' ∨ e = 'E'
    · obtain ⟨sign, rest, rfl, signs⟩ := exists_sign more
      have letter' := (toUpper_eq_exponent e).2 letter
      rw [Text.asciiUpper_cons, Text.asciiUpper_append, asciiUpper_of_sign signs,
        exponentChars_letter letter' (isSignOf_asciiUpper signs), exponentChars_letter letter signs,
        Decimal.leadingDigits_asciiUpper]
      split
      · rfl
      · rw [Text.asciiUpper_cons, Text.asciiUpper_append, asciiUpper_of_sign signs,
          Text.asciiUpper_of_no_letter fun c hc =>
            Text.isAlpha_eq_false_of_isDigit (isDigit_of_mem_leadingDigits hc)]
    · have none : numberChars.exponentChars (e :: more) = [] := if_neg letter
      have none' : numberChars.exponentChars (asciiUpper (e :: more)) = [] :=
        if_neg fun letter' => letter ((toUpper_eq_exponent e).1 letter')
      rw [none, none']
      rfl

theorem asciiUpper_leadingDigits (cs : List Char) :
    asciiUpper (Decimal.leadingDigits cs) = Decimal.leadingDigits cs :=
  Text.asciiUpper_of_no_letter fun _ hc =>
    Text.isAlpha_eq_false_of_isDigit (isDigit_of_mem_leadingDigits hc)

/-- The number at the start of a text is as long in capitals. -/
theorem numberChars_asciiUpper (cs : List Char) :
    numberChars (asciiUpper cs) = asciiUpper (numberChars cs) := by
  by_cases point : ∃ more, Decimal.afterDigits cs = '.' :: more
  · obtain ⟨more, point⟩ := point
    have point' : Decimal.afterDigits (asciiUpper cs) = '.' :: asciiUpper more := by
      rw [Decimal.afterDigits_asciiUpper, point]
      rfl
    rw [numberChars_of_point point', numberChars_of_point point, Decimal.afterDigits_asciiUpper,
      exponentChars_asciiUpper, Decimal.leadingDigits_asciiUpper, Decimal.leadingDigits_asciiUpper,
      Text.asciiUpper_append, Text.asciiUpper_append, Text.asciiUpper_cons,
      asciiUpper_leadingDigits, asciiUpper_leadingDigits]
    rfl
  · have noPoint : ∀ c ∈ (Decimal.afterDigits cs).head?, c ≠ '.' := by
      rintro c hc rfl
      exact point (List.head?_eq_some_iff.1 hc)
    have noPoint' : ∀ c ∈ (Decimal.afterDigits (asciiUpper cs)).head?, c ≠ '.' := by
      rw [Decimal.afterDigits_asciiUpper]
      intro c hc
      obtain ⟨d, hd, rfl⟩ := Text.exists_of_mem_head?_asciiUpper hc
      rw [Ne, Text.toUpper_eq_iff (by decide)]
      exact noPoint d hd
    rw [numberChars_of_no_point noPoint', numberChars_of_no_point noPoint,
      Decimal.afterDigits_asciiUpper, exponentChars_asciiUpper, Decimal.leadingDigits_asciiUpper,
      Text.asciiUpper_append, asciiUpper_leadingDigits]

/-! ### Reading a number -/

namespace Decimal

theorem splitSign_asciiUpper (cs : List Char) :
    splitSign (asciiUpper cs) = ((splitSign cs).1, asciiUpper (splitSign cs).2) := by
  fun_cases splitSign cs with
  | case1 => rfl
  | case2 => rfl
  | case3 cs noMinus noPlus =>
    unfold splitSign
    split
    · next capitals =>
      obtain ⟨more, rfl⟩ := Text.exists_of_asciiUpper_eq_cons (by decide) capitals
      exact absurd rfl (noMinus more)
    · next capitals =>
      obtain ⟨more, rfl⟩ := Text.exists_of_asciiUpper_eq_cons (by decide) capitals
      exact absurd rfl (noPlus more)
    · rfl

theorem splitFraction_asciiUpper (cs : List Char) :
    splitFraction (asciiUpper cs) = ((splitFraction cs).1, asciiUpper (splitFraction cs).2) := by
  fun_cases splitFraction cs with
  | case1 cs =>
    show (leadingDigits (asciiUpper cs), afterDigits (asciiUpper cs)) = _
    rw [leadingDigits_asciiUpper, afterDigits_asciiUpper]
  | case2 cs noPoint =>
    unfold splitFraction
    split
    · next capitals =>
      obtain ⟨more, rfl⟩ := Text.exists_of_asciiUpper_eq_cons (by decide) capitals
      exact absurd rfl (noPoint more)
    · rfl

theorem signedExponent?_asciiUpper (cs : List Char) :
    signedExponent? (asciiUpper cs) = signedExponent? cs := by
  unfold signedExponent?
  rw [splitSign_asciiUpper]
  dsimp only
  rw [Text.all_asciiUpper Text.isDigit_toUpper, Text.isEmpty_asciiUpper]
  by_cases bad : ((splitSign cs).2.isEmpty || !(splitSign cs).2.all Char.isDigit) = true
  · rw [if_pos bad, if_pos bad]
  · have digits : ∀ c ∈ (splitSign cs).2, c.isAlpha = false := by
      simp only [Bool.or_eq_true, Bool.not_eq_true', not_or, Bool.not_eq_false,
        List.all_eq_true] at bad
      exact fun c hc => Text.isAlpha_eq_false_of_isDigit (bad.2 c hc)
    rw [Text.asciiUpper_of_no_letter digits]

theorem exponentPart?_asciiUpper (cs : List Char) :
    exponentPart? (asciiUpper cs) = exponentPart? cs := by
  cases cs with
  | nil => rfl
  | cons c cs =>
    have letter : (c.toUpper == 'e' || c.toUpper == 'E') = (c == 'e' || c == 'E') :=
      Text.toUpper_invariant (f := fun c => c == 'e' || c == 'E') (by decide) c
    rw [Text.asciiUpper_cons, exponentPart?, letter, signedExponent?_asciiUpper]
    rfl

/-- A number reads the same in capitals. -/
theorem read?_asciiUpper (cs : List Char) : read? (asciiUpper cs) = read? cs := by
  have same : Literal.parse? (asciiUpper cs) = Literal.parse? cs := by
    unfold Literal.parse?
    rw [splitSign_asciiUpper]
    dsimp only
    rw [leadingDigits_asciiUpper, afterDigits_asciiUpper, splitFraction_asciiUpper]
    dsimp only
    rw [exponentPart?_asciiUpper]
  rw [read?, same, read?]

end Decimal

/-! ## Words -/

theorem splitAnchor_asciiUpper (cs : List Char) : Address.splitAnchor (asciiUpper cs) =
    ((Address.splitAnchor cs).1, asciiUpper (Address.splitAnchor cs).2) := by
  fun_cases Address.splitAnchor cs with
  | case1 => rfl
  | case2 cs noAnchor =>
    unfold Address.splitAnchor
    split
    · next capitals =>
      obtain ⟨more, rfl⟩ := Text.exists_of_asciiUpper_eq_cons (by decide) capitals
      exact absurd rfl (noAnchor more)
    · rfl

theorem isReference_asciiUpper (cs : List Char) : isReference (asciiUpper cs) = isReference cs := by
  unfold isReference
  rw [splitAnchor_asciiUpper]
  dsimp only
  rw [Text.dropWhile_asciiUpper Char.isAlpha_toUpper_eq_isAlpha, splitAnchor_asciiUpper]
  dsimp only
  rw [Text.any_head?_asciiUpper Char.isAlpha_toUpper_eq_isAlpha, Text.isEmpty_asciiUpper,
    Text.all_asciiUpper Text.isDigit_toUpper]

theorem wordKind_asciiUpper (word : List Char) (called : Bool) :
    wordKind (asciiUpper word) called = wordKind word called := by
  unfold wordKind
  rw [Text.asciiUpper_asciiUpper, isReference_asciiUpper]

theorem isWordChar_toUpper (c : Char) : isWordChar c.toUpper = isWordChar c :=
  Text.toUpper_invariant (by decide) c

theorem beginsWord_toUpper (c : Char) : beginsWord c.toUpper = beginsWord c :=
  Text.toUpper_invariant (by decide) c

theorem singleKind?_toUpper (c : Char) : singleKind? c.toUpper = singleKind? c :=
  Text.toUpper_invariant (by decide) c

theorem beginsNumber_asciiUpper (c : Char) (cs : List Char) :
    beginsNumber c.toUpper (asciiUpper cs) = beginsNumber c cs := by
  have point : (c.toUpper == '.') = (c == '.') :=
    Text.toUpper_invariant (f := fun c => c == '.') (by decide) c
  unfold beginsNumber
  rw [Text.isDigit_toUpper, point, Text.any_head?_asciiUpper Text.isDigit_toUpper]

/-! ## Tokens -/

/-- The rest of a longer operator is the same in capitals. -/
theorem take_one_filter_asciiUpper {p : Char → Bool} (hp : ∀ c, p c.toUpper = p c)
    (cs : List Char) :
    ((asciiUpper cs).take 1).filter p = asciiUpper ((cs.take 1).filter p) := by
  rw [← Text.filter_asciiUpper hp, asciiUpper, asciiUpper, List.map_take]

/-- Outside text literals a token stays one when the case of letters changes, in it or after it. -/
theorem TokenAt.recased {c c' : Char} {cs cs' tail : List Char} {kind : TokenKind}
    (h : TokenAt c cs kind tail) (first : c'.toUpper = c.toUpper)
    (rest : asciiUpper cs' = asciiUpper cs) (noText : kind ≠ .text) :
    ∃ tail', TokenAt c' cs' kind tail' ∧ asciiUpper tail' = asciiUpper tail := by
  have all : asciiUpper (c' :: cs') = asciiUpper (c :: cs) := by
    rw [Text.asciiUpper_cons, Text.asciiUpper_cons, first, rest]
  cases h with
  | single single =>
    rw [← Text.congr_of_toUpper_eq singleKind?_toUpper first] at single
    exact ⟨[], .single single, rfl⟩
  | less mark =>
    subst mark
    obtain rfl := Text.eq_of_toUpper_eq first (by decide)
    refine ⟨_, .less rfl, ?_⟩
    have marks : ∀ c : Char, (c.toUpper = '=' || c.toUpper = '>') = (c = '=' || c = '>') :=
      fun c => Text.toUpper_invariant (f := fun c => (c = '=' || c = '>')) (by decide) c
    rw [← take_one_filter_asciiUpper marks, rest, take_one_filter_asciiUpper marks]
  | greater mark =>
    subst mark
    obtain rfl := Text.eq_of_toUpper_eq first (by decide)
    refine ⟨_, .greater rfl, ?_⟩
    have marks : ∀ c : Char, decide (c.toUpper = '=') = decide (c = '=') :=
      fun c => Text.toUpper_invariant (f := fun c => decide (c = '=')) (by decide) c
    rw [← take_one_filter_asciiUpper marks, rest, take_one_filter_asciiUpper marks]
  | text => exact absurd rfl noText
  | number begins =>
    rw [← beginsNumber_asciiUpper, ← first, ← rest, beginsNumber_asciiUpper] at begins
    refine ⟨_, .number begins, ?_⟩
    have number : asciiUpper (numberChars (c' :: cs')) = asciiUpper (numberChars (c :: cs)) := by
      rw [← numberChars_asciiUpper, all, numberChars_asciiUpper]
    rw [asciiUpper, asciiUpper, List.map_tail, List.map_tail]
    exact congrArg List.tail number
  | word begins kind_eq noAnchor =>
    rw [← Text.congr_of_toUpper_eq beginsWord_toUpper first] at begins
    have tail : asciiUpper (cs'.takeWhile isWordChar) = asciiUpper (cs.takeWhile isWordChar) := by
      rw [← Text.takeWhile_asciiUpper isWordChar_toUpper, rest,
        Text.takeWhile_asciiUpper isWordChar_toUpper]
    have word : asciiUpper (c' :: cs'.takeWhile isWordChar) =
        asciiUpper (c :: cs.takeWhile isWordChar) := by
      rw [Text.asciiUpper_cons, Text.asciiUpper_cons, first, tail]
    have after : asciiUpper (cs'.dropWhile isWordChar) = asciiUpper (cs.dropWhile isWordChar) := by
      rw [← Text.dropWhile_asciiUpper isWordChar_toUpper, rest,
        Text.dropWhile_asciiUpper isWordChar_toUpper]
    refine ⟨_, .word begins ?_ ?_, tail⟩
    · have called : ((cs'.dropWhile isWordChar).head? = some '(') =
          ((cs.dropWhile isWordChar).head? = some '(') := by
        rw [← Text.head?_asciiUpper_eq (by decide), after, Text.head?_asciiUpper_eq (by decide)]
      simp only [called]
      rw [← wordKind_asciiUpper, word, wordKind_asciiUpper]
      exact kind_eq
    · intro name
      rw [← Text.mem_asciiUpper (by decide), word, Text.mem_asciiUpper (by decide)]
      exact noAnchor name

/-- No quotation mark stands in a number. -/
theorem IsNumeral.mark_not_mem {cs : List Char} (h : IsNumeral cs) : '"' ∉ cs := by
  have noDigit {ds : List Char} (digits : ∀ d ∈ ds, d.isDigit = true) : '"' ∉ ds :=
    fun mark => absurd (digits _ mark) (by decide)
  obtain @⟨ds, fraction, exponent, whole, isFraction, isExponent⟩ := h
  have inFraction : '"' ∉ fraction := by
    cases isFraction with
    | none => exact List.not_mem_nil
    | point digits => simp [noDigit digits]
  have inExponent : '"' ∉ exponent := by
    cases isExponent with
    | none => exact List.not_mem_nil
    | @letter e sign ds letter signs _ digits =>
      have noLetter : '"' ≠ e := by rcases letter with rfl | rfl <;> decide
      rcases signs with ⟨rfl, -⟩ | rfl | rfl <;> simp [noDigit digits, noLetter]
  simp [noDigit whole, inFraction, inExponent]

/-- Quotation marks stand in text literals only. -/
theorem TokenAt.mark_not_mem {c : Char} {cs tail : List Char} {kind : TokenKind}
    (h : TokenAt c cs kind tail) (noText : kind ≠ .text) : '"' ∉ c :: tail := by
  cases h with
  | single single =>
    intro mark
    obtain rfl := List.mem_singleton.1 mark
    cases single
  | less mark =>
    subst mark
    simp
  | greater mark =>
    subst mark
    simp
  | text => exact absurd rfl noText
  | number begins =>
    rw [← numberChars_eq_cons begins]
    exact (numberChars_spec _).1.mark_not_mem
  | word begins =>
    intro mark
    rcases List.mem_cons.1 mark with rfl | mark
    · exact absurd begins (by decide)
    · exact absurd (List.mem_takeWhile_imp mark) (by decide)

/-! ## Texts in other cases -/

/-- One text is the other one with letters in other cases, text literals apart. A quotation mark
    begins a literal or ends it; `inside` says whether the texts begin in one. -/
def Recased : (inside : Bool) → List Char → List Char → Prop
  | _, [], [] => True
  | inside, c :: cs, d :: ds =>
    (if inside then d = c else d.toUpper = c.toUpper) ∧ Recased (inside != (c == '"')) cs ds
  | _, _, _ => False

instance : (inside : Bool) → (cs ds : List Char) → Decidable (Recased inside cs ds)
  | _, [], [] => .isTrue trivial
  | _, [], _ :: _ => .isFalse id
  | _, _ :: _, [] => .isFalse id
  | inside, c :: cs, d :: ds =>
    have := instDecidableRecased (inside != (c == '"')) cs ds
    inferInstanceAs (Decidable ((if inside then d = c else d.toUpper = c.toUpper) ∧
      Recased (inside != (c == '"')) cs ds))

theorem recased_cons {inside : Bool} {c : Char} {cs es : List Char} :
    Recased inside (c :: cs) es ↔ ∃ d ds, es = d :: ds ∧
      (if inside then d = c else d.toUpper = c.toUpper) ∧ Recased (inside != (c == '"')) cs ds := by
  constructor
  · intro h
    cases es with
    | nil => exact h.elim
    | cons d ds => exact ⟨d, ds, rfl, h⟩
  · rintro ⟨d, ds, rfl, h⟩
    exact h

theorem Recased.asciiUpper_eq {inside : Bool} {cs ds : List Char} (h : Recased inside cs ds) :
    asciiUpper ds = asciiUpper cs := by
  induction cs generalizing inside ds with
  | nil =>
    cases ds with
    | nil => rfl
    | cons d ds => exact h.elim
  | cons c cs ih =>
    obtain ⟨d, ds, rfl, first, rest⟩ := recased_cons.1 h
    have capital : d.toUpper = c.toUpper := by
      cases inside with
      | true => exact congrArg Char.toUpper first
      | false => exact first
    rw [Text.asciiUpper_cons, Text.asciiUpper_cons, capital, ih rest]

/-- The part of a text before the first mark, and what follows it. -/
theorem Recased.split {cs ds es : List Char} (h : Recased false (cs ++ ds) es)
    (noMark : '"' ∉ cs) :
    ∃ cs' ds', es = cs' ++ ds' ∧ asciiUpper cs' = asciiUpper cs ∧ Recased false ds ds' := by
  induction cs generalizing es with
  | nil => exact ⟨[], es, rfl, rfl, h⟩
  | cons c cs ih =>
    obtain ⟨first, later⟩ := not_or.1 (mt List.mem_cons.2 noMark)
    have outside : (false != (c == '"')) = false := by simp [Ne.symm first]
    obtain ⟨d, es, rfl, capital, rest⟩ := recased_cons.1 h
    rw [outside] at rest
    obtain ⟨cs', ds', rfl, same, after⟩ := ih rest later
    have capital : d.toUpper = c.toUpper := capital
    refine ⟨d :: cs', ds', rfl, ?_, after⟩
    rw [Text.asciiUpper_cons, Text.asciiUpper_cons, same, capital]

/-- A literal stays as it is, from its contents on. -/
theorem Recased.split_doubled {s ds es : List Char}
    (h : Recased true (Text.doubled s ++ '"' :: ds) es) :
    ∃ ds', es = Text.doubled s ++ '"' :: ds' ∧ Recased false ds ds' := by
  induction s generalizing es with
  | nil =>
    obtain ⟨d, ds', rfl, rfl, rest⟩ := recased_cons.1 h
    exact ⟨ds', rfl, rest⟩
  | cons c s ih =>
    by_cases mark : c = '"'
    · subst mark
      rw [Text.doubled_quote] at h ⊢
      obtain ⟨d, es, rfl, rfl, second⟩ := recased_cons.1 h
      obtain ⟨e, es, rfl, capital, rest⟩ := recased_cons.1 second
      obtain rfl := Text.eq_of_toUpper_eq capital (by decide)
      obtain ⟨ds', rfl, after⟩ := ih rest
      exact ⟨ds', rfl, after⟩
    · rw [Text.doubled_cons mark] at h ⊢
      obtain ⟨d, es, rfl, rfl, rest⟩ := recased_cons.1 h
      have inside : (true != (d == '"')) = true := by simp [mark]
      rw [inside] at rest
      obtain ⟨ds', rfl, after⟩ := ih rest
      exact ⟨ds', rfl, after⟩

theorem recased_self (inside : Bool) (cs : List Char) : Recased inside cs cs := by
  induction cs generalizing inside with
  | nil => trivial
  | cons c cs ih =>
    refine ⟨?_, ih _⟩
    cases inside <;> rfl

theorem recased_append {cs cs' ds ds' : List Char} (noMark : '"' ∉ cs)
    (same : asciiUpper cs' = asciiUpper cs) (rest : Recased false ds ds') :
    Recased false (cs ++ ds) (cs' ++ ds') := by
  induction cs generalizing cs' with
  | nil =>
    obtain rfl : cs' = [] := List.map_eq_nil_iff.1 same
    exact rest
  | cons c cs ih =>
    obtain ⟨first, later⟩ := not_or.1 (mt List.mem_cons.2 noMark)
    have outside : (false != (c == '"')) = false := by simp [Ne.symm first]
    cases cs' with
    | nil => cases same
    | cons c' cs' =>
      obtain ⟨capital, same⟩ := List.cons.inj same
      refine ⟨capital, ?_⟩
      rw [outside]
      exact ih later same

theorem recased_doubled (s : List Char) {ds ds' : List Char} (rest : Recased false ds ds') :
    Recased true (Text.doubled s ++ '"' :: ds) (Text.doubled s ++ '"' :: ds') := by
  induction s with
  | nil => exact ⟨rfl, rest⟩
  | cons c s ih =>
    by_cases mark : c = '"'
    · subst mark
      rw [Text.doubled_quote]
      exact ⟨rfl, rfl, ih⟩
    · have inside : (true != (c == '"')) = true := by simp [mark]
      rw [Text.doubled_cons mark]
      refine ⟨rfl, ?_⟩
      rw [inside]
      exact ih

/-! ## Lexemes and tokens -/

/-- The lexemes differ at most in the case of letters, and text literals not at all. -/
structure Lexeme.Recased (l l' : Lexeme) : Prop where
  gap : l'.gap = l.gap
  kind : l'.kind = l.kind
  raw : asciiUpper l'.raw = asciiUpper l.raw
  text : l.kind = .text → l'.raw = l.raw

theorem isAlpha_of_blanks {gap : List Char} (blanks : ∀ c ∈ gap, Text.isBlank c = true) :
    ∀ c ∈ gap, c.isAlpha = false := by
  intro c hc
  by_contra letter
  rw [Bool.not_eq_false] at letter
  have visible := Text.isBlank_of_isAlphanum (Text.isAlphanum_of_isAlpha letter)
  exact Bool.false_ne_true (visible.symm.trans (blanks c hc))

theorem mark_not_mem_blanks {gap : List Char} (blanks : ∀ c ∈ gap, Text.isBlank c = true) :
    '"' ∉ gap := fun mark => absurd (blanks _ mark) (by decide)

/-- The token of a text literal is the literal. -/
theorem TokenAt.exists_contents {c : Char} {cs tail : List Char} (h : TokenAt c cs .text tail) :
    ∃ s, c = '"' ∧ tail = Text.doubled s ++ ['"'] ∧ Text.contents? cs = some s := by
  cases h with
  | single single =>
    unfold singleKind? at single
    split at single <;> cases single
  | @text s mark contents => exact ⟨s, mark, rfl, contents⟩
  | word _ kind_eq =>
    rcases wordKind_cases _ _ with h | h | h <;> exact nomatch kind_eq.symm.trans h

/-- Outside text literals a token and the text after it keep apart when letters change. -/
theorem TokenAt.recased_append {c c' : Char} {tail rest es : List Char} {kind : TokenKind}
    (h : TokenAt c (tail ++ rest) kind tail) (first : c'.toUpper = c.toUpper)
    (r : Recased false (tail ++ rest) es) (noText : kind ≠ .text) :
    ∃ tail' rest', es = tail' ++ rest' ∧ TokenAt c' (tail' ++ rest') kind tail' ∧
      asciiUpper tail' = asciiUpper tail ∧ Recased false rest rest' := by
  have noMark : '"' ∉ tail := fun mark => h.mark_not_mem noText (List.mem_cons_of_mem c mark)
  obtain ⟨tail', token, same⟩ := h.recased first r.asciiUpper_eq noText
  obtain ⟨taken, rest', rfl, same', recased⟩ := r.split noMark
  have length : tail'.length = taken.length :=
    (Text.length_eq_of_asciiUpper_eq same).trans (Text.length_eq_of_asciiUpper_eq same').symm
  obtain ⟨after, joined⟩ := token.isPrefix
  obtain rfl : tail' = taken := (List.append_inj joined length).1
  exact ⟨tail', rest', rfl, token, same, recased⟩

/-- A text with letters in other cases is cut in the same places. -/
theorem Cuts.recased {cs ds ending : List Char} {ls : List Lexeme} (h : Cuts cs ls ending)
    (r : Recased false cs ds) : ∃ ls', Cuts ds ls' ending ∧ List.Forall₂ Lexeme.Recased ls ls' := by
  induction h generalizing ds with
  | blank blanks =>
    obtain rfl := Text.eq_of_asciiUpper_eq r.asciiUpper_eq (isAlpha_of_blanks blanks)
    exact ⟨[], .blank blanks, .nil⟩
  | @token gap tail rest ending c kind ls blanks visible token later ih =>
    obtain ⟨gap', ds, rfl, same, afterGap⟩ := r.split (mark_not_mem_blanks blanks)
    obtain rfl := Text.eq_of_asciiUpper_eq same (isAlpha_of_blanks blanks)
    obtain ⟨c', es, rfl, capital, afterFirst⟩ := recased_cons.1 afterGap
    have capital : c'.toUpper = c.toUpper := capital
    by_cases text : kind = .text
    · subst text
      obtain ⟨s, rfl, rfl, contents⟩ := token.exists_contents
      rw [List.append_assoc] at contents
      obtain rfl := Text.eq_of_toUpper_eq capital (by decide)
      rw [List.append_assoc] at afterFirst
      obtain ⟨rest', rfl, afterToken⟩ := afterFirst.split_doubled
      obtain ⟨ls', cuts, alike⟩ := ih afterToken
      have stops' : rest'.head? ≠ some '"' := by
        rw [Ne, ← Text.head?_asciiUpper_eq (by decide), afterToken.asciiUpper_eq,
          Text.head?_asciiUpper_eq (by decide)]
        exact Text.head?_ne_of_contents? contents
      have token' := Cuts.token blanks visible (tokenAt_text s stops') cuts
      rw [List.append_assoc] at token'
      exact ⟨_, token', .cons ⟨rfl, rfl, rfl, fun _ => rfl⟩ alike⟩
    · have outside : (false != (c == '"')) = false := by
        have noMark := token.mark_not_mem text
        simp [Ne.symm (not_or.1 (mt List.mem_cons.2 noMark)).1]
      rw [outside] at afterFirst
      obtain ⟨tail', rest', rfl, token', same, afterToken⟩ :=
        token.recased_append capital afterFirst text
      obtain ⟨ls', cuts, alike⟩ := ih afterToken
      have visible' : Text.isBlank c' = false :=
        (Text.congr_of_toUpper_eq Text.isBlank_toUpper capital).trans visible
      have raw : asciiUpper (c' :: tail') = asciiUpper (c :: tail) := by
        rw [Text.asciiUpper_cons, Text.asciiUpper_cons, capital, same]
      exact ⟨_, .token blanks visible' token' cuts,
        .cons ⟨rfl, rfl, raw, fun h => absurd h text⟩ alike⟩

/-- The converse: counting quotation marks finds exactly the literals that the text is cut into. -/
theorem Cuts.recased_iff {cs ds ending : List Char} {ls : List Lexeme} (h : Cuts cs ls ending) :
    Recased false cs ds ↔
      ∃ ls', List.Forall₂ Lexeme.Recased ls ls' ∧ Scan.chars ⟨ls', .blank ending⟩ = ds := by
  constructor
  · intro r
    obtain ⟨ls', cuts, alike⟩ := h.recased r
    exact ⟨ls', alike, cuts.chars_eq⟩
  · rintro ⟨ls', alike, rfl⟩
    induction h generalizing ls' with
    | blank blanks =>
      cases alike
      exact recased_self false _
    | @token gap tail rest ending c kind ls blanks visible token later ih =>
      cases alike with
      | @cons _ l' _ ls' first alike =>
        have rest_recased := ih ls' alike
        have chars : Scan.chars ⟨l' :: ls', .blank ending⟩ =
            gap ++ (l'.raw ++ Scan.chars ⟨ls', .blank ending⟩) := by
          simp [Scan.chars, Lexeme.chars, first.gap]
        rw [chars]
        refine recased_append (mark_not_mem_blanks blanks) rfl ?_
        by_cases text : kind = .text
        · subst text
          obtain ⟨s, rfl, rfl, -⟩ := token.exists_contents
          have raw : l'.raw = '"' :: (Text.doubled s ++ ['"']) := first.text rfl
          rw [raw, List.cons_append, List.append_assoc, List.append_assoc]
          exact ⟨rfl, recased_doubled s rest_recased⟩
        · rw [← List.cons_append]
          exact recased_append (token.mark_not_mem text) first.raw rest_recased

/-- The tokens are of one kind and at one place, and differ at most in the case of letters. Where
    the value is in capitals or the contents of a literal, it is the same. -/
structure Token.Recased (t t' : Token) : Prop where
  kind : t'.kind = t.kind
  start : t'.start = t.start
  stop : t'.stop = t.stop
  letters : asciiUpper t'.value.toList = asciiUpper t.value.toList
  value : t.kind = .text ∨ t.kind = .boolean ∨ t.kind = .cell → t'.value = t.value

theorem byteLength_asciiUpper (cs : List Char) : byteLength (asciiUpper cs) = byteLength cs := by
  induction cs with
  | nil => rfl
  | cons c cs ih =>
    have whole : byteLength (c :: cs) = c.utf8Size + byteLength cs := rfl
    rw [whole, ← ih, ← Text.utf8Size_toUpper]
    rfl

/-- What a token stands for is in capitals, is a literal as it was written, or differs in the case
    of letters. -/
theorem Lexeme.Recased.value {l l' : Lexeme} (h : l.Recased l') :
    (l.kind = .text ∨ l.kind = .boolean ∨ l.kind = .cell → l'.value = l.value) ∧
      asciiUpper l'.value.toList = asciiUpper l.value.toList := by
  cases kind : l.kind with
  | text =>
    have same : l'.value = l.value := by
      unfold Lexeme.value
      rw [h.kind, h.text kind]
    exact ⟨fun _ => same, by rw [same]⟩
  | boolean | cell =>
    have same : l'.value = l.value := by
      unfold Lexeme.value
      rw [h.kind, kind, h.raw]
    exact ⟨fun _ => same, by rw [same]⟩
  | number | name | operator | leftParen | rightParen | comma | colon =>
    refine ⟨nofun, ?_⟩
    unfold Lexeme.value
    rw [h.kind, kind, String.toList_ofList, String.toList_ofList, h.raw]

theorem tokensFrom_recased {ls ls' : List Lexeme} (h : List.Forall₂ Lexeme.Recased ls ls')
    (offset : Nat) :
    List.Forall₂ Token.Recased (tokensFrom offset ls) (tokensFrom offset ls') := by
  induction h generalizing offset with
  | nil => exact .nil
  | @cons l l' ls ls' first _ ih =>
    have length : byteLength l'.raw = byteLength l.raw :=
      Text.congr_of_asciiUpper_eq byteLength_asciiUpper first.raw
    rw [tokensFrom, tokensFrom, first.gap, length]
    exact .cons ⟨first.kind, rfl, rfl, first.value.2, first.value.1⟩ (ih _)

/-- A text with letters in other cases has tokens if the text has, and they differ in the case of
    letters only. -/
theorem tokenize_recased {body body' : List Char} {ts : List Token} (h : tokenize body = .ok ts)
    (r : Recased false body body') :
    ∃ ts', tokenize body' = .ok ts' ∧ List.Forall₂ Token.Recased ts ts' := by
  obtain ⟨ls, ending, scanned, rfl⟩ := exists_scan_of_tokenize h
  obtain ⟨ls', cuts, alike⟩ := (scan_eq_iff.1 scanned).recased r
  exact ⟨_, tokenize_of_scan (scan_eq_iff.2 cuts), tokensFrom_recased alike 0⟩

end Worksheet
