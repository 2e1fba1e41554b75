/-
  Literals and the texts that a grid shows for them. The text shown for a literal is no formula, and
  entered in any cell it is read as the same literal (`literal?_display`); only a negative zero is
  shown without its sign. Three readers have to agree for that: the one for inputs, which trims the
  input before it looks for a truth value or a number; and the coercions of texts, of which only the
  one to numbers trims.
-/
import Worksheet.Proofs.Decimal.ReadBack
import Worksheet.Proofs.Sheet.Reentry
import Worksheet.Proofs.Text.LetterCase

namespace Worksheet

/-! ## Truth values -/

namespace Value

/-- A text that spells a truth value has letters only. -/
theorem isAlpha_of_readBoolean? {s : String} {b : Bool} (h : readBoolean? s = some b) :
    ∀ c ∈ s.toList, c.isAlpha = true := by
  have capitals : Text.asciiUpper s.toList = (booleanText b).toList := by
    unfold readBoolean? Text.sameAsciiCase at h
    simp only [beq_iff_eq] at h
    split at h
    · next same =>
      obtain rfl := Option.some.inj h
      exact same
    split at h
    · next same =>
      obtain rfl := Option.some.inj h
      exact same
    · cases h
  have letters : (booleanText b).toList.all Char.isAlpha = true := by cases b <;> decide
  intro c hc
  rw [← Char.isAlpha_toUpper_eq_isAlpha]
  refine List.all_eq_true.1 letters _ ?_
  rw [← capitals]
  exact List.mem_map_of_mem hc

/-- Trimming does not matter to a text that spells a truth value. -/
theorem trim_of_readBoolean? {s : String} {b : Bool} (h : readBoolean? s = some b) :
    Text.trim s = s := by
  have visible : ∀ c ∈ s.toList, Text.isBlank c = false := fun c hc =>
    Text.isBlank_of_isAlphanum (Text.isAlphanum_of_isAlpha (isAlpha_of_readBoolean? h c hc))
  rw [Text.trim, Text.trimBoth_of_not_blank visible, String.ofList_toList]

end Value

/-! ## Numbers -/

/-- The characters of a number in a grid. -/
theorem mem_gridNumber {x : Float} (finite : x.isFinite = true) {c : Char}
    (h : c ∈ gridNumber.render x) : c.isDigit = true ∨ c = '.' ∨ c = '-' := by
  obtain ⟨whole, fraction, -, digits, digits', shape⟩ : Decimal.IsPlain (gridNumber.magnitude x) :=
    Decimal.isPlain_magnitude rfl rfl finite
  have plain : ∀ c ∈ gridNumber.magnitude x, c.isDigit = true ∨ c = '.' := by
    intro c hc
    rcases shape with same | ⟨-, same⟩
    · rw [same] at hc
      exact .inl (digits c hc)
    · rw [same, List.mem_append, List.mem_cons] at hc
      rcases hc with hc | rfl | hc
      · exact .inl (digits c hc)
      · exact .inr rfl
      · exact .inl (digits' c hc)
  unfold Decimal.Notation.render at h
  split at h
  · rcases List.mem_cons.1 h with rfl | h
    · exact .inr (.inr rfl)
    · exact (plain c h).imp_right .inl
  · exact (plain c h).imp_right .inl

namespace Sheet

/-! ## What an input is read as -/

/-- What a literal can be. A text is not changed, and spells neither a truth value nor a number
    when it is trimmed. -/
theorem literal?_cases {input : String} {v : Value} (h : literal? input = some v) :
    (∃ b, v = .boolean b) ∨ (∃ x, v = .number x ∧ x.isFinite = true) ∨
      v = .text input ∧ Value.readBoolean? (Text.trim input) = none ∧
        Decimal.read? (Text.trim input).toList = none := by
  unfold literal? at h
  dsimp only at h
  split at h
  · cases h
  split at h
  · next b _ => exact .inl ⟨b, (Option.some.inj h).symm⟩
  next noBoolean =>
    split at h
    · next x read =>
      exact .inr (.inl ⟨x, (Option.some.inj h).symm, (Option.filter_eq_some_iff.1 read).2⟩)
    · next noNumber => exact .inr (.inr ⟨(Option.some.inj h).symm, noBoolean, noNumber⟩)

/-- A text of digits and signs that is read as a number is entered as that number. -/
theorem literal?_of_read? {cs : List Char} {x : Float} (visible : ∀ c ∈ cs, Text.isBlank c = false)
    (noLetter : ∀ c ∈ cs, c.isAlpha = false) (read : Decimal.read? cs = some x) :
    literal? (String.ofList cs) = some (.number x) := by
  have word : Text.trim (String.ofList cs) = String.ofList cs := by
    rw [Text.trim, String.toList_ofList, Text.trimBoth_of_not_blank visible]
  have nonempty : cs ≠ [] := by
    rintro rfl
    cases read
  have noBoolean : Value.readBoolean? (String.ofList cs) = none := by
    rw [Option.eq_none_iff_forall_not_mem]
    intro b boolean
    obtain ⟨c, tail, rfl⟩ := List.exists_cons_of_ne_nil nonempty
    have first : c ∈ (String.ofList (c :: tail)).toList := by simp
    have letter := Value.isAlpha_of_readBoolean? boolean c first
    rw [noLetter c List.mem_cons_self] at letter
    cases letter
  have unblank : ¬ (String.ofList cs).isEmpty = true := by simpa using nonempty
  unfold literal?
  rw [word]
  dsimp only
  rw [if_neg unblank, noBoolean, String.toList_ofList, read]

theorem literal?_booleanText (b : Bool) : literal? (Value.booleanText b) = some (.boolean b) := by
  cases b <;> decide

/-- The text that a grid shows for a literal is read as the literal. -/
theorem literal?_display {input : String} {v : Value} (literal : literal? input = some v)
    (notMinusZero : v ≠ .number (-0.0)) :
    literal? v.display = some v := by
  obtain ⟨b, rfl⟩ | ⟨x, rfl, finite⟩ | ⟨rfl, -, -⟩ := literal?_cases literal
  · exact literal?_booleanText b
  · have read : Decimal.read? (gridNumber.render x) = some x :=
      Decimal.read?_render rfl rfl finite (.inr (notMinusZero ∘ congrArg Value.number))
    refine literal?_of_read? (fun c hc => ?_) (fun c hc => ?_) read
    · rcases mem_gridNumber finite hc with digit | rfl | rfl
      · exact Text.isBlank_of_isAlphanum (Text.isAlphanum_of_isDigit digit)
      · rfl
      · rfl
    · rcases mem_gridNumber finite hc with digit | rfl | rfl
      · exact Text.isAlpha_eq_false_of_isDigit digit
      · rfl
      · rfl
  · exact literal

/-- No formula begins like the text of a literal. -/
theorem head?_display {input : String} {v : Value} (literal : literal? input = some v)
    (noFormula : (Text.trimStart input).toList.head? ≠ some '=') :
    (Text.trimStart v.display).toList.head? ≠ some '=' := by
  obtain ⟨b, rfl⟩ | ⟨x, rfl, finite⟩ | ⟨rfl, -, -⟩ := literal?_cases literal
  · cases b <;> decide
  · intro begins
    have shown : '=' ∈ gridNumber.render x := by
      refine (List.dropWhile_sublist Text.isBlank).subset ?_
      have first := List.mem_of_mem_head? begins
      rwa [Text.trimStart, String.toList_ofList, Value.display, String.toList_ofList] at first
    rcases mem_gridNumber finite shown with digit | point | minus
    · exact absurd digit (by decide)
    · exact absurd point (by decide)
    · exact absurd minus (by decide)
  · exact noFormula

/-! ## Coercions of texts -/

/-- A text that was entered is no number and no truth value. -/
theorem no_coercion_of_literal? {input text : String}
    (literal : literal? input = some (.text text)) :
    (∃ e, (Value.text text).toNumber = .error e) ∧
      ∃ e, (Value.text text).toBoolean = .error e := by
  obtain ⟨b, h⟩ | ⟨x, h, -⟩ | ⟨h, noBoolean, noNumber⟩ := literal?_cases literal
  · cases h
  · cases h
  obtain rfl := Value.text.inj h
  constructor
  · have unread : Value.readNumber? text = none := by
      rwa [Text.trim, String.toList_ofList] at noNumber
    unfold Value.toNumber
    dsimp only
    rw [unread]
    exact ⟨_, rfl⟩
  · have unread : Value.readBoolean? text = none := by
      rw [Option.eq_none_iff_forall_not_mem]
      intro b boolean
      rw [Value.trim_of_readBoolean? boolean, boolean] at noBoolean
      cases noBoolean
    unfold Value.toBoolean
    dsimp only
    rw [unread]
    exact ⟨_, rfl⟩

/-! ## Entering what is shown -/

theorem contentAt_eq_literal {s : Sheet} {c : Cell} {v : Value} :
    s.contentAt c = some (.literal v) ↔ s.entries[c]? = some ⟨v, none⟩ := by
  unfold contentAt
  rw [Option.map_eq_some_iff]
  constructor
  · rintro ⟨⟨w, formula⟩, held, content⟩
    cases formula with
    | none =>
      obtain rfl := Content.literal.inj content
      exact held
    | some f => cases content
  · intro held
    exact ⟨_, held, rfl⟩

theorem set_literal {input : String} {v : Value} (literal : literal? input = some v)
    (noFormula : (Text.trimStart input).toList.head? ≠ some '=') (s : Sheet) {place : Place}
    {c : Cell} (named : place.cell = .ok c) :
    ∃ s' stats, s.set place input = .ok (s', stats) ∧ s'.entries[c]? = some ⟨v, none⟩ := by
  have accepted : s.set place input = .ok (s.setLiteral c (some v)) := by
    unfold set
    rw [named]
    dsimp only [bind, Except.bind]
    rw [if_neg noFormula, literal]
    rfl
  have content : (s.setLiteral c (some v)).1.contentAt c = some (.literal v) := by
    rw [contentAt_set named accepted, if_pos rfl, entered, if_neg noFormula, literal]
    rfl
  exact ⟨_, _, accepted, contentAt_eq_literal.1 content⟩

theorem literal?_of_set {s s' : Sheet} {stats : Stats} {place : Place} {c : Cell} {input : String}
    {v : Value} (named : place.cell = .ok c)
    (noFormula : (Text.trimStart input).toList.head? ≠ some '=')
    (accepted : s.set place input = .ok (s', stats)) (stored : s'.entries[c]? = some ⟨v, none⟩) :
    literal? input = some v := by
  have content := contentAt_set named accepted c
  rw [contentAt_eq_literal.2 stored, if_pos rfl, entered, if_neg noFormula] at content
  obtain ⟨w, literal, same⟩ := Option.map_eq_some_iff.1 content.symm
  rw [literal, Content.literal.inj same]

/-- If an input that is no formula stores a literal in a cell, other than a negative zero, then the
    text that the grid shows for the literal is no formula either and stores the same literal, in
    any cell of any sheet. If the literal is a text, then it is taken neither for a number nor for a
    truth value. -/
theorem set_display_again {s s' : Sheet} {stats : Stats} {place : Place} {c : Cell}
    {input : String} {v : Value} (named : place.cell = .ok c)
    (noFormula : (Text.trimStart input).toList.head? ≠ some '=')
    (accepted : s.set place input = .ok (s', stats)) (stored : s'.entries[c]? = some ⟨v, none⟩)
    (notMinusZero : v ≠ .number (-0.0)) :
    ((Text.trimStart v.display).toList.head? ≠ some '=' ∧
      ∀ (t : Sheet) (place' : Place) (d : Cell), place'.cell = .ok d →
        ∃ t' stats', t.set place' v.display = .ok (t', stats') ∧
          t'.entries[d]? = some ⟨v, none⟩) ∧
    ∀ text, v = .text text →
      (∃ e, v.toNumber = .error e) ∧ ∃ e, v.toBoolean = .error e := by
  have literal := literal?_of_set named noFormula accepted stored
  have begins := head?_display literal noFormula
  refine ⟨⟨begins, fun t place' d named' => ?_⟩, ?_⟩
  · exact set_literal (literal?_display literal notMinusZero) begins t named'
  · rintro text rfl
    exact no_coercion_of_literal? literal

/-- A number with blanks around it and an exponent is shown without them. -/
theorem set_display_again_padded :
    ∃ s' stats, (empty {}).set (.named "a1") " -1250e-2 " = .ok (s', stats) ∧
      s'.entries[(⟨0, 0⟩ : Cell)]? = some ⟨.number (-12.5), none⟩ ∧
      ∃ t' stats', s'.set (.named "B2") "-12.5" = .ok (t', stats') ∧
        t'.entries[(⟨1, 1⟩ : Cell)]? = some ⟨.number (-12.5), none⟩ := by
  have literal : literal? " -1250e-2 " = some (.number (-12.5)) := by decide +kernel
  have noFormula : (Text.trimStart " -1250e-2 ").toList.head? ≠ some '=' := by decide
  have shown : (Value.number (-12.5)).display = "-12.5" := by decide +kernel
  have named : (Place.named "a1").cell = .ok ⟨0, 0⟩ := by decide +kernel
  have named' : (Place.named "B2").cell = .ok ⟨1, 1⟩ := by decide +kernel
  obtain ⟨s', stats, accepted, stored⟩ := set_literal literal noFormula (empty {}) named
  have notMinusZero : Value.number (-12.5) ≠ .number (-0.0) := by decide +kernel
  obtain ⟨⟨-, again⟩, -⟩ := set_display_again named noFormula accepted stored notMinusZero
  obtain ⟨t', stats', accepted', stored'⟩ := again s' _ _ named'
  rw [shown] at accepted'
  exact ⟨s', stats, accepted, stored, t', stats', accepted', stored'⟩

end Sheet

end Worksheet
