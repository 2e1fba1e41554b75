/-
  The numbers of a text. What is cut from a text as a number is a decimal number, and is read as a
  literal then, so that there is one grammar of numbers and not two. A formula whose text has tokens
  is refused for a number only if that number overflows (`number_tokens_are_decimal`).
-/
import Worksheet.Proofs.Decimal.Grammar
import Worksheet.Proofs.Decimal.Overflow
import Worksheet.Proofs.Formula.Cutting
import Worksheet.Proofs.Formula.Faults
import Worksheet.Proofs.Formula.Spans

namespace Worksheet

open Decimal (IsDecimal)

variable {body : List Char} {t : Token}

/-! ## Lexemes -/

theorem TokenAt.isDecimal {c : Char} {cs tail : List Char} (h : TokenAt c cs .number tail) :
    IsDecimal (c :: tail) := by
  cases h with
  | single single => exact absurd rfl (kind_of_singleKind? single).1
  | number begins => exact numberChars_eq_cons begins ▸ Decimal.isDecimal_numberChars begins
  | word _ kind_eq =>
    rcases wordKind_cases _ _ with h | h | h <;> exact nomatch kind_eq.symm.trans h

/-- Also before a character that begins no token, numbers are decimal numbers. -/
theorem isDecimal_of_mem_lexemes (cs : List Char) :
    ∀ l ∈ (scan cs).lexemes, l.kind = .number → IsDecimal l.raw := by
  fun_induction scan cs with
  | case1 =>
    intro l hl
    exact absurd hl List.not_mem_nil
  | case2 =>
    intro l hl
    exact absurd hl List.not_mem_nil
  | case3 cs gap c rest start kind tail token later ih =>
    refine List.forall_mem_cons.2 ⟨?_, ih⟩
    rintro rfl
    exact (tokenAt_eq_ok.1 token).isDecimal

/-! ## Tokens -/

theorem isDecimal_of_mem_tokens (mem : t ∈ (scan body).tokens) (kind : t.kind = .number) :
    IsDecimal t.value.toList := by
  obtain ⟨l, lexeme, before, after, -, rfl⟩ := exists_lexeme_of_mem mem
  change l.kind = .number at kind
  have value : l.value = String.ofList l.raw := by
    unfold Lexeme.value
    rw [kind]
  show IsDecimal l.value.toList
  rw [value, String.toList_ofList]
  exact isDecimal_of_mem_lexemes body l lexeme kind

theorem tokens_of_tokenize {ts : List Token} (h : tokenize body = .ok ts) :
    ts = (scan body).tokens := by
  obtain ⟨ls, ending, scanned, rfl⟩ := exists_scan_of_tokenize h
  rw [Scan.tokens, scanned]

/-- A text that has no tokens has a character out of place or an open text literal. -/
theorem fault_of_tokenize {fault : FormulaFault} (h : tokenize body = .error fault) :
    (∃ c position, fault = .strayCharacter c position) ∨
      ∃ position, fault = .openText position := by
  unfold tokenize at h
  cases scanned : scan body with
  | mk ls ending =>
    rw [scanned] at h
    cases ending with
    | blank gap => cases h
    | stray gap cause rest =>
      cases cause with
      | character c offset => exact .inl ⟨c, _, (Except.error.inj h).symm⟩
      | openText => exact .inr ⟨_, (Except.error.inj h).symm⟩

/-- The texts that are read as literals are the decimal numbers. Every number token of a text is one
    of them, whatever comes after it. If a text is refused for a number, then it has tokens, and the
    number is that of one of them: a literal that overflows. -/
theorem number_tokens_are_decimal :
    (∀ cs, (∃ l, Decimal.Literal.parse? cs = some l) ↔ IsDecimal cs) ∧
      (∀ body, ∀ t ∈ (scan body).tokens, t.kind = .number → IsDecimal t.value.toList) ∧
      ∀ body text position, parseBody body = .error (.grammar (.badNumber text) position) →
        ∃ ts t l, tokenize body = .ok ts ∧ t ∈ ts ∧ t.kind = .number ∧ t.value = text ∧
          t.start = position ∧ Decimal.Literal.parse? text.toList = some l ∧ l.Overflows := by
  refine ⟨fun cs => Decimal.exists_literal_iff, fun body t mem kind =>
    isDecimal_of_mem_tokens mem kind, ?_⟩
  intro body text position h
  unfold parseBody at h
  cases tokens : tokenize body with
  | error fault =>
    rw [tokens] at h
    obtain rfl := Except.error.inj h
    rcases fault_of_tokenize tokens with ⟨c, p, stray⟩ | ⟨p, openText⟩
    · cases stray
    · cases openText
  | ok ts =>
    rw [tokens] at h
    obtain ⟨t, mem, kind, rfl, start, unread⟩ := exists_of_badNumber h
    have decimal := isDecimal_of_mem_tokens (tokens_of_tokenize tokens ▸ mem) kind
    obtain ⟨l, literal⟩ := Decimal.exists_literal_iff.2 decimal
    exact ⟨ts, t, l, rfl, mem, kind, rfl, start, literal,
      Decimal.overflows_of_unread literal unread⟩

/-- The text `1+1e400` is refused at its second number, which is `10^400`. -/
theorem number_tokens_are_decimal_huge :
    parseBody "1+1e400".toList = .error (.grammar (.badNumber "1e400") 2) ∧
      (⟨false, 1, 400⟩ : Decimal.Literal).Overflows := by
  have printed : (parseBody "1+1e400".toList).map Expr.chars =
      .error (.grammar (.badNumber "1e400") 2) := by decide +kernel
  have refused : parseBody "1+1e400".toList = .error (.grammar (.badNumber "1e400") 2) := by
    cases parsed : parseBody "1+1e400".toList with
    | ok e =>
      rw [parsed] at printed
      cases printed
    | error fault =>
      rw [parsed] at printed
      exact congrArg Except.error (Except.error.inj printed)
  obtain ⟨-, -, overflow⟩ := number_tokens_are_decimal
  obtain ⟨-, -, l, -, -, -, -, -, literal, overflows⟩ := overflow _ _ _ refused
  have parsed : Decimal.Literal.parse? "1e400".toList = some ⟨false, 1, 400⟩ := by decide
  obtain rfl := Option.some.inj (parsed.symm.trans literal)
  exact ⟨refused, overflows⟩

end Worksheet
