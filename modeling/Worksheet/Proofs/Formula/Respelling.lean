/-
  A text written again from its tokens: what stands between them is kept, and each of them is
  written as it is shown. References and truth values are in capitals then, and nothing else is
  changed. The new text is a recased one, so it is cut in the same places, and it has the very same
  tokens (`tokenize_respelled`).
-/
import Worksheet.Proofs.Formula.Spans

namespace Worksheet

open Text (asciiUpper)

/-- What comes after a byte of a text, with the given tokens written as they are shown. -/
def respelledFrom (position : Nat) (body : List Char) : List Token → List Char
  | [] => (splitAtByte position body).2
  | t :: ts =>
    slice body position t.start ++ (t.display.toList ++ respelledFrom t.stop body ts)

/-- A text with its tokens written as they are shown. -/
def respelled (body : List Char) (ts : List Token) : List Char := respelledFrom 0 body ts

/-- A lexeme with its token written as it is shown. -/
def Lexeme.respell (l : Lexeme) : Lexeme := { l with raw := l.shown }

theorem asciiUpper_shown (l : Lexeme) : asciiUpper l.shown = asciiUpper l.raw := by
  unfold Lexeme.shown
  split
  · exact Text.asciiUpper_asciiUpper l.raw
  · rfl

theorem shown_of_kind {l : Lexeme} (boolean : l.kind ≠ .boolean) (cell : l.kind ≠ .cell) :
    l.shown = l.raw :=
  if_neg fun h => h.elim boolean cell

theorem byteLength_shown (l : Lexeme) : byteLength l.shown = byteLength l.raw :=
  Text.congr_of_asciiUpper_eq byteLength_asciiUpper (asciiUpper_shown l)

theorem recased_respell (l : Lexeme) : l.Recased l.respell where
  gap := rfl
  kind := rfl
  raw := asciiUpper_shown l
  text h := shown_of_kind (by rw [h]; decide) (by rw [h]; decide)

theorem value_respell (l : Lexeme) : l.respell.value = l.value := by
  by_cases capitals : l.kind = .boolean ∨ l.kind = .cell
  · exact (recased_respell l).value.1 (.inr capitals)
  · obtain ⟨boolean, cell⟩ := not_or.1 capitals
    have same : l.respell = l := by
      rw [Lexeme.respell, shown_of_kind boolean cell]
    rw [same]

theorem tokensFrom_respell (ls : List Lexeme) (offset : Nat) :
    tokensFrom offset (ls.map Lexeme.respell) = tokensFrom offset ls := by
  induction ls generalizing offset with
  | nil => rfl
  | cons l ls ih =>
    have size : byteLength l.respell.raw = byteLength l.raw := byteLength_shown l
    rw [List.map_cons, tokensFrom, tokensFrom, ih, value_respell, size]
    rfl

/-- Writing the tokens into the text is writing the lexemes. -/
theorem respelledFrom_tokensFrom {ls : List Lexeme} (cut : ∀ l ∈ ls, l.Cut)
    (before ending : List Char) :
    respelledFrom (byteLength before) (before ++ (ls.flatMap Lexeme.chars ++ ending))
        (tokensFrom (byteLength before) ls) =
      (ls.map Lexeme.respell).flatMap Lexeme.chars ++ ending := by
  induction ls generalizing before with
  | nil =>
    show (splitAtByte (byteLength before) (before ++ ending)).2 = ending
    rw [splitAtByte_append]
  | cons l ls ih =>
    obtain ⟨first, later⟩ := List.forall_mem_cons.1 cut
    have rest := ih later (before ++ (l.gap ++ l.raw))
    rw [byteLength_append, byteLength_append, ← Nat.add_assoc] at rest
    have body : before ++ ((l :: ls).flatMap Lexeme.chars ++ ending) =
        before ++ (l.gap ++ l.raw) ++ (ls.flatMap Lexeme.chars ++ ending) := by
      rw [List.flatMap_cons, Lexeme.chars]
      simp only [List.append_assoc]
    have gap : slice (before ++ ((l :: ls).flatMap Lexeme.chars ++ ending)) (byteLength before)
        (byteLength before + byteLength l.gap) = l.gap := by
      rw [List.flatMap_cons, Lexeme.chars, List.append_assoc, List.append_assoc, slice_append]
    rw [tokensFrom, respelledFrom, gap, first.display, body, rest]
    rw [List.map_cons, List.flatMap_cons, Lexeme.chars]
    simp only [List.append_assoc, Lexeme.respell]

/-- Lexemes that differ from the same ones in the case of letters are told apart by the text. -/
theorem eq_of_recased {ls ls₁ ls₂ : List Lexeme} (h₁ : List.Forall₂ Lexeme.Recased ls ls₁)
    (h₂ : List.Forall₂ Lexeme.Recased ls ls₂)
    (chars : ls₁.flatMap Lexeme.chars = ls₂.flatMap Lexeme.chars) : ls₁ = ls₂ := by
  induction h₁ generalizing ls₂ with
  | nil =>
    cases h₂
    rfl
  | @cons l l₁ ls ls₁ first₁ _ ih =>
    cases h₂ with
    | @cons _ l₂ _ ls₂ first₂ later₂ =>
      have gap : l₁.gap = l₂.gap := first₁.gap.trans first₂.gap.symm
      have kind : l₁.kind = l₂.kind := first₁.kind.trans first₂.kind.symm
      have length : l₁.raw.length = l₂.raw.length :=
        Text.length_eq_of_asciiUpper_eq (first₁.raw.trans first₂.raw.symm)
      rw [List.flatMap_cons, List.flatMap_cons, Lexeme.chars, Lexeme.chars, gap,
        List.append_assoc, List.append_assoc, List.append_cancel_left_eq] at chars
      obtain ⟨raw, later⟩ := List.append_inj chars length
      have first : l₁ = l₂ := by
        cases l₁
        cases l₂
        cases gap
        cases kind
        cases raw
        rfl
      rw [first, ih later₂ later]

/-- A text with its lexemes written as they are shown is cut into these. -/
theorem Cuts.respell {cs ending : List Char} {ls : List Lexeme} (h : Cuts cs ls ending) :
    Cuts ((ls.map Lexeme.respell).flatMap Lexeme.chars ++ ending) (ls.map Lexeme.respell)
      ending := by
  have alike : List.Forall₂ Lexeme.Recased ls (ls.map Lexeme.respell) := by
    rw [List.forall₂_map_right_iff, List.forall₂_same]
    exact fun l _ => recased_respell l
  obtain ⟨ls', cuts, alike'⟩ := h.recased (h.recased_iff.2 ⟨_, alike, rfl⟩)
  have chars : (ls.map Lexeme.respell).flatMap Lexeme.chars = ls'.flatMap Lexeme.chars :=
    List.append_cancel_right cuts.chars_eq.symm
  obtain rfl := eq_of_recased alike alike' chars
  exact cuts

theorem tokenize_respelled {body : List Char} {ts : List Token} (h : tokenize body = .ok ts) :
    tokenize (respelled body ts) = .ok ts := by
  obtain ⟨ls, ending, scanned, rfl⟩ := exists_scan_of_tokenize h
  have cuts := scan_eq_iff.1 scanned
  have cut : ∀ l ∈ ls, l.Cut := by
    have all := cut_of_mem_scan body
    rwa [scanned] at all
  have written : respelled body (tokensFrom 0 ls) =
      (ls.map Lexeme.respell).flatMap Lexeme.chars ++ ending := by
    rw [← cuts.chars_eq]
    exact respelledFrom_tokensFrom cut [] ending
  rw [written, tokenize_of_scan (scan_eq_iff.2 cuts.respell), tokensFrom_respell]

/-- A reference and a truth value get capitals, the text between marks keeps its letters. -/
example : (tokenize "a1 & \"é\" = true".toList).map (respelled "a1 & \"é\" = true".toList) =
    .ok "A1 & \"é\" = TRUE".toList := by decide +kernel

end Worksheet
