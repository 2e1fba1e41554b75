/-
  Quoted texts: a text between quotation marks, in which a mark is written twice. `quoted`
  writes one and `contents?` reads what follows an opening mark; each text has exactly one
  quoted form.
-/
namespace Worksheet.Text

/-- A text with its quotation marks written twice. -/
def doubled (cs : List Char) : List Char :=
  cs.flatMap fun c => if c = '"' then ['"', '"'] else [c]

/-- The quoted form of a text. -/
def quoted (cs : List Char) : List Char := '"' :: doubled cs ++ ['"']

/-- The text between an opening mark, which is gone already, and the closing one; `none`
    when it is not closed. What follows the closing mark is left aside. -/
def contents? : List Char → Option (List Char)
  | [] => none
  | '"' :: '"' :: cs => (contents? cs).map ('"' :: ·)
  | c :: cs => if c = '"' then some [] else (contents? cs).map (c :: ·)

@[simp] theorem doubled_nil : doubled [] = [] := rfl

@[simp] theorem doubled_quote (cs : List Char) :
    doubled ('"' :: cs) = '"' :: '"' :: doubled cs := by
  simp [doubled]

@[simp] theorem doubled_cons {c : Char} (h : c ≠ '"') (cs : List Char) :
    doubled (c :: cs) = c :: doubled cs := by
  simp [doubled, h]

/-- A quoted text reads back, whatever follows it, unless that is a further mark. -/
theorem contents?_doubled (cs rest : List Char) (h : rest.head? ≠ some '"') :
    contents? (doubled cs ++ '"' :: rest) = some cs := by
  induction cs with
  | nil => cases rest <;> simp_all [contents?]
  | cons c cs ih =>
    by_cases hc : c = '"'
    · subst hc
      simp [contents?, ih]
    · simp [hc, contents?, ih]

/-- What was read is the quoted form of the contents. -/
theorem doubled_prefix {cs s : List Char} (h : contents? cs = some s) :
    ∃ rest, cs = doubled s ++ '"' :: rest := by
  fun_induction contents? cs generalizing s with
  | case1 => simp at h
  | case2 cs ih =>
    obtain ⟨u, hu, rfl⟩ := Option.map_eq_some_iff.1 h
    obtain ⟨rest, rfl⟩ := ih hu
    exact ⟨rest, by simp⟩
  | case3 cs _ =>
    obtain rfl : [] = s := by simpa using h
    exact ⟨cs, by simp⟩
  | case4 c cs _ hc ih =>
    obtain ⟨u, hu, rfl⟩ := Option.map_eq_some_iff.1 h
    obtain ⟨rest, rfl⟩ := ih hu
    exact ⟨rest, by simp [hc]⟩

end Worksheet.Text
