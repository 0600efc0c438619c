/-
Module: LooseKeys.Text.Parts
Purpose: The parts of a text between the places of a separator.
Main exports: parts, parts_ne_nil, intercalate_parts, parts_append
-/

/-!
A text always has at least one part, so it is never lost that it is empty or ends in a
separator.  Joining the parts again gives the text back (`intercalate_parts`), and a text without
separators is the first part of what it begins (`parts_append`).
-/

namespace LooseKeys.Text

/-- The parts of a text that the separator stands between; none of them holds it. -/
def parts (separator : Char) : List Char → List (List Char)
  | [] => [[]]
  | c :: rest =>
      if c = separator then [] :: parts separator rest
      else
        match parts separator rest with
        | part :: others => (c :: part) :: others
        | [] => [[c]]

theorem parts_ne_nil (separator : Char) (chars : List Char) : parts separator chars ≠ [] := by
  cases chars with
  | nil => simp [parts]
  | cons c rest =>
      by_cases hc : c = separator
      · simp [parts, hc]
      · simp only [parts, hc, if_false]
        split <;> simp

theorem intercalate_parts (separator : Char) (chars : List Char) :
    [separator].intercalate (parts separator chars) = chars := by
  induction chars with
  | nil => rfl
  | cons c rest ih =>
      have hne := parts_ne_nil separator rest
      by_cases hc : c = separator
      · cases hparts : parts separator rest with
        | nil => exact absurd hparts hne
        | cons part others =>
            rw [hparts] at ih
            simp [parts, hc, hparts, List.intercalate] at ih ⊢
            exact ih
      · cases hparts : parts separator rest with
        | nil => exact absurd hparts hne
        | cons part others =>
            rw [hparts] at ih
            cases others <;>
              simp_all [parts, List.intercalate, List.intersperse]

theorem parts_eq_self {separator : Char} {chars : List Char} (h : separator ∉ chars) :
    parts separator chars = [chars] := by
  induction chars with
  | nil => rfl
  | cons c rest ih =>
      simp only [List.mem_cons, not_or] at h
      simp only [parts, Ne.symm h.1, if_false, ih h.2]

theorem parts_append {separator : Char} {first : List Char} (rest : List Char)
    (h : separator ∉ first) :
    parts separator (first ++ separator :: rest) = first :: parts separator rest := by
  induction first with
  | nil => simp [parts]
  | cons c first ih =>
      simp only [List.mem_cons, not_or] at h
      simp only [List.cons_append, parts, Ne.symm h.1, if_false, ih h.2]

end LooseKeys.Text
