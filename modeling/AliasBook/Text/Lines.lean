/-! The lines of a text. A line ends at a line feed, at a carriage return, or at the two together; no other
    character separates lines. -/

namespace AliasBook.Text

/-- The lines of the characters, without what ends them. What follows the last end is a line of its own
    unless it is empty. -/
def splitLines : List Char → List (List Char)
  | [] => []
  | '\r' :: '\n' :: rest => [] :: splitLines rest
  | c :: rest =>
    if c = '\n' ∨ c = '\r' then [] :: splitLines rest
    else
      match splitLines rest with
      | [] => [[c]]
      | line :: lines => (c :: line) :: lines

/-- The lines of a text, in order. -/
def lines (s : String) : List String :=
  (splitLines s.toList).map String.ofList

/-- No line holds a character that ends lines. -/
theorem not_mem_of_mem_splitLines {cs line : List Char} (h : line ∈ splitLines cs) :
    '\n' ∉ line ∧ '\r' ∉ line := by
  fun_induction splitLines cs generalizing line with
  | case1 => simp at h
  | case2 rest ih =>
    rcases List.mem_cons.mp h with rfl | h
    · simp
    · exact ih h
  | case3 c rest _ _ ih =>
    rcases List.mem_cons.mp h with rfl | h
    · simp
    · exact ih h
  | case4 c rest _ hc hnil _ =>
    rw [not_or] at hc
    rw [List.mem_singleton] at h
    subst h
    simp [Ne.symm hc.1, Ne.symm hc.2]
  | case5 c rest _ hc first others hsplit ih =>
    rw [not_or] at hc
    rw [hsplit] at ih
    rcases List.mem_cons.mp h with rfl | h
    · have := ih (List.mem_cons_self ..)
      simp [Ne.symm hc.1, Ne.symm hc.2, this.1, this.2]
    · exact ih (List.mem_cons_of_mem _ h)

end AliasBook.Text
