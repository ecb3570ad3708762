/-!
# Blanks

The characters of Unicode's property White_Space, and text freed of them at both ends.

* `trimChars_blanks`: text of nothing but blanks trims to nothing.
* `trimChars_append_blank`: blanks at the end make no difference.
* `trimChars_blank_append`: blanks in front make no difference.
-/

namespace Scrip.Text

/-- The 25 characters of the property White_Space. -/
def isBlank (c : Char) : Bool :=
  let n := c.toNat
  (0x09 ≤ n && n ≤ 0x0D) || n == 0x20 || n == 0x85 || n == 0xA0 || n == 0x1680 ||
    (0x2000 ≤ n && n ≤ 0x200A) || n == 0x2028 || n == 0x2029 || n == 0x202F || n == 0x205F ||
    n == 0x3000

/-- The characters without the blanks at either end. -/
def trimChars (cs : List Char) : List Char :=
  ((cs.dropWhile isBlank).reverse.dropWhile isBlank).reverse

/-- The text without the blanks at either end. -/
def trim (s : String) : String :=
  String.ofList (trimChars s.toList)

/-- Blanks in front make no difference to the trimmed text. -/
theorem trimChars_blank_append {ws : List Char} (h : ∀ c ∈ ws, isBlank c = true)
    (cs : List Char) : trimChars (ws ++ cs) = trimChars cs := by
  simp only [trimChars, List.dropWhile_append_of_pos h]

/-- Text of nothing but blanks trims to nothing. -/
theorem trimChars_blanks {ws : List Char} (h : ∀ c ∈ ws, isBlank c = true) :
    trimChars ws = [] := by
  have := trimChars_blank_append h []
  simpa [trimChars] using this

/-- Blanks at the end make no difference to the trimmed text. -/
theorem trimChars_append_blank {ws : List Char} (h : ∀ c ∈ ws, isBlank c = true)
    (cs : List Char) : trimChars (cs ++ ws) = trimChars cs := by
  rcases hd : cs.dropWhile isBlank with _ | ⟨d, ds⟩
  · have hall : ∀ c ∈ cs, isBlank c = true := by
      have hany := List.any_dropWhile (p := isBlank) (l := cs)
      simpa [hd] using hany
    rw [trimChars_blanks hall, trimChars_blanks]
    intro c hc
    rcases List.mem_append.1 hc with hc | hc
    · exact hall c hc
    · exact h c hc
  · have hne : cs.dropWhile isBlank ≠ [] := by simp [hd]
    have happ : (cs ++ ws).dropWhile isBlank = cs.dropWhile isBlank ++ ws := by
      rw [List.dropWhile_append, if_neg (by simpa using hne)]
    simp only [trimChars, happ, List.reverse_append]
    rw [List.dropWhile_append_of_pos fun c hc => h c (List.mem_reverse.1 hc)]

end Scrip.Text
