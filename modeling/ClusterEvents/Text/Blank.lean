/-!
# Blanks of running text

A character is blank when it has the Unicode property `White_Space`. Settings, lines
and event texts are trimmed of blanks in this sense; the grammar of JSON has a
smaller set of its own.
-/

namespace ClusterEvents.Text

/-- Whether a character has the property `White_Space`. -/
def isBlank (c : Char) : Bool :=
  let n := c.toNat
  decide (0x09 ≤ n ∧ n ≤ 0x0D) || n == 0x20 || n == 0x85 || n == 0xA0 || n == 0x1680
    || decide (0x2000 ≤ n ∧ n ≤ 0x200A) || n == 0x2028 || n == 0x2029 || n == 0x202F
    || n == 0x205F || n == 0x3000

/-- The characters core calls blank are blank. -/
theorem isBlank_of_isWhitespace {c : Char} (h : c.isWhitespace = true) : isBlank c = true := by
  simp only [Char.isWhitespace, Bool.or_eq_true, decide_eq_true_eq] at h
  rcases h with ((rfl | rfl) | rfl) | rfl <;> decide

/-- Drops characters that satisfy `p` from both ends. -/
def trimBy (p : Char → Bool) (cs : List Char) : List Char :=
  ((cs.dropWhile p).reverse.dropWhile p).reverse

/-- A string without the blanks at its ends. -/
def trim (s : String) : String :=
  String.ofList (trimBy isBlank s.toList)

/-- Lowercase for the letters of ASCII; other characters stay as they are. -/
def lowercase (s : String) : String :=
  String.ofList (s.toList.map Char.toLower)

/-- Uppercase for the letters of ASCII; other characters stay as they are. -/
def uppercase (s : String) : String :=
  String.ofList (s.toList.map Char.toUpper)

end ClusterEvents.Text
