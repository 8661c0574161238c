/-!
# Cutting text into pieces

`splitOn sep` cuts at every occurrence of a character, so there is always one piece
more than there are separators.
-/

namespace ClusterEvents.Text

/-- The pieces between occurrences of a character; a text without any is one
piece. -/
def splitOn (sep : Char) : List Char → List (List Char)
  | [] => [[]]
  | c :: rest =>
    if c = sep then [] :: splitOn sep rest
    else match splitOn sep rest with
      | [] => [[c]]
      | piece :: pieces => (c :: piece) :: pieces

theorem splitOn_ne_nil (sep : Char) (cs : List Char) : splitOn sep cs ≠ [] := by
  cases cs with
  | nil => simp [splitOn]
  | cons c rest =>
    rw [splitOn]
    split
    · simp
    · split <;> simp

/-- The strings between occurrences of a character. -/
def split (sep : Char) (s : String) : List String :=
  (splitOn sep s.toList).map String.ofList

/-- Whether a list starts with another, and what follows then. -/
def afterStart? : (start cs : List Char) → Option (List Char)
  | [], cs => some cs
  | _ :: _, [] => none
  | c :: start, d :: cs => if c = d then afterStart? start cs else none

/-- The pieces between occurrences of the mark `[*]`. -/
def splitOnMark : List Char → List (List Char)
  | [] => [[]]
  | '[' :: '*' :: ']' :: rest => [] :: splitOnMark rest
  | c :: rest =>
    match splitOnMark rest with
    | [] => [[c]]
    | piece :: pieces => (c :: piece) :: pieces

end ClusterEvents.Text
