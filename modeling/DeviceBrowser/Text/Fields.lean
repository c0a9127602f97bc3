/-! Fields of a text: splitting at a separator and joining with one. -/

namespace DeviceBrowser.Text

/-- The pieces between the separators, empty ones included; there is always at least one. -/
def splitChars (separator : Char) : List Char → List (List Char)
  | [] => [[]]
  | c :: rest =>
    match splitChars separator rest with
    | [] => [[c]]
    | piece :: pieces =>
      if c = separator then [] :: piece :: pieces else (c :: piece) :: pieces

/-- The fields of a text between separators. -/
def split (separator : Char) (text : String) : List String :=
  (splitChars separator text.toList).map String.ofList

/-- Texts one after the other with a separator between each two. -/
def join (separator : String) (texts : List String) : String :=
  String.intercalate separator texts

/-- Splitting never answers an empty list. -/
theorem splitChars_ne_nil (separator : Char) (chars : List Char) :
    splitChars separator chars ≠ [] := by
  -- Every case of the recursion answers a list with a first piece.
  cases chars with
  | nil => simp [splitChars]
  | cons c rest =>
    rw [splitChars]
    split
    · simp
    · split <;> simp

end DeviceBrowser.Text
