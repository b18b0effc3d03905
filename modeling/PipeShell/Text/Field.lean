/-!
Texts that one character divides into fields: the elements of a search path, the parts of a file
name. Writing the fields with the character between them gives the text back.
-/
namespace PipeShell.Text

/-- The fields of a character list; there is always at least one, and each may be empty. -/
def fieldsOf (separator : Char) : List Char → List (List Char)
  | [] => [[]]
  | c :: rest =>
    if c = separator then [] :: fieldsOf separator rest
    else match fieldsOf separator rest with
      | [] => [[c]]
      | field :: fields => (c :: field) :: fields

def fields (separator : Char) (text : String) : List String :=
  (fieldsOf separator text.toList).map String.ofList

theorem fieldsOf_ne_nil (separator : Char) (cs : List Char) : fieldsOf separator cs ≠ [] := by
  cases cs with
  | nil => simp [fieldsOf]
  | cons c rest => simp only [fieldsOf]; split <;> (try split) <;> simp

end PipeShell.Text
