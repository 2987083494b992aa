/-!
# Putting texts together

* `joinWith` — texts with a separator between them.
* `quoted` — a text between double quotes.
* `padEnd` — a text filled up with spaces to a width.
-/

namespace PolySql.Text

def joinWith (separator : String) : List String → String
  | [] => ""
  | [s] => s
  | s :: ss => s ++ separator ++ joinWith separator ss

/-- A text between double quotes, as it stands. -/
def quoted (s : String) : String := "\"" ++ s ++ "\""

/-- A text followed by as many spaces as it takes to fill `width` characters. -/
def padEnd (width : Nat) (s : String) : String :=
  s ++ String.ofList (List.replicate (width - s.length) ' ')

theorem joinWith_cons_cons (separator s t : String) (ss : List String) :
    joinWith separator (s :: t :: ss) = s ++ separator ++ joinWith separator (t :: ss) := rfl

theorem joinWith_singleton (separator s : String) : joinWith separator [s] = s := rfl

end PolySql.Text
