/-!
Places in a source text. Lines and columns count from one, and columns count bytes.
-/

namespace GoDto

structure Position where
  line : Nat
  column : Nat
  deriving DecidableEq, Repr

namespace Position

/-- Where every text begins. -/
def start : Position := ⟨1, 1⟩

def advance (position : Position) (c : Char) : Position :=
  if c = '\n' then ⟨position.line + 1, 1⟩ else ⟨position.line, position.column + c.utf8Size⟩

/-- The place reached by reading `text` from `position` on. -/
def after (position : Position) (text : List Char) : Position := text.foldl advance position

@[simp]
theorem after_nil (position : Position) : position.after [] = position := rfl

@[simp]
theorem after_cons (position : Position) (c : Char) (text : List Char) :
    position.after (c :: text) = (position.advance c).after text := rfl

theorem after_append (position : Position) (first second : List Char) :
    position.after (first ++ second) = (position.after first).after second :=
  List.foldl_append

end Position

end GoDto
