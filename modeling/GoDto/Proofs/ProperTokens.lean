import GoDto.Token.Lexeme
import GoDto.Token.Basic

/-!
Token lists of the form in which a text falls into tokens. What a token is spelled like and what
kind it is of agree there, so that an operator or a keyword is known by its spelling alone.
-/

namespace GoDto

namespace Token

def IsOperator (token : Token) (text : String) : Prop := token.kind = .operator ∧ token.text = text

def IsKeyword (token : Token) (text : String) : Prop := token.kind = .keyword ∧ token.text = text

/-- No token but an operator is spelled like one, and likewise for keywords. A semicolon is written
out or stands for a line break, and the end of the file is not spelled at all. -/
structure Proper (token : Token) : Prop where
  operator : token.text ∈ Lexeme.operators → token.text ≠ ";" → token.kind = .operator
  keyword : token.text ∈ keywords → token.kind = .keyword
  semicolon : token.kind = .semicolon → token.text = ";" ∨ token.text = "\n"
  ending : token.kind = .endOfFile → token.text = ""

/-- A token before the end of the file. -/
structure Inner (token : Token) : Prop extends token.Proper where
  inside : token.kind ≠ .endOfFile

/-- A token that is taken for an operator only if it is one, whatever a literal is spelled like -/
structure Clear (token : Token) : Prop where
  operator : ∀ text ∈ Lexeme.operators, text ≠ ";" → token.is text = true → token.kind = .operator

/-- A clear token before the end of the file. Literals may be spelled in any way. -/
structure Readable (token : Token) : Prop extends token.Clear where
  inside : token.kind ≠ .endOfFile

/-- The end of the file. -/
structure Ends (token : Token) : Prop where
  kind : token.kind = .endOfFile
  text : token.text = ""

instance (token : Token) : Decidable token.Proper :=
  decidable_of_iff ((token.text ∈ Lexeme.operators → token.text ≠ ";" → token.kind = .operator) ∧
      (token.text ∈ keywords → token.kind = .keyword) ∧
      (token.kind = .semicolon → token.text = ";" ∨ token.text = "\n") ∧
      (token.kind = .endOfFile → token.text = ""))
    ⟨fun ⟨operator, keyword, semicolon, ending⟩ => ⟨operator, keyword, semicolon, ending⟩,
      fun ⟨operator, keyword, semicolon, ending⟩ => ⟨operator, keyword, semicolon, ending⟩⟩

instance (token : Token) : Decidable token.Inner :=
  decidable_of_iff (token.Proper ∧ token.kind ≠ .endOfFile)
    ⟨fun ⟨proper, inside⟩ => ⟨proper, inside⟩, fun ⟨proper, inside⟩ => ⟨proper, inside⟩⟩

instance (token : Token) : Decidable token.Ends :=
  decidable_of_iff (token.kind = .endOfFile ∧ token.text = "")
    ⟨fun ⟨kind, text⟩ => ⟨kind, text⟩, fun ⟨kind, text⟩ => ⟨kind, text⟩⟩

theorem Ends.proper {token : Token} (ends : token.Ends) : token.Proper where
  operator listed := absurd listed (by rw [ends.text]; decide)
  keyword listed := absurd listed (by rw [ends.text]; decide)
  semicolon kind := absurd kind (by rw [ends.kind]; decide)
  ending _ := ends.text

variable {token : Token} {text : String}

theorem IsOperator.is (operator : token.IsOperator text) : token.is text = true := by
  simp [Token.is, operator.1, operator.2]

theorem IsKeyword.is (keyword : token.IsKeyword text) : token.is text = true := by
  simp [Token.is, keyword.1, keyword.2]

theorem text_of_is (spelled : token.is text = true) : token.text = text := by
  simp only [Token.is, Bool.and_eq_true, beq_iff_eq] at spelled
  exact spelled.2

theorem Proper.is_operator_iff (proper : token.Proper) (listed : text ∈ Lexeme.operators)
    (other : text ≠ ";") : token.is text = true ↔ token.IsOperator text := by
  constructor
  · intro spelled
    have same := text_of_is spelled
    exact ⟨proper.operator (same ▸ listed) (same ▸ other), same⟩
  · exact IsOperator.is

theorem Proper.is_keyword_iff (proper : token.Proper) (listed : text ∈ keywords) :
    token.is text = true ↔ token.IsKeyword text := by
  constructor
  · intro spelled
    have same := text_of_is spelled
    exact ⟨proper.keyword (same ▸ listed), same⟩
  · exact IsKeyword.is

theorem Proper.clear (proper : token.Proper) : token.Clear where
  operator _ listed other spelled := ((proper.is_operator_iff listed other).1 spelled).1

theorem Inner.readable (inner : token.Inner) : token.Readable := ⟨inner.toProper.clear, inner.inside⟩

theorem readable_of_isLiteralString (literal : token.isLiteralString = true) : token.Readable := by
  simp only [isLiteralString, Bool.or_eq_true, beq_iff_eq] at literal
  rcases literal with kind | kind
  · exact ⟨⟨fun text _ _ spelled => by simp [Token.is, kind] at spelled⟩, by simp [kind]⟩
  · exact ⟨⟨fun text _ _ spelled => by simp [Token.is, kind] at spelled⟩, by simp [kind]⟩

theorem Clear.is_operator_iff (clear : token.Clear) (listed : text ∈ Lexeme.operators)
    (other : text ≠ ";") : token.is text = true ↔ token.IsOperator text := by
  constructor
  · intro spelled
    exact ⟨clear.operator text listed other spelled, text_of_is spelled⟩
  · exact IsOperator.is

/-- A clear token of another kind is not taken for an operator. -/
theorem Clear.is_operator_eq_false (clear : token.Clear) (kind : token.kind ≠ .operator)
    (listed : text ∈ Lexeme.operators) (other : text ≠ ";") : token.is text = false := by
  rw [Bool.eq_false_iff]
  intro spelled
  exact kind ((clear.is_operator_iff listed other).1 spelled).1

theorem opens_iff : token.opens = true ↔
    token.IsOperator "(" ∨ token.IsOperator "[" ∨ token.IsOperator leftBrace := by
  simp only [opens, IsOperator, List.contains_eq_mem, List.mem_cons, List.not_mem_nil, or_false,
    Bool.and_eq_true, beq_iff_eq, decide_eq_true_eq, and_or_left]

theorem closes_iff : token.closes = true ↔
    token.IsOperator ")" ∨ token.IsOperator "]" ∨ token.IsOperator rightBrace := by
  simp only [closes, IsOperator, List.contains_eq_mem, List.mem_cons, List.not_mem_nil, or_false,
    Bool.and_eq_true, beq_iff_eq, decide_eq_true_eq, and_or_left]

end Token

/-- Tokens of the form that a text falls into. -/
structure Tokens.Proper (tokens : Tokens) : Prop where
  body : ∀ token ∈ tokens.body, token.Inner
  final : tokens.final.Ends

instance (tokens : Tokens) : Decidable tokens.Proper :=
  decidable_of_iff ((∀ token ∈ tokens.body, token.Inner) ∧ tokens.final.Ends)
    ⟨fun ⟨body, final⟩ => ⟨body, final⟩, fun ⟨body, final⟩ => ⟨body, final⟩⟩

end GoDto
