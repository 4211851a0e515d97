import GoDto.Proofs.Grammar

/-!
What the tokens of a type look like. The first of them tells the kind of the type, and all of them
together are balanced. So the brackets around a type are a group, and a reader that only counts
brackets stops where one that reads the type does.
-/

namespace GoDto

section
variable {token : Token} {tokens : List Token} {text : String}

theorem Token.bracketless_of_kind (kind : token.kind ≠ .operator) :
    token.opens = false ∧ token.closes = false := by
  simp [Token.opens, Token.closes, kind]

theorem Token.IsOperator.bracketless (operator : token.IsOperator text)
    (other : text ∉ ["(", "[", leftBrace, ")", "]", rightBrace]) :
    token.opens = false ∧ token.closes = false := by
  simp only [List.mem_cons, List.not_mem_nil, or_false, not_or] at other
  simp [Token.opens, Token.closes, operator.2, other]

theorem Token.IsOperator.opens (operator : token.IsOperator text)
    (listed : text ∈ ["(", "[", leftBrace]) : token.opens = true := by
  simp only [List.mem_cons, List.not_mem_nil, or_false] at listed
  apply Token.opens_iff.2
  rcases listed with rfl | rfl | rfl
  · exact .inl operator
  · exact .inr (.inl operator)
  · exact .inr (.inr operator)

theorem Token.IsOperator.closes (operator : token.IsOperator text)
    (listed : text ∈ [")", "]", rightBrace]) : token.closes = true := by
  simp only [List.mem_cons, List.not_mem_nil, or_false] at listed
  apply Token.closes_iff.2
  rcases listed with rfl | rfl | rfl
  · exact .inl operator
  · exact .inr (.inl operator)
  · exact .inr (.inr operator)

theorem Token.IsOperator.is_eq_false {other : String} (operator : token.IsOperator text)
    (differs : text ≠ other) : token.is other = false := by
  simp [Token.is, operator.2, differs]

theorem balanced_cons (plain : token.opens = false ∧ token.closes = false) :
    Balanced (token :: tokens) ↔ Balanced tokens :=
  settles_cons_other plain.1 plain.2

theorem balanced_cons_of_kind (kind : token.kind ≠ .operator) (balanced : Balanced tokens) :
    Balanced (token :: tokens) :=
  (balanced_cons (Token.bracketless_of_kind kind)).2 balanced

theorem TypeHead.Starts.is_eq_false {head : TypeHead} (starts : head.Starts token)
    (clear : token.Clear) (listed : text ∈ Lexeme.operators)
    (other : text ∉ ["*", "[", "(", "<-", ";"]) : token.is text = false := by
  simp only [List.mem_cons, List.not_mem_nil, or_false, not_or] at other
  obtain ⟨star, bracket, parenthesis, arrow, semicolon⟩ := other
  cases head with
  | name => exact clear.is_operator_eq_false (by simp [show token.kind = _ from starts]) listed semicolon
  | star => exact Token.IsOperator.is_eq_false starts (Ne.symm star)
  | bracket => exact Token.IsOperator.is_eq_false starts (Ne.symm bracket)
  | parenthesis => exact Token.IsOperator.is_eq_false starts (Ne.symm parenthesis)
  | arrow => exact Token.IsOperator.is_eq_false starts (Ne.symm arrow)
  | _ => exact clear.is_operator_eq_false (by simp [starts.1]) listed semicolon

/-- No type goes on with this token. -/
def Token.EndsType (token : Token) : Prop :=
  token.kind = .semicolon ∨ token.kind = .endOfFile ∨ token.isLiteralString ∨ token.closes ∨
    token.IsOperator ","

theorem Token.EndsType.is_eq_false (follows : token.EndsType) (clear : token.Clear)
    (listed : text ∈ Lexeme.operators) (other : text ∉ [")", "]", rightBrace, ",", ";"]) :
    token.is text = false := by
  simp only [List.mem_cons, List.not_mem_nil, or_false, not_or] at other
  obtain ⟨parenthesis, bracket, brace, comma, semicolon⟩ := other
  rcases follows with kind | kind | literal | closes | operator
  · exact clear.is_operator_eq_false (by simp [kind]) listed semicolon
  · exact clear.is_operator_eq_false (by simp [kind]) listed semicolon
  · refine clear.is_operator_eq_false (fun kind => ?_) listed semicolon
    simp [Token.isLiteralString, kind] at literal
  · rcases Token.closes_iff.1 closes with operator | operator | operator
    · exact operator.is_eq_false (Ne.symm parenthesis)
    · exact operator.is_eq_false (Ne.symm bracket)
    · exact operator.is_eq_false (Ne.symm brace)
  · exact operator.is_eq_false (Ne.symm comma)

theorem Token.EndsType.starts_none (follows : token.EndsType) : TypeHead.ofToken? token = none := by
  rcases follows with kind | kind | literal | closes | operator
  · simp [TypeHead.ofToken?, kind]
  · simp [TypeHead.ofToken?, kind]
  · cases kind : token.kind <;> simp [Token.isLiteralString, TypeHead.ofToken?, kind] at literal ⊢
  · rcases Token.closes_iff.1 closes with operator | operator | operator <;>
      simp [TypeHead.ofToken?, operator.1, operator.2, TypeHead.operators, List.lookup_cons,
        List.lookup_nil, rightBrace]
  · simp [TypeHead.ofToken?, operator.1, operator.2, TypeHead.operators, List.lookup_cons,
      List.lookup_nil]

theorem Token.EndsType.of_endsField (clear : token.Clear) (ends : token.endsField) :
    token.EndsType := by
  simp only [Token.endsField, Bool.or_eq_true, beq_iff_eq] at ends
  rcases ends with (brace | semicolon) | literal
  · have operator := (clear.is_operator_iff (by decide) (by decide)).1 brace
    exact .inr (.inr (.inr (.inl (operator.closes (by decide)))))
  · exact .inl semicolon
  · exact .inr (.inr (.inl literal))

theorem TypeHead.Starts.endsField_eq_false {head : TypeHead} (starts : head.Starts token)
    (clear : token.Clear) : token.endsField = false := by
  have brace : token.is Token.rightBrace = false :=
    starts.is_eq_false clear (by decide) (by decide)
  cases head <;> simp_all [Token.endsField, Starts, Token.IsOperator, Token.IsKeyword,
    Token.isLiteralString]

end

namespace Grammar

variable {α : Type} {Inner : List Token → GoType → Prop} {Item : List Token → α → Prop}
  {tokens : List Token} {type : GoType}

theorem TypeRule.starts (rule : TypeRule Inner tokens type) :
    ∃ first rest head, tokens = first :: rest ∧ TypeHead.Starts head first := by
  cases rule with
  | named name =>
    cases name with
    | plain identifier => exact ⟨_, _, .name, rfl, identifier⟩
    | qualified identifier => exact ⟨_, _, .name, rfl, identifier⟩
  | generic name =>
    cases name with
    | plain identifier => exact ⟨_, _, .name, rfl, identifier⟩
    | qualified identifier => exact ⟨_, _, .name, rfl, identifier⟩
  | pointer star => exact ⟨_, _, .star, rfl, star⟩
  | sequence opener length =>
    cases length
    exact ⟨_, _, .bracket, rfl, opener⟩
  | parenthesized opener => exact ⟨_, _, .parenthesis, rfl, opener⟩
  | receiver arrow => exact ⟨_, _, .arrow, rfl, arrow⟩
  | channel keyword => exact ⟨_, _, .channel, rfl, keyword⟩
  | sender keyword => exact ⟨_, _, .channel, rfl, keyword⟩
  | map keyword => exact ⟨_, _, .map, rfl, keyword⟩
  | function keyword => exact ⟨_, _, .function, rfl, keyword⟩
  | interface keyword => exact ⟨_, _, .interface, rfl, keyword⟩
  | struct keyword => exact ⟨_, _, .struct, rfl, keyword⟩

theorem TypeOf.starts (derives : TypeOf tokens type) :
    ∃ first rest head, tokens = first :: rest ∧ TypeHead.Starts head first := by
  obtain ⟨rule⟩ := derives
  exact rule.starts

theorem TypeOf.nonempty (derives : TypeOf tokens type) : tokens ≠ [] := by
  obtain ⟨first, rest, -, rfl, -⟩ := derives.starts
  exact List.cons_ne_nil first rest

theorem Name.balanced (name : Name tokens type) : Balanced tokens := by
  apply balanced_of_forall
  cases name with
  | plain identifier => simp [Token.bracketless_of_kind, identifier]
  | qualified first dot selected =>
    have between := dot.bracketless (by decide)
    simp [Token.bracketless_of_kind, first, selected, between]

theorem Names.balanced {names : List String} (derives : Names tokens names) : Balanced tokens := by
  induction derives with
  | last identifier =>
    apply balanced_cons_of_kind (by simp [identifier])
    exact balanced_nil
  | more identifier comma _ ih =>
    apply balanced_cons_of_kind (by simp [identifier])
    exact (balanced_cons (comma.bracketless (by decide))).2 ih

theorem Semicolons.balanced (blank : Semicolons tokens) : Balanced tokens :=
  balanced_of_forall fun token member => Token.bracketless_of_kind (by simp [blank token member])

theorem Tag.balanced {tag : Option String} (derives : Tag tokens tag) : Balanced tokens := by
  cases derives with
  | none => exact balanced_nil
  | @some token literal =>
    refine balanced_cons_of_kind (fun kind => ?_) balanced_nil
    simp [Token.isLiteralString, kind] at literal

theorem Items.balanced {values : List α} (items : Items Item tokens values)
    (inner : ∀ front value, Item front value → Balanced front) : Balanced tokens := by
  induction items with
  | none blank => exact blank.balanced
  | last blank item => exact blank.balanced.append (inner _ _ item)
  | more blank item semicolon _ ih =>
    apply (blank.balanced.append (inner _ _ item)).append
    exact balanced_cons_of_kind (by simp [semicolon]) ih

theorem Arguments.balanced {count : Nat} (arguments : Arguments Inner tokens count)
    (inner : ∀ front type, Inner front type → Balanced front) : Balanced tokens := by
  induction arguments with
  | none => exact balanced_nil
  | last type => exact inner _ _ type
  | more type comma _ ih =>
    apply (inner _ _ type).append
    exact (balanced_cons (comma.bracketless (by decide))).2 ih

theorem FieldParts.balanced {names : List String} (parts : FieldParts Inner tokens names type)
    (inner : ∀ front type, Inner front type → Balanced front) : Balanced tokens := by
  cases parts with
  | pointer star type => exact (balanced_cons (star.bracketless (by decide))).2 (inner _ _ type)
  | embedded _ type => exact inner _ _ type
  | named names type => exact names.balanced.append (inner _ _ type)

theorem FieldParts.starts {first : Token} {rest : List Token} {names : List String}
    (parts : FieldParts Inner (first :: rest) names type) :
    first.IsOperator "*" ∨ first.kind = .identifier := by
  generalize same : first :: rest = tokens at parts
  cases parts with
  | pointer star =>
    cases same
    exact .inl star
  | embedded identifier =>
    cases same
    exact .inr identifier
  | named names =>
    cases names with
    | last identifier => exact .inr ((List.cons.inj same).1 ▸ identifier)
    | more identifier => exact .inr ((List.cons.inj same).1 ▸ identifier)

theorem Field.balanced {field : FieldDecl GoType} (derives : Field Inner tokens field)
    (inner : ∀ front type, Inner front type → Balanced front) : Balanced tokens := by
  obtain ⟨parts, tag⟩ := derives
  exact (parts.balanced inner).append tag.balanced

theorem TypeRule.balanced (rule : TypeRule Inner tokens type)
    (inner : ∀ front type, Inner front type → Balanced front) : Balanced tokens := by
  have word : ∀ {keyword : Token} {text : String} {rest : List Token}, keyword.IsKeyword text →
      Balanced rest → Balanced (keyword :: rest) := by
    intro keyword text rest spelled balanced
    exact balanced_cons_of_kind (by simp [spelled.1]) balanced
  cases rule with
  | named name => exact name.balanced
  | generic name opener arguments closer =>
    apply name.balanced.append
    exact balanced_enclose (opener.opens (by decide)) (arguments.balanced inner)
      (closer.closes (by decide))
  | pointer star element =>
    exact (balanced_cons (star.bracketless (by decide))).2 (inner _ _ element)
  | sequence _ length element => exact length.balanced.append (inner _ _ element)
  | parenthesized opener type closer =>
    exact balanced_enclose (opener.opens (by decide)) (inner _ _ type) (closer.closes (by decide))
  | receiver arrow keyword element =>
    exact (balanced_cons (arrow.bracketless (by decide))).2 (word keyword (inner _ _ element))
  | channel keyword element => exact word keyword (inner _ _ element)
  | sender keyword arrow element =>
    exact word keyword ((balanced_cons (arrow.bracketless (by decide))).2 (inner _ _ element))
  | map keyword opener key closer element =>
    have enclosed := balanced_enclose (opener.opens (by decide)) (inner _ _ key)
      (closer.closes (by decide))
    simpa using word keyword (enclosed.append (inner _ _ element))
  | function keyword _ parameters result =>
    apply word keyword
    apply parameters.balanced.append
    cases result with
    | none => exact balanced_nil
    | group _ group => exact group.balanced
    | type type => exact inner _ _ type
  | interface keyword _ body => exact word keyword body.balanced
  | struct keyword opener fields closer =>
    apply word keyword
    exact balanced_enclose (opener.opens (by decide))
      (fields.balanced fun _ _ field => field.balanced inner) (closer.closes (by decide))

theorem TypeOf.balanced (derives : TypeOf tokens type) : Balanced tokens := by
  refine @TypeOf.induction (fun tokens _ => Balanced tokens) (fun tokens type rule => ?_) _ _ derives
  exact rule.balanced fun _ _ known => known.2

/-- A type that starts with a parenthesis ends with the one that closes it. -/
theorem TypeOf.group_of_parenthesis {opener : Token} {rest : List Token}
    (derives : TypeOf (opener :: rest) type) (opens : opener.IsOperator "(") :
    Group opener (opener :: rest) := by
  obtain ⟨rule⟩ := derives
  generalize same : opener :: rest = tokens at rule
  cases rule with
  | parenthesized _ inner closer =>
    cases same
    exact .intro (opens.opens (by decide)) inner.balanced (closer.closes (by decide))
  | named name => cases name <;> cases same <;> simp_all [Token.IsOperator]
  | generic name => cases name <;> cases same <;> simp_all [Token.IsOperator]
  | sequence opener length => cases length; cases same; simp_all [Token.IsOperator]
  | _ => cases same; simp_all [Token.IsOperator, Token.IsKeyword]

/-- What comes behind the arrow at the start of a type is a type too. -/
theorem TypeRule.of_arrow {arrow : Token} {rest : List Token}
    (derives : TypeRule Inner (arrow :: rest) type) (spelled : arrow.IsOperator "<-") :
    TypeRule Inner rest type := by
  generalize same : arrow :: rest = tokens at derives
  cases derives with
  | receiver _ keyword element =>
    cases same
    exact .channel keyword element
  | named name => cases name <;> cases same <;> simp_all [Token.IsOperator]
  | generic name => cases name <;> cases same <;> simp_all [Token.IsOperator]
  | sequence opener length => cases length; cases same; simp_all [Token.IsOperator]
  | _ => cases same; simp_all [Token.IsOperator, Token.IsKeyword]

/-- A type that starts with a bracket has a length, which may be empty, and an element type. -/
theorem TypeOf.sequence_cases {opener : Token} {rest : List Token}
    (derives : TypeOf (opener :: rest) type) (opens : opener.IsOperator "[") :
    ∃ length later element, opener :: rest = length ++ later ∧ Group opener length ∧
      TypeOf later element := by
  obtain ⟨rule⟩ := derives
  generalize same : opener :: rest = tokens at rule
  cases rule with
  | @sequence other length later element _ group derives =>
    obtain rfl : opener = other := by
      cases group
      exact (List.cons.inj same).1
    exact ⟨length, later, element, rfl, group, derives⟩
  | named name => cases name <;> cases same <;> simp_all [Token.IsOperator]
  | generic name => cases name <;> cases same <;> simp_all [Token.IsOperator]
  | _ => cases same; simp_all [Token.IsOperator, Token.IsKeyword]

/-- Behind the identifier at the start of a type come a dot, type arguments, or nothing. -/
theorem TypeOf.named_cases {first : Token} {rest : List Token}
    (derives : TypeOf (first :: rest) type) (identifier : first.kind = .identifier) :
    rest = [] ∨ (∃ dot later, rest = dot :: later ∧ dot.IsOperator ".") ∨
      ∃ opener, opener.IsOperator "[" ∧ Group opener rest := by
  obtain ⟨rule⟩ := derives
  generalize same : first :: rest = tokens at rule
  cases rule with
  | named name =>
    cases name with
    | plain =>
      cases same
      exact .inl rfl
    | qualified _ dot =>
      cases same
      exact .inr (.inl ⟨_, _, rfl, dot⟩)
  | generic name opens arguments closes =>
    cases name with
    | plain =>
      cases same
      have balanced := arguments.balanced fun _ _ derives => derives.balanced
      have group := Group.intro (opens.opens (by decide)) balanced (closes.closes (by decide))
      exact .inr (.inr ⟨_, opens, group⟩)
    | qualified _ dot =>
      cases same
      exact .inr (.inl ⟨_, _, rfl, dot⟩)
  | sequence opener length => cases length; cases same; simp_all [Token.IsOperator]
  | _ => cases same; simp_all [Token.IsOperator, Token.IsKeyword]

/-- Whether a type starts like a list of type parameters does not depend on what follows it. -/
theorem TypeOf.startsParameters {left : List Token} (derives : TypeOf tokens type)
    (starts : StartsParameters (tokens ++ left)) : StartsParameters tokens := by
  obtain ⟨first, rest, -, rfl, -⟩ := derives.starts
  obtain ⟨opener, _, _, _, same, opens, _⟩ := id starts
  obtain rfl : first = opener := (List.cons.inj same).1
  obtain ⟨length, later, -, whole, group, -⟩ := derives.sequence_cases opens
  rw [whole, List.append_assoc] at starts
  rw [whole]
  exact (StartsParameters.of_group group starts).2.append later

theorem Decl.first {decls : List TypeDecl} (derives : Decl tokens decls) :
    ∃ first rest, tokens = first :: rest ∧ first.kind = .keyword := by
  cases derives with
  | type spelled => exact ⟨_, _, rfl, spelled.1⟩
  | types spelled => exact ⟨_, _, rfl, spelled.1⟩
  | other spelled => exact ⟨_, _, rfl, spelled.1⟩

/-- The last token is no semicolon. -/
def Finished (tokens : List Token) : Prop :=
  ∃ front last, tokens = front ++ [last] ∧ last.kind ≠ .semicolon

theorem Finished.append {back : List Token} (finished : Finished back) (front : List Token) :
    Finished (front ++ back) := by
  obtain ⟨before, last, rfl, kind⟩ := finished
  exact ⟨front ++ before, last, (List.append_assoc ..).symm, kind⟩

theorem Finished.cons {back : List Token} (finished : Finished back) (token : Token) :
    Finished (token :: back) :=
  finished.append [token]

theorem finished_singleton {token : Token} (kind : token.kind ≠ .semicolon) : Finished [token] :=
  ⟨[], token, rfl, kind⟩

theorem finished_of_group {opener : Token} (group : Group opener tokens) : Finished tokens := by
  obtain ⟨-, -, closes⟩ := group
  refine ((finished_singleton fun kind => ?_).append _).cons _
  simp [Token.closes, kind] at closes

theorem TypeRule.finished (rule : TypeRule Inner tokens type)
    (inner : ∀ front type, Inner front type → Finished front) : Finished tokens := by
  have bracket : ∀ {closer : Token} {text : String}, closer.IsOperator text → Finished [closer] :=
    fun operator => finished_singleton (by simp [operator.1])
  cases rule with
  | named name =>
    cases name with
    | plain identifier => exact finished_singleton (by simp [identifier])
    | qualified _ _ selected => exact ((finished_singleton (by simp [selected])).cons _).cons _
  | generic _ _ _ closer => exact (((bracket closer).append _).cons _).append _
  | pointer _ element => exact (inner _ _ element).cons _
  | sequence _ _ element => exact (inner _ _ element).append _
  | parenthesized _ _ closer => exact ((bracket closer).append _).cons _
  | receiver _ _ element => exact ((inner _ _ element).cons _).cons _
  | channel _ element => exact (inner _ _ element).cons _
  | sender _ _ element => exact ((inner _ _ element).cons _).cons _
  | map _ _ _ _ element => exact ((((inner _ _ element).cons _).append _).cons _).cons _
  | function _ _ parameters result =>
    cases result with
    | none => simpa using (finished_of_group parameters).cons _
    | group _ group => exact ((finished_of_group group).append _).cons _
    | type type => exact ((inner _ _ type).append _).cons _
  | interface _ _ body => exact (finished_of_group body).cons _
  | struct _ _ _ closer => exact (((bracket closer).append _).cons _).cons _

theorem TypeOf.finished (derives : TypeOf tokens type) : Finished tokens := by
  refine @TypeOf.induction (fun tokens _ => Finished tokens) (fun tokens type rule => ?_) _ _ derives
  exact rule.finished fun _ _ known => known.2

theorem Skipped.finished (skipped : Skipped tokens) : tokens = [] ∨ Finished tokens := by
  induction skipped with
  | nil => exact .inl rfl
  | group enclosed _ ih =>
    rcases ih with rfl | finished
    · exact .inr (by simpa using finished_of_group enclosed)
    · exact .inr (finished.append _)
  | token plain _ ih =>
    rcases ih with rfl | finished
    · exact .inr (finished_singleton plain.semicolon)
    · exact .inr (finished.cons _)

theorem Decl.finished {decls : List TypeDecl} (derives : Decl tokens decls) : Finished tokens := by
  cases derives with
  | type _ spec =>
    obtain ⟨_, _, _, derives⟩ := spec
    exact (((derives.finished.append _).append _).cons _).cons _
  | types _ _ _ closer =>
    exact (((finished_singleton (by simp [closer.1])).append _).cons _).cons _
  | other spelled _ skipped =>
    rcases skipped.finished with rfl | finished
    · exact finished_singleton (by simp [spelled.1])
    · exact finished.cons _

theorem ending_cases {final : Token} {left ending : List Token}
    (ended : Ending ending (left ++ [final])) :
    (∃ semicolon : Token, ending = [semicolon] ∧ semicolon.kind = .semicolon) ∨
      ending = [] ∧ (left.headD final).kind = .endOfFile := by
  generalize same : left ++ [final] = rest at ended
  cases ended with
  | semicolon kind => exact .inl ⟨_, rfl, kind⟩
  | @endOfFile token _ kind =>
    refine .inr ⟨rfl, ?_⟩
    have first : left.headD final = token := by
      cases left <;> exact (List.cons.inj same).1
    exact first ▸ kind

theorem concat_of_decls {decls : List TypeDecl} (derives : Decls tokens decls) :
    ∃ front last, tokens = front ++ [last] := by
  induction derives with
  | none => exact ⟨_, _, rfl⟩
  | @more blank own ending _ _ _ _ _ _ _ ih =>
    obtain ⟨front, last, rfl⟩ := ih
    exact ⟨blank ++ (own ++ (ending ++ front)), last, by simp⟩

end Grammar

end GoDto
