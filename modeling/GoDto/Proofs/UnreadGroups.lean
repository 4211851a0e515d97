import GoDto.Proofs.Continuation
import GoDto.Proofs.Nesting
import GoDto.Proofs.TypeTokens

/-!
Groups that are passed over unread. In an accepted text as many brackets are closed as are opened, and
wherever types are read, each is closed by its own kind. The groups in which kinds may be mixed are
listed here: the lengths of arrays, type parameters, the parameters and results of functions, the bodies
of interfaces, and all groups in declarations that are passed over.
-/

namespace GoDto

theorem Token.IsKeyword.bracketless {token : Token} {text : String} (keyword : token.IsKeyword text) :
    token.opens = false ∧ token.closes = false :=
  bracketless_of_kind (by simp [keyword.1])

/-- Balanced tokens, nested if the listed groups among them are. -/
structure NestedBy (tokens : List Token) (groups : List (List Token)) : Prop where
  balanced : Balanced tokens
  nested : Nested tokens ↔ ∀ group ∈ groups, Nested group

section
variable {tokens inner front back : List Token} {groups first second : List (List Token)}
  {token opener closer : Token}

theorem NestedBy.nil : NestedBy [] [] where
  balanced := balanced_nil
  nested := by simp [Nested, awaitedBehindAll]

theorem NestedBy.append (begins : NestedBy front first) (ends : NestedBy back second) :
    NestedBy (front ++ back) (first ++ second) where
  balanced := begins.balanced.append ends.balanced
  nested := by
    rw [nested_append begins.balanced, begins.nested, ends.nested]
    exact List.forall_mem_append.symm

theorem NestedBy.cons (plain : token.opens = false ∧ token.closes = false) (known : NestedBy tokens groups) :
    NestedBy (token :: tokens) groups where
  balanced := (settles_cons_other plain.1 plain.2).2 known.balanced
  nested := by rw [nested_cons plain.1 plain.2, known.nested]

/-- A group that is passed over is nested or not, whatever else is. -/
theorem NestedBy.group (group : Group opener front) (known : NestedBy back groups) :
    NestedBy (front ++ back) (front :: groups) where
  balanced := group.balanced.append known.balanced
  nested := by rw [nested_append group.balanced, known.nested, List.forall_mem_cons]

theorem NestedBy.pair (opens : opener.opens) (enclosed : NestedBy inner first) (closes : closer.closes)
    (kind : closer.text = closingOf opener.text) (known : NestedBy back second) :
    NestedBy (opener :: (inner ++ closer :: back)) (first ++ second) where
  balanced := by simpa using (balanced_enclose opens enclosed.balanced closes).append known.balanced
  nested := by
    rw [nested_pair opens enclosed.balanced closes, enclosed.nested, known.nested, List.forall_mem_append]
    simp [kind]

end

namespace Grammar

/-- The groups that are passed over unread where types are read, each told by what stands next to it. Any
other bracket is closed by one of its kind. -/
inductive UnreadInTypes : List Token → List (List Token) → Prop where
  | nil : UnreadInTypes [] []
  | token {token : Token} {rest : List Token} {groups : List (List Token)} :
      token.opens = false ∧ token.closes = false → (token.kind = .keyword → token.text ∈ ["chan", "struct"]) →
      UnreadInTypes rest groups → UnreadInTypes (token :: rest) groups
  | pair {opener closer : Token} {inner rest : List Token} {first later : List (List Token)} :
      opener.opens → UnreadInTypes inner first → closer.closes → closer.text = closingOf opener.text →
      UnreadInTypes rest later → UnreadInTypes (opener :: (inner ++ closer :: rest)) (first ++ later)
  | map {keyword opener closer : Token} {key rest : List Token} {first later : List (List Token)} :
      keyword.IsKeyword "map" → opener.IsOperator "[" → UnreadInTypes key first → closer.IsOperator "]" →
      UnreadInTypes rest later →
      UnreadInTypes (keyword :: opener :: (key ++ closer :: rest)) (first ++ later)
  /-- An array length in front of the type of the elements, or type parameters in front of a type. -/
  | length {opener next : Token} {size rest : List Token} {groups : List (List Token)} :
      opener.IsOperator "[" → Group opener size →
      (∃ head, TypeHead.Starts head next) ∨ next.IsOperator "=" → UnreadInTypes (next :: rest) groups →
      UnreadInTypes (size ++ next :: rest) (size :: groups)
  | function {keyword opener : Token} {parameters rest : List Token} {groups : List (List Token)} :
      keyword.IsKeyword "func" → opener.IsOperator "(" → Group opener parameters →
      UnreadInTypes rest groups → UnreadInTypes (keyword :: (parameters ++ rest)) (parameters :: groups)
  | functionWithResults {keyword opener other : Token} {parameters results rest : List Token}
      {groups : List (List Token)} : keyword.IsKeyword "func" → opener.IsOperator "(" →
      Group opener parameters → other.IsOperator "(" → Group other results → UnreadInTypes rest groups →
      UnreadInTypes (keyword :: (parameters ++ (results ++ rest))) (parameters :: results :: groups)
  | interface {keyword opener : Token} {body rest : List Token} {groups : List (List Token)} :
      keyword.IsKeyword "interface" → opener.IsOperator Token.leftBrace → Group opener body →
      UnreadInTypes rest groups → UnreadInTypes (keyword :: (body ++ rest)) (body :: groups)

/-- All groups of a declaration that is passed over, outside of other groups -/
inductive UnreadInSkipped : List Token → List (List Token) → Prop where
  | nil : UnreadInSkipped [] []
  | group {opener : Token} {front rest : List Token} {groups : List (List Token)} : Group opener front →
      UnreadInSkipped rest groups → UnreadInSkipped (front ++ rest) (front :: groups)
  | token {token : Token} {rest : List Token} {groups : List (List Token)} : IsPlain token →
      UnreadInSkipped rest groups → UnreadInSkipped (token :: rest) groups

/-- The groups of a file that are passed over unread -/
inductive UnreadInFile : List Token → List (List Token) → Prop where
  | nil : UnreadInFile [] []
  | token {token : Token} {rest : List Token} {groups : List (List Token)} :
      token.opens = false ∧ token.closes = false → (token.kind = .keyword → token.text = "package") →
      UnreadInFile rest groups → UnreadInFile (token :: rest) groups
  | types {keyword : Token} {own rest : List Token} {first later : List (List Token)} :
      keyword.IsKeyword "type" → UnreadInTypes own first → UnreadInFile rest later →
      UnreadInFile (keyword :: (own ++ rest)) (first ++ later)
  | other {keyword : Token} {word : String} {own rest : List Token} {first later : List (List Token)} :
      keyword.IsKeyword word → word ∈ ["import", "func", "var", "const"] → UnreadInSkipped own first →
      UnreadInFile rest later → UnreadInFile (keyword :: (own ++ rest)) (first ++ later)

section
variable {tokens front back rest own : List Token} {groups first second : List (List Token)} {token : Token}
  {type : GoType}

theorem UnreadInTypes.nestedBy (unread : UnreadInTypes tokens groups) : NestedBy tokens groups := by
  induction unread with
  | nil => exact .nil
  | token plain _ _ ih => exact .cons plain ih
  | pair opens _ closes kind _ inner later => exact .pair opens inner closes kind later
  | map keyword opens _ closes _ key later =>
    refine .cons keyword.bracketless ?_
    exact .pair (opens.opens (by decide)) key (closes.closes (by decide)) (by rw [closes.2, opens.2]; rfl) later
  | length _ size _ _ ih => exact .group size ih
  | function keyword _ parameters _ ih => exact .cons keyword.bracketless (.group parameters ih)
  | functionWithResults keyword _ parameters _ results _ ih =>
    exact .cons keyword.bracketless (.group parameters (.group results ih))
  | interface keyword _ body _ ih => exact .cons keyword.bracketless (.group body ih)

theorem UnreadInSkipped.nestedBy (unread : UnreadInSkipped tokens groups) : NestedBy tokens groups := by
  induction unread with
  | nil => exact .nil
  | group enclosed _ ih => exact .group enclosed ih
  | token plain _ ih => exact .cons ⟨plain.opens, plain.closes⟩ ih

theorem UnreadInFile.nestedBy (unread : UnreadInFile tokens groups) : NestedBy tokens groups := by
  induction unread with
  | nil => exact .nil
  | token plain _ _ ih => exact .cons plain ih
  | types keyword own _ ih => exact .cons keyword.bracketless (own.nestedBy.append ih)
  | other keyword _ own _ ih => exact .cons keyword.bracketless (own.nestedBy.append ih)

theorem UnreadInTypes.append (begins : UnreadInTypes front first) (ends : UnreadInTypes back second) :
    UnreadInTypes (front ++ back) (first ++ second) := by
  induction begins with
  | nil => exact ends
  | token plain word _ ih => exact .token plain word ih
  | pair opens inner closes kind _ _ ih => simpa using UnreadInTypes.pair opens inner closes kind ih
  | map keyword opens key closes _ _ ih => simpa using UnreadInTypes.map keyword opens key closes ih
  | length opens size next _ ih => simpa using UnreadInTypes.length opens size next ih
  | function keyword opens parameters _ ih => simpa using UnreadInTypes.function keyword opens parameters ih
  | functionWithResults keyword opens parameters opens' results _ ih =>
    simpa using UnreadInTypes.functionWithResults keyword opens parameters opens' results ih
  | interface keyword opens body _ ih => simpa using UnreadInTypes.interface keyword opens body ih

/-- Tokens that are read like those of types, but for some groups -/
def ReadInTypes (tokens : List Token) : Prop := ∃ groups, UnreadInTypes tokens groups

theorem readInTypes_nil : ReadInTypes [] := ⟨_, .nil⟩

theorem ReadInTypes.append (begins : ReadInTypes front) (ends : ReadInTypes back) :
    ReadInTypes (front ++ back) := by
  obtain ⟨_, begins⟩ := begins
  obtain ⟨_, ends⟩ := ends
  exact ⟨_, begins.append ends⟩

theorem ReadInTypes.cons (plain : token.opens = false ∧ token.closes = false) (kind : token.kind ≠ .keyword)
    (known : ReadInTypes tokens) : ReadInTypes (token :: tokens) := by
  obtain ⟨_, known⟩ := known
  exact ⟨_, .token plain (fun keyword => absurd keyword kind) known⟩

theorem ReadInTypes.cons_of_kind (kind : token.kind ≠ .operator) (other : token.kind ≠ .keyword)
    (known : ReadInTypes tokens) : ReadInTypes (token :: tokens) :=
  known.cons (Token.bracketless_of_kind kind) other

theorem ReadInTypes.cons_of_operator {text : String} (operator : token.IsOperator text)
    (other : text ∉ ["(", "[", Token.leftBrace, ")", "]", Token.rightBrace]) (known : ReadInTypes tokens) :
    ReadInTypes (token :: tokens) :=
  known.cons (operator.bracketless other) (by simp [operator.1])

theorem ReadInTypes.cons_of_keyword {text : String} (keyword : token.IsKeyword text)
    (listed : text ∈ ["chan", "struct"]) (known : ReadInTypes tokens) : ReadInTypes (token :: tokens) := by
  obtain ⟨_, known⟩ := known
  exact ⟨_, .token keyword.bracketless (fun _ => keyword.2 ▸ listed) known⟩

theorem ReadInTypes.enclose {opener closer : Token} {opening closing : String}
    (opens : opener.IsOperator opening) (listed : opening ∈ ["(", "[", Token.leftBrace])
    (enclosed : ReadInTypes tokens) (closes : closer.IsOperator closing) (same : closing = closingOf opening) :
    ReadInTypes (opener :: (tokens ++ [closer])) := by
  obtain ⟨_, enclosed⟩ := enclosed
  have closed : closing ∈ [")", "]", Token.rightBrace] := by
    simp only [List.mem_cons, List.not_mem_nil, or_false] at listed
    rcases listed with rfl | rfl | rfl <;> exact same ▸ by decide
  exact ⟨_, .pair (opens.opens listed) enclosed (closes.closes closed) (by rw [closes.2, opens.2, same]) .nil⟩

theorem Semicolons.readInTypes (blank : Semicolons tokens) : ReadInTypes tokens := by
  induction tokens with
  | nil => exact readInTypes_nil
  | cons semicolon tokens ih =>
    obtain ⟨kind, blank⟩ := semicolons_cons.1 blank
    exact (ih blank).cons_of_kind (by simp [kind]) (by simp [kind])

theorem Items.readInTypes {α : Type} {Item : List Token → α → Prop} {values : List α}
    (items : Items Item tokens values) (inner : ∀ front value, Item front value → ReadInTypes front) :
    ReadInTypes tokens := by
  induction items with
  | none blank => exact blank.readInTypes
  | last blank item => exact blank.readInTypes.append (inner _ _ item)
  | more blank item semicolon _ ih =>
    apply (blank.readInTypes.append (inner _ _ item)).append
    exact ih.cons_of_kind (by simp [semicolon]) (by simp [semicolon])

theorem Name.readInTypes (name : Name tokens type) : ReadInTypes tokens := by
  have word {first : Token} {rest : List Token} (identifier : first.kind = .identifier)
      (known : ReadInTypes rest) : ReadInTypes (first :: rest) :=
    known.cons_of_kind (by simp [identifier]) (by simp [identifier])
  cases name with
  | plain identifier => exact word identifier readInTypes_nil
  | qualified first dot selected =>
    exact word first (.cons_of_operator dot (by decide) (word selected readInTypes_nil))

theorem Names.readInTypes {names : List String} (derives : Names tokens names) : ReadInTypes tokens := by
  induction derives with
  | last identifier => exact readInTypes_nil.cons_of_kind (by simp [identifier]) (by simp [identifier])
  | more identifier comma _ ih =>
    have rest := ReadInTypes.cons_of_operator comma (by decide) ih
    exact rest.cons_of_kind (by simp [identifier]) (by simp [identifier])

theorem Tag.readInTypes {tag : Option String} (derives : Tag tokens tag) : ReadInTypes tokens := by
  cases derives with
  | none => exact readInTypes_nil
  | @some token literal =>
    have kind : token.kind = .string ∨ token.kind = .rawString := by
      simpa [Token.isLiteralString] using literal
    rcases kind with kind | kind <;> exact readInTypes_nil.cons_of_kind (by simp [kind]) (by simp [kind])

section
variable {Inner : List Token → GoType → Prop} (inner : ∀ front type, Inner front type → ReadInTypes front)
include inner

theorem Arguments.readInTypes {count : Nat} (arguments : Arguments Inner tokens count) :
    ReadInTypes tokens := by
  induction arguments with
  | none => exact readInTypes_nil
  | last type => exact inner _ _ type
  | more type comma _ ih => exact (inner _ _ type).append (.cons_of_operator comma (by decide) ih)

theorem FieldParts.readInTypes {names : List String} (parts : FieldParts Inner tokens names type) :
    ReadInTypes tokens := by
  cases parts with
  | pointer star type => exact .cons_of_operator star (by decide) (inner _ _ type)
  | embedded _ type => exact inner _ _ type
  | named names type => exact names.readInTypes.append (inner _ _ type)

theorem Field.readInTypes {field : FieldDecl GoType} (derives : Field Inner tokens field) :
    ReadInTypes tokens := by
  obtain ⟨parts, tag⟩ := derives
  exact (parts.readInTypes inner).append tag.readInTypes

/-- Where a type is read, no group but those listed is passed over. -/
theorem TypeRule.readInTypes (rule : TypeRule Inner tokens type)
    (starts : ∀ front type, Inner front type →
      ∃ first rest head, front = first :: rest ∧ TypeHead.Starts head first) :
    ReadInTypes tokens := by
  cases rule with
  | named name => exact name.readInTypes
  | generic name opens arguments closes =>
    exact name.readInTypes.append (.enclose opens (by decide) (arguments.readInTypes inner) closes rfl)
  | pointer star element => exact .cons_of_operator star (by decide) (inner _ _ element)
  | sequence opens length element =>
    obtain ⟨first, rest, head, rfl, starts⟩ := starts _ _ element
    obtain ⟨_, known⟩ := inner _ _ element
    exact ⟨_, .length opens length (.inl ⟨head, starts⟩) known⟩
  | parenthesized opens type closes => exact .enclose opens (by decide) (inner _ _ type) closes rfl
  | receiver arrow keyword element =>
    exact .cons_of_operator arrow (by decide) (.cons_of_keyword keyword (by decide) (inner _ _ element))
  | channel keyword element => exact .cons_of_keyword keyword (by decide) (inner _ _ element)
  | sender keyword arrow element =>
    exact .cons_of_keyword keyword (by decide) (.cons_of_operator arrow (by decide) (inner _ _ element))
  | map keyword opens key closes element =>
    obtain ⟨_, key⟩ := inner _ _ key
    obtain ⟨_, element⟩ := inner _ _ element
    exact ⟨_, .map keyword opens key closes element⟩
  | function keyword opens parameters result =>
    cases result with
    | none => exact ⟨_, .function keyword opens parameters .nil⟩
    | group opens' results =>
      exact ⟨_, by simpa using UnreadInTypes.functionWithResults keyword opens parameters opens' results .nil⟩
    | type type =>
      obtain ⟨_, type⟩ := inner _ _ type
      exact ⟨_, .function keyword opens parameters type⟩
  | interface keyword opens body => exact ⟨_, by simpa using UnreadInTypes.interface keyword opens body .nil⟩
  | struct keyword opens fields closes =>
    apply ReadInTypes.cons_of_keyword keyword (by decide)
    exact .enclose opens (by decide) (fields.readInTypes fun _ _ field => field.readInTypes inner) closes rfl

end

theorem TypeOf.readInTypes (derives : TypeOf tokens type) : ReadInTypes tokens := by
  refine @TypeOf.induction (fun tokens _ => ReadInTypes tokens) (fun tokens type rule => ?_) _ _ derives
  exact rule.readInTypes (fun _ _ known => known.2) fun _ _ known => known.1.starts

/-- Type parameters stand in front of a type or of the sign of an alias. -/
theorem Spec.readInTypes {decl : TypeDecl} (spec : Spec tokens decl) : ReadInTypes tokens := by
  obtain @⟨name, parameters, sign, rest, isAlias, type, identifier, listed, marked, derives⟩ := spec
  have behind : ReadInTypes (sign ++ rest) ∧ ∃ next later, sign ++ rest = next :: later ∧
      ((∃ head, TypeHead.Starts head next) ∨ next.IsOperator "=") := by
    cases marked with
    | absent =>
      obtain ⟨first, later, head, same, starts⟩ := derives.starts
      exact ⟨derives.readInTypes, first, later, same, .inl ⟨head, starts⟩⟩
    | present equals =>
      exact ⟨.cons_of_operator equals (by decide) derives.readInTypes, _, _, rfl, .inr equals⟩
  obtain ⟨⟨_, known⟩, next, later, same, starts⟩ := behind
  have all : ReadInTypes (parameters ++ (sign ++ rest)) := by
    cases listed with
    | none => exact ⟨_, known⟩
    | group opens enclosed =>
      rw [same] at known ⊢
      exact ⟨_, .length opens enclosed starts known⟩
  exact all.cons_of_kind (by simp [identifier]) (by simp [identifier])

theorem Skipped.unread (skipped : Skipped tokens) : ∃ groups, UnreadInSkipped tokens groups := by
  induction skipped with
  | nil => exact ⟨_, .nil⟩
  | group enclosed _ ih =>
    obtain ⟨_, rest⟩ := ih
    exact ⟨_, .group enclosed rest⟩
  | token plain _ ih =>
    obtain ⟨_, rest⟩ := ih
    exact ⟨_, .token plain rest⟩

/-- Tokens of a file, read but for some groups -/
def ReadInFile (tokens : List Token) : Prop := ∃ groups, UnreadInFile tokens groups

theorem ReadInFile.cons (kind : token.kind ∈ [.identifier, .semicolon, .endOfFile])
    (known : ReadInFile tokens) : ReadInFile (token :: tokens) := by
  obtain ⟨_, known⟩ := known
  have other : token.kind ≠ .operator ∧ token.kind ≠ .keyword := by
    constructor <;> intro same <;> simp [same] at kind
  exact ⟨_, .token (Token.bracketless_of_kind other.1) (fun keyword => absurd keyword other.2) known⟩

theorem Semicolons.readInFile (blank : Semicolons front) (known : ReadInFile rest) :
    ReadInFile (front ++ rest) := by
  induction front with
  | nil => exact known
  | cons semicolon front ih =>
    obtain ⟨kind, blank⟩ := semicolons_cons.1 blank
    exact (ih blank).cons (by simp [kind])

theorem Ending.readInFile (ended : Ending front rest) (known : ReadInFile rest) :
    ReadInFile (front ++ rest) := by
  cases ended with
  | semicolon kind => exact known.cons (by simp [kind])
  | endOfFile => exact known

theorem Decl.readInFile {decls : List TypeDecl} (derives : Decl front decls) (known : ReadInFile rest) :
    ReadInFile (front ++ rest) := by
  obtain ⟨_, known⟩ := known
  cases derives with
  | type keyword spec =>
    obtain ⟨_, own⟩ := spec.readInTypes
    exact ⟨_, .types keyword own known⟩
  | types keyword opens specs closes =>
    have inner := specs.readInTypes fun _ _ spec => spec.readInTypes
    obtain ⟨_, own⟩ := ReadInTypes.enclose opens (by decide) inner closes rfl
    exact ⟨_, .types keyword own known⟩
  | other keyword listed skipped =>
    obtain ⟨_, own⟩ := skipped.unread
    exact ⟨_, .other keyword listed own known⟩

theorem Decls.readInFile {decls : List TypeDecl} (derives : Decls tokens decls) : ReadInFile tokens := by
  induction derives with
  | none blank ends => exact blank.readInFile (ReadInFile.cons (by simp [ends]) ⟨_, .nil⟩)
  | more blank own ended _ ih => exact blank.readInFile (own.readInFile (ended.readInFile ih))

theorem File.readInFile {file : SourceFile} (derives : File tokens file) : ReadInFile tokens := by
  obtain @⟨_, _, _, _, name, _, blank, package, identifier, ended, decls⟩ := derives
  have clause : ReadInFile (name :: _) := (ended.readInFile decls.readInFile).cons (by simp [identifier])
  obtain ⟨_, rest⟩ := clause
  exact blank.readInFile ⟨_, .token package.bracketless (fun _ => package.2) rest⟩

end

end Grammar

namespace SourceFile

/-- The brackets of an accepted text are balanced, and they are nested if each group is that is passed over
unread. -/
theorem ofText_balanced {text : String} {file : SourceFile} (read : ofText text = .ok file) :
    ∃ tokens groups, Tokens.ofText text = .ok tokens ∧ Balanced tokens.toList ∧
      Grammar.UnreadInFile tokens.toList groups ∧
      (Nested tokens.toList ↔ ∀ group ∈ groups, Nested group) := by
  cases lexed : Tokens.ofText text with
  | error error => simp [ofText, lexed] at read
  | ok tokens =>
    have derives := grammar_of_ofTokens (Tokens.proper_of_ofText lexed) (ofTokens_of_ofText lexed read)
    obtain ⟨groups, unread⟩ := derives.readInFile
    exact ⟨tokens, groups, rfl, unread.nestedBy.balanced, unread, unread.nestedBy.nested⟩

/-- The length of an array, where a parenthesis is closed by a bracket -/
theorem ofText_balanced_of_length : ∃ tokens groups,
    Tokens.ofText "package p\ntype A struct \x7b B [(]]int \x7d\n" = .ok tokens ∧ Balanced tokens.toList ∧
      Grammar.UnreadInFile tokens.toList groups ∧ ∃ group ∈ groups, ¬Nested group := by
  have mixed : (Tokens.ofText "package p\ntype A struct \x7b B [(]]int \x7d\n").toOption.all
      (fun tokens => ¬Nested tokens.toList) = true := by
    decide +kernel
  have read : ofText "package p\ntype A struct \x7b B [(]]int \x7d\n" = .ok ⟨"p", [⟨"A", ⟨2, 6⟩, false,
      .struct [⟨["B"], ⟨2, 17⟩, .sequence (.name "int"), none⟩]⟩]⟩ := by
    decide +kernel
  obtain ⟨tokens, groups, lexed, balanced, unread, nested⟩ := ofText_balanced read
  refine ⟨tokens, groups, lexed, balanced, unread, ?_⟩
  rw [lexed] at mixed
  simpa [Except.toOption, nested] using mixed

/-- A function is passed over in which a parenthesis is closed by a bracket. -/
theorem ofText_of_mixed : ∃ tokens, Tokens.ofText "package p\nfunc f() \x7b (] \x7d\n" = .ok tokens ∧
    ofText "package p\nfunc f() \x7b (] \x7d\n" = .ok ⟨"p", []⟩ ∧ ¬Nested tokens.toList := by
  have mixed : (Tokens.ofText "package p\nfunc f() \x7b (] \x7d\n").toOption.any
      (fun tokens => ¬Nested tokens.toList) = true := by
    decide +kernel
  have read : ofText "package p\nfunc f() \x7b (] \x7d\n" = .ok ⟨"p", []⟩ := by decide +kernel
  cases lexed : Tokens.ofText "package p\nfunc f() \x7b (] \x7d\n" with
  | error error => simp [lexed, Except.toOption] at mixed
  | ok tokens => exact ⟨tokens, rfl, read, by simpa [lexed, Except.toOption] using mixed⟩

end SourceFile

end GoDto
