import GoDto.Proofs.Brackets
import GoDto.Syntax.File

/-!
The grammar of source files, as far as they are read. A relation between tokens and a tree stands
for each nonterminal, and a constructor for each production. Nothing here is read from left to
right: where the grammar leaves a choice, what follows decides it.
-/

namespace GoDto

namespace TypeHead

/-- The token that a type of this kind starts with -/
def Starts : TypeHead → Token → Prop
  | name, token => token.kind = .identifier
  | star, token => token.IsOperator "*"
  | bracket, token => token.IsOperator "["
  | parenthesis, token => token.IsOperator "("
  | arrow, token => token.IsOperator "<-"
  | channel, token => token.IsKeyword "chan"
  | map, token => token.IsKeyword "map"
  | function, token => token.IsKeyword "func"
  | interface, token => token.IsKeyword "interface"
  | struct, token => token.IsKeyword "struct"

theorem ofToken?_eq_some_iff {token : Token} {head : TypeHead} :
    ofToken? token = some head ↔ head.Starts token := by
  obtain ⟨kind, text, position⟩ := token
  constructor
  · intro found
    unfold ofToken? at found
    cases kind with
    | identifier =>
      cases found
      rfl
    | operator =>
      simp only [operators, List.lookup_cons, List.lookup_nil] at found
      repeat' split at found
      all_goals simp_all [Starts, Token.IsOperator]
      all_goals (subst found; simp)
    | keyword =>
      simp only [keywords, List.lookup_cons, List.lookup_nil] at found
      repeat' split at found
      all_goals simp_all [Starts, Token.IsKeyword]
      all_goals (subst found; simp)
    | _ => cases found
  · intro starts
    cases head with
    | name => simp_all [Starts, ofToken?]
    | _ =>
      obtain ⟨rfl, rfl⟩ := starts
      rfl

end TypeHead

namespace DeclHead

/-- The token that a declaration of this kind starts with -/
def Starts : DeclHead → Token → Prop
  | type, token => token.IsKeyword "type"
  | other, token => ∃ word ∈ ["import", "func", "var", "const"], token.IsKeyword word

theorem ofToken?_eq_some_iff {token : Token} {head : DeclHead} :
    ofToken? token = some head ↔ head.Starts token := by
  obtain ⟨kind, text, position⟩ := token
  by_cases keyword : kind = .keyword
  · subst keyword
    constructor
    · intro found
      simp only [ofToken?, keywords, List.lookup_cons, List.lookup_nil] at found
      repeat' split at found
      all_goals simp_all [Starts, Token.IsKeyword]
      all_goals (subst found; simp)
    · intro starts
      cases head with
      | type =>
        obtain ⟨-, rfl⟩ := starts
        rfl
      | other =>
        obtain ⟨word, listed, -, rfl⟩ := starts
        simp only [List.mem_cons, List.not_mem_nil, or_false] at listed
        rcases listed with rfl | rfl | rfl | rfl <;> rfl
  · cases head <;> simp [ofToken?, Starts, Token.IsKeyword, keyword]

end DeclHead

namespace Grammar

def Semicolons (tokens : List Token) : Prop := ∀ token ∈ tokens, token.kind = .semicolon

theorem semicolons_nil : Semicolons [] := by simp [Semicolons]

theorem semicolons_cons {token : Token} {tokens : List Token} :
    Semicolons (token :: tokens) ↔ token.kind = .semicolon ∧ Semicolons tokens :=
  List.forall_mem_cons

theorem Semicolons.append {front back : List Token} (first : Semicolons front) (second : Semicolons back) :
    Semicolons (front ++ back) :=
  List.forall_mem_append.2 ⟨first, second⟩

/-- `;* [Item (;+ Item)* ;*]` -/
inductive Items {α : Type} (Item : List Token → α → Prop) : List Token → List α → Prop where
  | none {blank : List Token} : Semicolons blank → Items Item blank []
  | last {blank front : List Token} {value : α} : Semicolons blank → Item front value →
      Items Item (blank ++ front) [value]
  | more {blank front rest : List Token} {semicolon : Token} {value : α} {later : List α} :
      Semicolons blank → Item front value → semicolon.kind = .semicolon → Items Item rest later →
      Items Item (blank ++ front ++ semicolon :: rest) (value :: later)

/-- `[Type (, Type)* [,]]`, counted -/
inductive Arguments (Inner : List Token → GoType → Prop) : List Token → Nat → Prop where
  | none : Arguments Inner [] 0
  | last {front : List Token} {type : GoType} : Inner front type → Arguments Inner front 1
  | more {front rest : List Token} {comma : Token} {type : GoType} {count : Nat} :
      Inner front type → comma.IsOperator "," → Arguments Inner rest count →
      Arguments Inner (front ++ comma :: rest) (count + 1)

/-- `Ident [. Ident]` -/
inductive Name : List Token → GoType → Prop where
  | plain {first : Token} : first.kind = .identifier → Name [first] (.name first.text)
  | qualified {first dot selected : Token} : first.kind = .identifier → dot.IsOperator "." →
      selected.kind = .identifier →
      Name [first, dot, selected] (.qualified (.name first.text) selected.text)

/-- `Ident (, Ident)*` -/
inductive Names : List Token → List String → Prop where
  | last {first : Token} : first.kind = .identifier → Names [first] [first.text]
  | more {first comma : Token} {rest : List Token} {later : List String} :
      first.kind = .identifier → comma.IsOperator "," → Names rest later →
      Names (first :: comma :: rest) (first.text :: later)

/-- `[String | RawString]` -/
inductive Tag : List Token → Option String → Prop where
  | none : Tag [] none
  | some {token : Token} : token.isLiteralString → Tag [token] (some token.text)

/-- The names of a field and its type: `* Type`, `Name`, a generic instance, or names and a type -/
inductive FieldParts (Inner : List Token → GoType → Prop) :
    List Token → List String → GoType → Prop where
  | pointer {star : Token} {rest : List Token} {element : GoType} : star.IsOperator "*" →
      Inner rest element → FieldParts Inner (star :: rest) [] (.pointer element)
  | embedded {first : Token} {rest : List Token} {type : GoType} : first.kind = .identifier →
      Inner (first :: rest) type → FieldParts Inner (first :: rest) [] type
  | named {front rest : List Token} {names : List String} {type : GoType} : Names front names →
      Inner rest type → FieldParts Inner (front ++ rest) names type

inductive Field (Inner : List Token → GoType → Prop) :
    List Token → FieldDecl GoType → Prop where
  | intro {first : Token} {rest ending : List Token} {names : List String} {type : GoType}
      {tag : Option String} : FieldParts Inner (first :: rest) names type → Tag ending tag →
      Field Inner (first :: rest ++ ending) ⟨names, first.position, type, tag⟩

/-- What a function type may give back -/
inductive Result (Inner : List Token → GoType → Prop) : List Token → Prop where
  | none : Result Inner []
  | group {opener : Token} {tokens : List Token} : opener.IsOperator "(" → Group opener tokens →
      Result Inner tokens
  | type {tokens : List Token} {type : GoType} : Inner tokens type → Result Inner tokens

/-- The productions of a type, over what derives the types inside it -/
inductive TypeRule (Inner : List Token → GoType → Prop) : List Token → GoType → Prop where
  | named {tokens : List Token} {type : GoType} : Name tokens type → TypeRule Inner tokens type
  | generic {front inner : List Token} {opener closer : Token} {type : GoType} {count : Nat} :
      Name front type → opener.IsOperator "[" → Arguments Inner inner count →
      closer.IsOperator "]" →
      TypeRule Inner (front ++ opener :: (inner ++ [closer]))
        (.outline (if count = 1 then .instanceOfOne else .instanceOfMany))
  | pointer {star : Token} {rest : List Token} {element : GoType} : star.IsOperator "*" →
      Inner rest element → TypeRule Inner (star :: rest) (.pointer element)
  | sequence {opener : Token} {length rest : List Token} {element : GoType} :
      opener.IsOperator "[" → Group opener length → Inner rest element →
      TypeRule Inner (length ++ rest) (.sequence element)
  | parenthesized {opener closer : Token} {inner : List Token} {type : GoType} :
      opener.IsOperator "(" → Inner inner type → closer.IsOperator ")" →
      TypeRule Inner (opener :: (inner ++ [closer])) (.outline .parenthesized)
  | receiver {arrow keyword : Token} {rest : List Token} {type : GoType} :
      arrow.IsOperator "<-" → keyword.IsKeyword "chan" → Inner rest type →
      TypeRule Inner (arrow :: keyword :: rest) (.outline .channel)
  | channel {keyword : Token} {rest : List Token} {type : GoType} : keyword.IsKeyword "chan" →
      Inner rest type → TypeRule Inner (keyword :: rest) (.outline .channel)
  | sender {keyword arrow : Token} {rest : List Token} {type : GoType} :
      keyword.IsKeyword "chan" → arrow.IsOperator "<-" → Inner rest type →
      TypeRule Inner (keyword :: arrow :: rest) (.outline .channel)
  | map {keyword opener closer : Token} {key rest : List Token} {keyType type : GoType} :
      keyword.IsKeyword "map" → opener.IsOperator "[" → Inner key keyType →
      closer.IsOperator "]" → Inner rest type →
      TypeRule Inner (keyword :: opener :: (key ++ closer :: rest)) (.outline .map)
  | function {keyword opener : Token} {parameters result : List Token} :
      keyword.IsKeyword "func" → opener.IsOperator "(" → Group opener parameters →
      Result Inner result →
      TypeRule Inner (keyword :: (parameters ++ result)) (.outline .function)
  | interface {keyword opener : Token} {body : List Token} : keyword.IsKeyword "interface" →
      opener.IsOperator Token.leftBrace → Group opener body →
      TypeRule Inner (keyword :: body) (.outline .interface)
  | struct {keyword opener closer : Token} {inner : List Token}
      {fields : List (FieldDecl GoType)} : keyword.IsKeyword "struct" →
      opener.IsOperator Token.leftBrace → Items (Field Inner) inner fields →
      closer.IsOperator Token.rightBrace →
      TypeRule Inner (keyword :: opener :: (inner ++ [closer])) (.struct fields)

/-- Tokens that derive a type by finitely many productions -/
inductive TypeOf : List Token → GoType → Prop where
  | intro {tokens : List Token} {type : GoType} : TypeRule TypeOf tokens type → TypeOf tokens type

/-- What holds of a type if it holds of the types inside it holds of every type. -/
theorem TypeOf.induction {Holds : List Token → GoType → Prop}
    (step : ∀ tokens type,
      TypeRule (fun tokens type => TypeOf tokens type ∧ Holds tokens type) tokens type →
      Holds tokens type) {tokens : List Token} {type : GoType} (derives : TypeOf tokens type) :
    Holds tokens type := by
  let Known : List Token → GoType → Prop := fun tokens type => TypeOf tokens type ∧ Holds tokens type
  exact @TypeOf.rec (fun tokens type _ => Holds tokens type)
    (fun tokens type _ => TypeRule Known tokens type)
    (fun tokens count _ => Arguments Known tokens count)
    (fun tokens _ => Result Known tokens)
    (fun tokens fields _ => Items (Field Known) tokens fields)
    (fun tokens field _ => Field Known tokens field)
    (fun tokens names type _ => FieldParts Known tokens names type)
    (fun _ rule => step _ _ rule)
    (fun name => .named name)
    (fun name opener _ closer arguments => .generic name opener arguments closer)
    (fun star derives holds => .pointer star ⟨derives, holds⟩)
    (fun opener length derives holds => .sequence opener length ⟨derives, holds⟩)
    (fun opener derives closer holds => .parenthesized opener ⟨derives, holds⟩ closer)
    (fun arrow keyword derives holds => .receiver arrow keyword ⟨derives, holds⟩)
    (fun keyword derives holds => .channel keyword ⟨derives, holds⟩)
    (fun keyword arrow derives holds => .sender keyword arrow ⟨derives, holds⟩)
    (fun keyword opener key closer derives keyHolds holds =>
      .map keyword opener ⟨key, keyHolds⟩ closer ⟨derives, holds⟩)
    (fun keyword opener parameters _ result => .function keyword opener parameters result)
    (fun keyword opener body => .interface keyword opener body)
    (fun keyword opener _ closer fields => .struct keyword opener fields closer)
    .none
    (fun derives holds => .last ⟨derives, holds⟩)
    (fun derives comma _ holds later => .more ⟨derives, holds⟩ comma later)
    .none
    (fun opener group => .group opener group)
    (fun derives holds => .type ⟨derives, holds⟩)
    (fun blank => .none blank)
    (fun blank _ field => .last blank field)
    (fun blank _ semicolon _ field later => .more blank field semicolon later)
    (fun _ tag parts => .intro parts tag)
    (fun star derives holds => .pointer star ⟨derives, holds⟩)
    (fun first derives holds => .embedded first ⟨derives, holds⟩)
    (fun names derives holds => .named names ⟨derives, holds⟩)
    tokens type derives

/-- Tokens that start like a list of type parameters, as far as the first three of them tell -/
def StartsParameters (tokens : List Token) : Prop :=
  ∃ opener parameter next rest, tokens = opener :: parameter :: next :: rest ∧
    opener.IsOperator "[" ∧ parameter.kind = .identifier ∧ next.followsTypeParameter

theorem StartsParameters.append {tokens : List Token} (starts : StartsParameters tokens)
    (later : List Token) : StartsParameters (tokens ++ later) := by
  obtain ⟨opener, parameter, next, rest, rfl, parts⟩ := starts
  exact ⟨opener, parameter, next, rest ++ later, rfl, parts⟩

/-- The first three tokens of a list of type parameters all stand in its brackets. -/
theorem StartsParameters.of_group {opener : Token} {tokens later : List Token}
    (group : Group opener tokens) (starts : StartsParameters (tokens ++ later)) :
    opener.IsOperator "[" ∧ StartsParameters tokens := by
  obtain ⟨first, parameter, next, rest, same, opens, kind, follows⟩ := starts
  obtain @⟨closer, inner, _, _, closes⟩ := group
  rcases inner with _ | ⟨second, _ | ⟨third, inner⟩⟩
  · exfalso
    obtain ⟨-, rfl, -⟩ : opener = first ∧ closer = parameter ∧ later = next :: rest := by
      simpa using same
    simp [Token.closes, kind] at closes
  · obtain ⟨rfl, rfl, rfl, -⟩ : opener = first ∧ second = parameter ∧ closer = next ∧ later = rest := by
      simpa using same
    exact ⟨opens, _, _, _, _, rfl, opens, kind, follows⟩
  · obtain ⟨rfl, rfl, rfl, -⟩ : opener = first ∧ second = parameter ∧ third = next ∧
        inner ++ closer :: later = rest := by
      simpa using same
    exact ⟨opens, _, _, _, _, rfl, opens, kind, follows⟩

/-- A list of type parameters in front of other tokens, or none where these start like none -/
inductive Parameters : List Token → List Token → Prop where
  | none {rest : List Token} : ¬StartsParameters rest → Parameters [] rest
  | group {opener : Token} {tokens rest : List Token} : opener.IsOperator "[" →
      Group opener tokens → StartsParameters tokens → Parameters tokens rest

theorem Parameters.restrict {front rest later : List Token}
    (parameters : Parameters front (rest ++ later)) : Parameters front rest := by
  cases parameters with
  | none absent => exact .none fun starts => absent (starts.append later)
  | group opens enclosed starts => exact .group opens enclosed starts

/-- `[=]` -/
inductive Alias : List Token → Bool → Prop where
  | absent : Alias [] false
  | present {token : Token} : token.IsOperator "=" → Alias [token] true

inductive Spec : List Token → TypeDecl → Prop where
  | intro {name : Token} {parameters sign rest : List Token} {isAlias : Bool} {type : GoType} :
      name.kind = .identifier → Parameters parameters (sign ++ rest) → Alias sign isAlias →
      TypeOf rest type →
      Spec (name :: (parameters ++ (sign ++ rest))) ⟨name.text, name.position, isAlias, type⟩

/-- A token outside all brackets that ends neither a declaration nor the file -/
structure IsPlain (token : Token) : Prop where
  opens : token.opens = false
  closes : token.closes = false
  semicolon : token.kind ≠ .semicolon
  endOfFile : token.kind ≠ .endOfFile

/-- `(Group | plain token)*` -/
inductive Skipped : List Token → Prop where
  | nil : Skipped []
  | group {opener : Token} {front rest : List Token} : Group opener front → Skipped rest →
      Skipped (front ++ rest)
  | token {token : Token} {rest : List Token} : IsPlain token → Skipped rest →
      Skipped (token :: rest)

/-- A declaration without its end -/
inductive Decl : List Token → List TypeDecl → Prop where
  | type {keyword : Token} {rest : List Token} {decl : TypeDecl} : keyword.IsKeyword "type" →
      Spec rest decl → Decl (keyword :: rest) [decl]
  | types {keyword opener closer : Token} {inner : List Token} {decls : List TypeDecl} :
      keyword.IsKeyword "type" → opener.IsOperator "(" → Items Spec inner decls →
      closer.IsOperator ")" → Decl (keyword :: opener :: (inner ++ [closer])) decls
  | other {keyword : Token} {word : String} {rest : List Token} : keyword.IsKeyword word →
      word ∈ ["import", "func", "var", "const"] → Skipped rest → Decl (keyword :: rest) []

/-- The end of a declaration in front of other tokens: a semicolon, or nothing where these are at
the end of the file -/
inductive Ending : List Token → List Token → Prop where
  | semicolon {token : Token} {rest : List Token} : token.kind = .semicolon → Ending [token] rest
  | endOfFile {token : Token} {rest : List Token} : token.kind = .endOfFile →
      Ending [] (token :: rest)

/-- `(;* Decl End)* ;* Eof` -/
inductive Decls : List Token → List TypeDecl → Prop where
  | none {blank : List Token} {last : Token} : Semicolons blank → last.kind = .endOfFile →
      Decls (blank ++ [last]) []
  | more {blank front ending rest : List Token} {decls later : List TypeDecl} :
      Semicolons blank → Decl front decls → Ending ending rest → Decls rest later →
      Decls (blank ++ (front ++ (ending ++ rest))) (decls ++ later)

/-- `;* package Ident End (;* Decl End)* ;* Eof` -/
inductive File : List Token → SourceFile → Prop where
  | intro {blank ending rest : List Token} {keyword name : Token} {decls : List TypeDecl} :
      Semicolons blank → keyword.IsKeyword "package" → name.kind = .identifier →
      Ending ending rest → Decls rest decls →
      File (blank ++ keyword :: name :: (ending ++ rest)) ⟨name.text, decls⟩

end Grammar

end GoDto
