import GoDto.Proofs.Acceptance
import GoDto.Proofs.DeclPlaces
import GoDto.Proofs.LookupEvents

/-!
Declared types that start with a bracket. The length of an array may be any expression, but only two
tokens are looked at to tell it from a list of type parameters. These suffice for every length that does
not start with a call. One that does is taken for type parameters, and the array is lost.
-/

namespace GoDto

theorem Token.IsOperator.followsTypeParameter {token : Token} {text : String}
    (operator : token.IsOperator text) (other : text ∉ [",", "~", "[", "("]) :
    token.followsTypeParameter = false := by
  simpa [Token.followsTypeParameter, operator.1, operator.2] using other

namespace Grammar

/-- Operators between two numbers -/
def arithmetic : List String := ["+", "-", "*", "/", "%", "&", "|", "^", "&^", "<<", ">>"]

/-- Operators in front of a number -/
def signs : List String := ["+", "-", "^"]

/-- Lengths of arrays: literals, names, calls, and what is computed from these -/
inductive Length : List Token → Prop where
  | literal {number : Token} : number.kind = .number → Length [number]
  | named {tokens : List Token} {type : GoType} : Name tokens type → Length tokens
  | call {name arguments : List Token} {opener : Token} {type : GoType} : Name name type →
      opener.IsOperator "(" → Group opener arguments → Length (name ++ arguments)
  | signed {sign : Token} {rest : List Token} {text : String} : sign.IsOperator text → text ∈ signs →
      Length rest → Length (sign :: rest)
  | computed {front rest : List Token} {operator : Token} {text : String} : Length front →
      operator.IsOperator text → text ∈ arithmetic → Length rest → Length (front ++ operator :: rest)
  | parenthesized {opener closer : Token} {inner : List Token} : opener.IsOperator "(" →
      Length inner → closer.IsOperator ")" → Length (opener :: (inner ++ [closer]))

/-- The name, the length and the element type of a declared array: `Ident [ Length ] Type` -/
inductive ArraySpec : List Token → Token → List Token → GoType → Prop where
  | intro {name opener closer : Token} {size rest : List Token} {type : GoType} :
      name.kind = .identifier → opener.IsOperator "[" → Length size → closer.IsOperator "]" →
      TypeOf rest type → ArraySpec (name :: opener :: (size ++ closer :: rest)) name size type

/-- The tokens start with the call of a function that is named by an identifier alone. -/
def StartsCall (tokens : List Token) : Prop :=
  ∃ name opener rest, tokens = name :: opener :: rest ∧ name.kind = .identifier ∧ opener.IsOperator "("

/-- Behind a bracket, these tokens are taken for type parameters. -/
def StartsParameter (tokens : List Token) : Prop :=
  ∃ parameter next rest, tokens = parameter :: next :: rest ∧ parameter.kind = .identifier ∧
    next.followsTypeParameter

theorem startsParameters_cons {opener : Token} {tokens : List Token} (opens : opener.IsOperator "[") :
    StartsParameters (opener :: tokens) ↔ StartsParameter tokens := by
  constructor
  · rintro ⟨first, parameter, next, rest, same, -, kind, follows⟩
    obtain ⟨-, rfl⟩ := List.cons.inj same
    exact ⟨parameter, next, rest, rfl, kind, follows⟩
  · rintro ⟨parameter, next, rest, rfl, kind, follows⟩
    exact ⟨opener, parameter, next, rest, rfl, opens, kind, follows⟩

section
variable {size later : List Token} {token next : Token} {text : String}

theorem StartsCall.append (starts : StartsCall size) (later : List Token) : StartsCall (size ++ later) := by
  obtain ⟨name, opener, rest, rfl, parts⟩ := starts
  exact ⟨name, opener, rest ++ later, rfl, parts⟩

theorem StartsCall.startsParameter (starts : StartsCall size) (later : List Token) :
    StartsParameter (size ++ later) := by
  obtain ⟨name, opener, rest, rfl, identifier, opens⟩ := starts
  refine ⟨name, opener, rest ++ later, rfl, identifier, ?_⟩
  simp [Token.followsTypeParameter, opens.1, opens.2]

theorem not_startsParameter_of_kind (kind : token.kind ≠ .identifier) : ¬StartsParameter (token :: later) := by
  rintro ⟨parameter, next, rest, same, identifier, -⟩
  obtain ⟨rfl, -⟩ := List.cons.inj same
  exact kind identifier

theorem not_startsParameter_of_next (follows : next.followsTypeParameter = false) :
    ¬StartsParameter (token :: next :: later) := by
  rintro ⟨parameter, other, rest, same, -, follows'⟩
  obtain ⟨-, same⟩ := List.cons.inj same
  obtain ⟨rfl, -⟩ := List.cons.inj same
  simp [follows] at follows'

/-- The operators do not follow a type parameter. -/
theorem followsTypeParameter_of_arithmetic (operator : token.IsOperator text) (listed : text ∈ arithmetic) :
    token.followsTypeParameter = false := by
  refine operator.followsTypeParameter fun other => ?_
  have apart : ∀ text ∈ arithmetic, text ∉ [",", "~", "[", "("] := by decide
  exact apart text listed other

/-- Only a length that starts with a call starts like type parameters. -/
theorem Length.startsCall (length : Length size) (follows : next.followsTypeParameter = false)
    (starts : StartsParameter (size ++ next :: later)) : StartsCall size := by
  induction length generalizing next later with
  | literal number => exact absurd starts (not_startsParameter_of_kind (by simp [number]))
  | named name =>
    exfalso
    cases name with
    | plain => exact not_startsParameter_of_next follows starts
    | qualified _ dot =>
      exact not_startsParameter_of_next (dot.followsTypeParameter (by decide)) starts
  | call name opens arguments =>
    cases name with
    | plain identifier =>
      obtain ⟨rest, rfl⟩ := arguments.first
      exact ⟨_, _, rest, rfl, identifier, opens⟩
    | qualified _ dot =>
      exact absurd starts (not_startsParameter_of_next (dot.followsTypeParameter (by decide)))
  | signed sign => exact absurd starts (not_startsParameter_of_kind (by simp [sign.1]))
  | computed _ operator listed _ ih =>
    have same := followsTypeParameter_of_arithmetic operator listed
    exact (ih same (by simpa using starts)).append _
  | parenthesized opens => exact absurd starts (not_startsParameter_of_kind (by simp [opens.1]))

theorem Length.balanced (length : Length size) : Balanced size := by
  have apart : ∀ text ∈ arithmetic ++ signs,
      text ∉ ["(", "[", Token.leftBrace, ")", "]", Token.rightBrace] := by decide
  induction length with
  | literal number => exact balanced_cons_of_kind (by simp [number]) balanced_nil
  | named name => exact name.balanced
  | call name _ arguments => exact name.balanced.append arguments.balanced
  | @signed _ _ text sign listed _ ih =>
    exact (balanced_cons (sign.bracketless (apart text (List.mem_append_right _ listed)))).2 ih
  | @computed _ _ _ text _ operator listed _ first second =>
    have plain := operator.bracketless (apart text (List.mem_append_left _ listed))
    exact first.append ((balanced_cons plain).2 second)
  | parenthesized opens _ closes ih =>
    exact balanced_enclose (opens.opens (by decide)) ih (closes.closes (by decide))

variable {own : List Token} {name : Token} {type : GoType}

/-- A declared array has the sequence of its elements for its type, unless its length starts with a call:
then it has the type of an element. -/
theorem ArraySpec.spec (array : ArraySpec own name size type) :
    (¬StartsCall size → Spec own ⟨name.text, name.position, false, .sequence type⟩) ∧
    (StartsCall size → Spec own ⟨name.text, name.position, false, type⟩) := by
  obtain @⟨name, opener, closer, size, rest, type, identifier, opens, length, closes, derives⟩ := array
  have group : Group opener (opener :: (size ++ [closer])) :=
    .intro (opens.opens (by decide)) length.balanced (closes.closes (by decide))
  have follows : closer.followsTypeParameter = false := closes.followsTypeParameter (by decide)
  constructor
  · intro other
    have absent : ¬StartsParameters (opener :: (size ++ closer :: rest)) := by
      rw [startsParameters_cons opens]
      exact fun starts => other (length.startsCall follows starts)
    have sequence : TypeOf (opener :: (size ++ closer :: rest)) (.sequence type) := by
      have whole := TypeRule.sequence opens group derives
      exact .intro (by simpa using whole)
    exact .intro identifier (.none absent) .absent sequence
  · intro call
    have starts : StartsParameters (opener :: (size ++ [closer])) :=
      (startsParameters_cons opens).2 (call.startsParameter _)
    simpa using Spec.intro identifier (.group opens group starts) .absent derives

end

end Grammar

namespace SourceFile

open Grammar

section
variable {package wanted : String} {before after : List TypeDecl} {decl : TypeDecl}

/-- What is found does not depend on declarations of other types than structs. -/
theorem lookUp_of_not_isStruct (other : decl.isStruct = false) :
    (lookUp ⟨package, before ++ decl :: after⟩ wanted).1 = (lookUp ⟨package, before ++ after⟩ wanted).1 := by
  have same : TypeDecl.structs wanted (decl :: after) = TypeDecl.structs wanted after :=
    List.filter_cons_of_neg (by simp [other])
  simp only [lookUp_fst, TypeDecl.structs_append, same]

/-- The last struct of a name is found. -/
theorem lookUp_of_isStruct (struct : decl.isStruct = true) (last : TypeDecl.structs decl.name after = []) :
    (lookUp ⟨package, before ++ decl :: after⟩ decl.name).1 = some ⟨package, decl.taken⟩ := by
  have found : TypeDecl.structs decl.name (decl :: after) = [decl] := by
    rw [← last]
    exact List.filter_cons_of_pos (by simp [struct])
  simp [lookUp_fst, TypeDecl.structs_append, found]

end

/-- Every declared type of a file stands in a place. An array type in a place is read as one, and nothing
is found for it, unless its length starts with a call. Then the type of its elements is read, and if that
is a struct, it is found for the name of the array. -/
theorem ofTokens_array {tokens : Tokens} (proper : tokens.Proper) :
    (∀ file before decl after, ofTokens tokens = .ok file → file.decls = before ++ decl :: after →
      ∃ front own back, tokens.toList = front ++ own ++ back ∧ Spec own decl ∧
        FilePlace front back file.package before after) ∧
    ∀ front own back package before after name size type, FilePlace front back package before after →
      ArraySpec own name size type → tokens.toList = front ++ own ++ back →
      (¬StartsCall size → ∃ file, ofTokens tokens = .ok file ∧
        file = ⟨package, before ++ ⟨name.text, name.position, false, .sequence type⟩ :: after⟩ ∧
        ∀ wanted, (file.lookUp wanted).1 = (lookUp ⟨package, before ++ after⟩ wanted).1) ∧
      (StartsCall size → ∃ file, ofTokens tokens = .ok file ∧
        file = ⟨package, before ++ ⟨name.text, name.position, false, type⟩ :: after⟩ ∧
        ∀ body, type = .struct body → TypeDecl.structs name.text after = [] →
          (file.lookUp name.text).1 =
            some ⟨package, TypeDecl.taken ⟨name.text, name.position, false, .struct body⟩⟩) := by
  refine ⟨?_, ?_⟩
  · intro file before decl after read whole
    exact (grammar_of_ofTokens proper read).place whole
  · intro front own back package before after name size type place array whole
    have read {decl : TypeDecl} (spec : Spec own decl) :
        ofTokens tokens = .ok ⟨package, before ++ decl :: after⟩ :=
      ofTokens_of_grammar proper (whole ▸ place.fill spec)
    constructor
    · intro other
      exact ⟨_, read (array.spec.1 other), rfl, fun wanted => lookUp_of_not_isStruct rfl⟩
    · intro call
      refine ⟨_, read (array.spec.2 call), rfl, ?_⟩
      rintro body rfl last
      exact lookUp_of_isStruct rfl last

/-- Two arrays in one group: the length of the first is computed from a call, and that of the second is a
call of a function of another package. -/
theorem ofTokens_array_of_structs : ∃ (tokens : Tokens) (file : SourceFile), tokens.Proper ∧
    ofTokens tokens = .ok file ∧
    file.decls = [⟨"A", .start, false, .struct []⟩, ⟨"B", .start, false, .sequence (.struct [])⟩] ∧
    (file.lookUp "A").1 = some ⟨"p", []⟩ ∧ (file.lookUp "B").1 = none := by
  let word (text : String) : Token := ⟨.identifier, text, .start⟩
  let mark (text : String) : Token := ⟨.operator, text, .start⟩
  let keyword (text : String) : Token := ⟨.keyword, text, .start⟩
  let two : Token := ⟨.number, "2", .start⟩
  let line : Token := .lineEnd .start
  let arguments : List Token := mark "(" :: ([two] ++ [mark ")"])
  let struct : List Token := keyword "struct" :: mark Token.leftBrace :: ([] ++ [mark Token.rightBrace])
  let firstSize : List Token := ([word "f"] ++ arguments) ++ mark "+" :: [two]
  let secondSize : List Token := [word "pkg", mark ".", word "f"] ++ arguments
  let first : List Token := word "A" :: mark "[" :: (firstSize ++ mark "]" :: struct)
  let second : List Token := word "B" :: mark "[" :: (secondSize ++ mark "]" :: struct)
  let opening : List Token := [keyword "package", word "p", line, keyword "type", mark "("]
  let tokens : Tokens := ⟨opening ++ first ++ line :: second ++ [mark ")", line], .fileEnd .start, rfl⟩
  have proper : tokens.Proper := by decide
  have called : Group (mark "(") arguments := .intro rfl (balanced_cons_of_kind (by decide) balanced_nil) rfl
  have blank : Semicolons [] := semicolons_nil
  have empty : TypeOf struct (.struct []) := .intro (.struct ⟨rfl, rfl⟩ ⟨rfl, rfl⟩ (.none blank) ⟨rfl, rfl⟩)
  have firstArray : ArraySpec first (word "A") firstSize (.struct []) := by
    have call : Length ([word "f"] ++ arguments) := .call (.plain rfl) ⟨rfl, rfl⟩ called
    exact .intro rfl ⟨rfl, rfl⟩ (.computed call ⟨rfl, rfl⟩ (by decide) (.literal rfl)) ⟨rfl, rfl⟩ empty
  have secondArray : ArraySpec second (word "B") secondSize (.struct []) :=
    .intro rfl ⟨rfl, rfl⟩ (.call (.qualified rfl ⟨rfl, rfl⟩ rfl) ⟨rfl, rfl⟩ called) ⟨rfl, rfl⟩ empty
  have starts : StartsCall firstSize := ⟨_, _, _, rfl, rfl, rfl, rfl⟩
  have other : ¬StartsCall secondSize := by
    rintro ⟨name, opener, rest, same, -, opens⟩
    obtain ⟨-, same⟩ := List.cons.inj same
    obtain ⟨rfl, -⟩ := List.cons.inj same
    exact absurd opens.2 (by decide)
  have closed : Decls [.fileEnd .start] [] := .none blank rfl
  have firstPlace : FilePlace opening (line :: second ++ [mark ")", line, .fileEnd .start]) "p" []
      [⟨"B", .start, false, .sequence (.struct [])⟩] :=
    .intro blank ⟨rfl, rfl⟩ rfl rfl (.intro (.none blank) (.types ⟨rfl, rfl⟩ ⟨rfl, rfl⟩
      (.here blank rfl (.last blank (secondArray.spec.1 other))) ⟨rfl, rfl⟩) (.semicolon rfl) closed)
  have secondPlace : FilePlace (opening ++ first ++ [line]) [mark ")", line, .fileEnd .start] "p"
      [⟨"A", .start, false, .struct []⟩] [] :=
    .intro blank ⟨rfl, rfl⟩ rfl rfl (.intro (.none blank) (.types ⟨rfl, rfl⟩ ⟨rfl, rfl⟩
      (.later blank (firstArray.spec.2 starts) rfl (.last blank)) ⟨rfl, rfl⟩) (.semicolon rfl) closed)
  have arrays := (ofTokens_array proper).2
  obtain ⟨file, read, rfl, found⟩ := (arrays _ _ _ _ _ _ _ _ _ firstPlace firstArray rfl).2 starts
  obtain ⟨_, -, rfl, none⟩ := (arrays _ _ _ _ _ _ _ _ _ secondPlace secondArray rfl).1 other
  exact ⟨tokens, _, proper, read, rfl, found [] rfl rfl, none "B"⟩

/-- A struct is found where an array of structs is declared. -/
theorem ofText_array_of_call : ofText "package p\ntype A [f(2)]struct\x7b X int \x7d\n" =
    .ok ⟨"p", [⟨"A", ⟨2, 6⟩, false, .struct [⟨["X"], ⟨2, 22⟩, .name "int", none⟩]⟩]⟩ := by
  decide +kernel

end SourceFile

end GoDto
