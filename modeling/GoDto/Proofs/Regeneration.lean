import GoDto.Generation.FromText
import GoDto.Proofs.Acceptance
import GoDto.Proofs.CodeGrammar
import GoDto.Proofs.LookupEvents

/-!
Generating from a generated text. What is generated for a struct is a source file with a struct of
its own, and generating from that one gives the same fields again.
-/

namespace GoDto

section
variable {text : String}

theorem Lexeme.IsWord.isNamePart {text : List Char} (isWord : Lexeme.IsWord text) :
    ∀ c ∈ text, Lexeme.isNamePart c := by
  obtain ⟨c, rest, rfl, starts, parts⟩ := isWord
  intro d member
  rcases List.mem_cons.1 member with rfl | inside
  · exact Lexeme.isNamePart_of_startsName starts
  · exact parts d inside

theorem Lexeme.IsWord.append {text more : List Char} (isWord : Lexeme.IsWord text)
    (parts : ∀ c ∈ more, Lexeme.isNamePart c) : Lexeme.IsWord (text ++ more) := by
  obtain ⟨c, rest, rfl, starts, inside⟩ := isWord
  refine ⟨c, rest ++ more, rfl, starts, fun d member => ?_⟩
  rcases List.mem_append.1 member with first | second
  · exact inside d first
  · exact parts d second

/-- No keyword ends like the name of a DTO. -/
theorem not_keyword_dto (text : String) : text ++ "DTO" ∉ Token.keywords := by
  have others : ∀ keyword ∈ Token.keywords, keyword.toList.getLast? ≠ some 'O' := by decide
  intro listed
  apply others _ listed
  simp

theorem IsName.dto (isName : IsName text) : IsName (text ++ "DTO") := by
  refine ⟨?_, not_keyword_dto text⟩
  rw [String.toList_append]
  exact isName.word.append (List.all_eq_true.1 (by decide))

theorem IsName.mapper (isName : IsName text) : IsName ("To" ++ text ++ "DTO") := by
  have start : Lexeme.IsWord "To".toList := by decide
  refine ⟨?_, not_keyword_dto _⟩
  rw [String.toList_append, String.toList_append]
  exact (start.append isName.word.isNamePart).append (List.all_eq_true.1 (by decide))

end

/-- What is found is the last struct of the name, if nothing has been found before. -/
theorem TypeDecl.visitAll_eq_some {name : String} {found : Option (List Dto.Field)}
    {decls : List TypeDecl} {fields : List Dto.Field}
    (visited : (visitAll name found decls).1 = some fields) :
    found = some fields ∨ ∃ decl ∈ decls, decl.name = name ∧ ∃ body, decl.type = .struct body ∧
      fields = body.flatMap FieldDecl.fields := by
  rw [visitAll_fst] at visited
  cases last : (structs name decls).getLast? with
  | none =>
    rw [last] at visited
    exact .inl visited
  | some decl =>
    rw [last] at visited
    cases visited
    have member : decl ∈ decls ∧ decl.name = name ∧ decl.isStruct = true := by
      simpa [structs] using List.mem_of_getLast? last
    obtain ⟨body, type⟩ := isStruct_iff.1 member.2.2
    exact .inr ⟨decl, member.1, member.2.1, body, type, by rw [taken, TypeDecl.body, type]; rfl⟩

/-- What a traced computation gives is given by its parts. -/
theorem Traced.bind_eq_ok {α β : Type} {first : Traced α} {second : α → Traced β} {value : β} :
    (first >>= second).result = .ok value ↔
      ∃ result, first.result = .ok result ∧ (second result).result = .ok value := by
  change (first.andThen second).result = .ok value ↔ _
  unfold andThen
  cases first.result <;> simp

namespace Generation

variable {text name label : String} {context : Dto.Context} {code : String}

theorem sourceFile_eq_ok {file : SourceFile} : (sourceFile text).result = .ok file ↔
    ∃ tokens, Tokens.ofText text = .ok tokens ∧ SourceFile.ofTokens tokens = .ok file := by
  unfold sourceFile
  cases lexed : Tokens.ofText text with
  | error error => simp [Traced.fail]
  | ok tokens =>
    rw [Traced.bind_eq_ok]
    cases read : SourceFile.ofTokens tokens with
    | error error => simp [Traced.fail, read]
    | ok file => simp [Traced.bind_eq_ok, Traced.emit, read, pure, Traced.value]

theorem context_eq_ok : (Generation.context text name label).result = .ok context ↔
    ∃ file fields, (sourceFile text).result = .ok file ∧
      (TypeDecl.visitAll name none file.decls).1 = some fields ∧
      context = .ofStruct name ⟨file.package, fields⟩ := by
  unfold Generation.context
  simp only [Traced.bind_eq_ok, SourceFile.lookUp]
  constructor
  · rintro ⟨file, read, -, -, found⟩
    cases visited : (TypeDecl.visitAll name none file.decls).1 with
    | none => simp [visited, Traced.fail] at found
    | some fields =>
      rw [visited] at found
      cases found
      exact ⟨file, fields, read, visited, rfl⟩
  · rintro ⟨file, fields, read, visited, rfl⟩
    refine ⟨file, read, (), rfl, ?_⟩
    rw [visited]
    rfl

/-- What goes well where a DTO is made from a text -/
theorem fromText_eq_ok : (fromText text name label).result = .ok (context, code) ↔
    ∃ tokens file fields, Tokens.ofText text = .ok tokens ∧ SourceFile.ofTokens tokens = .ok file ∧
      (TypeDecl.visitAll name none file.decls).1 = some fields ∧
      context = .ofStruct name ⟨file.package, fields⟩ ∧ code = context.code := by
  unfold fromText
  rw [Traced.bind_eq_ok]
  constructor
  · rintro ⟨_, made, same⟩
    obtain ⟨file, fields, source, found, rfl⟩ := context_eq_ok.1 made
    obtain ⟨tokens, lexed, read⟩ := sourceFile_eq_ok.1 source
    cases same
    exact ⟨tokens, file, fields, lexed, read, found, rfl, rfl⟩
  · rintro ⟨tokens, file, fields, lexed, read, found, rfl, rfl⟩
    have source := sourceFile_eq_ok.2 ⟨tokens, lexed, read⟩
    exact ⟨_, context_eq_ok.2 ⟨file, fields, source, found, rfl⟩, rfl⟩

/-- Everything in the context of a DTO is what a generated text needs. -/
theorem sound_of_fromText (made : (fromText text name label).result = .ok (context, code)) :
    context.Sound := by
  obtain ⟨tokens, file, fields, lexed, read, found, rfl, -⟩ := fromText_eq_ok.1 made
  have named := SourceFile.named_of_ofTokens lexed read
  rcases TypeDecl.visitAll_eq_some found with none | ⟨decl, member, rfl, body, type, rfl⟩
  · cases none
  have isName := (named.decls decl member).name
  refine ⟨named.package, isName.dto, isName, isName.mapper, fun field taken => ?_⟩
  obtain ⟨own, listed, taken⟩ := List.mem_flatMap.1 taken
  obtain ⟨fieldName, fieldListed, rfl⟩ := List.mem_map.1 taken
  have typeNamed := (named.decls decl member).type
  rw [type] at typeNamed
  cases typeNamed with
  | struct names types =>
    exact ⟨names own listed fieldName fieldListed, ⟨_, (types own listed).plain_respelled,
      own.type.spelling_respelled⟩, rfl⟩

/-- A generated text is read as a file with the struct of the DTO and no other type. -/
theorem read_code (sound : context.Sound) : ∃ tokens position body,
    Tokens.ofText context.code = .ok tokens ∧ tokens.body.map Token.face = context.faces ∧
      SourceFile.ofTokens tokens =
        .ok ⟨context.package, [⟨context.dto, position, false, .struct body⟩]⟩ ∧
      body.flatMap FieldDecl.fields = context.fields := by
  obtain ⟨tokens, lexed, faces⟩ := Dto.Context.ofText_code sound
  obtain ⟨position, body, derives, taken⟩ := sound.derives tokens.final_ends faces
  have read := SourceFile.ofTokens_of_grammar (Tokens.proper_of_ofText lexed) derives
  exact ⟨tokens, position, body, lexed, faces, read, taken⟩

/-- Generating again, from what was generated, gives the same fields for the DTO. -/
theorem fromText_code (made : (fromText text name label).result = .ok (context, code))
    (other : String) : ∃ again codeAgain,
      (fromText code context.dto other).result = .ok (again, codeAgain) ∧
        again.package = context.package ∧ again.source = context.dto ∧
          again.fields = context.fields := by
  have sound := sound_of_fromText made
  obtain ⟨-, -, -, -, -, -, -, rfl⟩ := fromText_eq_ok.1 made
  obtain ⟨tokens, lexed, faces⟩ := Dto.Context.ofText_code sound
  obtain ⟨position, body, derives, taken⟩ := sound.derives tokens.final_ends faces
  have read := SourceFile.ofTokens_of_grammar (Tokens.proper_of_ofText lexed) derives
  have found : (TypeDecl.visitAll context.dto none
      [⟨context.dto, position, false, .struct body⟩]).1 = some context.fields := by
    simp [TypeDecl.visitAll, TypeDecl.visit, taken]
  exact ⟨_, _, fromText_eq_ok.2 ⟨tokens, _, _, lexed, read, found, rfl, rfl⟩, rfl, rfl, rfl⟩

/-- A field whose type is shown as a placeholder -/
theorem fromText_code_placeholder : ∃ context code,
    (fromText "package p\ntype A struct \x7b B, Ü map[int]string \x7d" "A" "a.go").result =
      .ok (context, code) ∧ context.fields = [⟨"B", "*ast.MapType", "b"⟩, ⟨"Ü", "*ast.MapType", "ü"⟩] ∧
    ∃ again codeAgain, (fromText code context.dto "b.go").result = .ok (again, codeAgain) ∧
      again.package = context.package ∧ again.source = context.dto ∧ again.fields = context.fields := by
  let found : Dto.Context :=
    .ofStruct "A" ⟨"p", [⟨"B", "*ast.MapType", "b"⟩, ⟨"Ü", "*ast.MapType", "ü"⟩]⟩
  have made : (fromText "package p\ntype A struct \x7b B, Ü map[int]string \x7d" "A" "a.go").result =
      .ok (found, found.code) := by decide +kernel
  exact ⟨found, found.code, made, rfl, fromText_code made "b.go"⟩

end Generation

end GoDto
