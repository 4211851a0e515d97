import GoDto.Proofs.Derivation
import GoDto.Proofs.Recognition

/-!
The language of source files. Declarations are read as the grammar derives them, up to the end of
the file, so what is read and what is derived are the same files with the same trees.
-/

namespace GoDto

namespace Reader

open Grammar

variable {final : Token} {front left : List Token} (ends : final.Ends)
include ends

/-- Whether a list of type parameters starts here is told by tokens that are read with it. -/
theorem reads_typeParameters {rest : List Token} (parameters : Parameters front rest)
    (alone : StartsParameters (rest ++ left) → StartsParameters rest) :
    typeParameters.Reads final front (rest ++ left) () := by
  refine reads_of_inner fun inner => ?_
  obtain ⟨found, looked, starts⟩ := startsTypeParameters_apply ends
    fun token member => (inner token member).toClear
  refine reads_look (fun _ => looked) ?_
  cases parameters with
  | none absent =>
    have refused : found = false := by
      rw [Bool.eq_false_iff]
      intro accepted
      exact absent (alone (starts.1 accepted))
    rw [refused]
    exact reads_pure
  | group _ enclosed within =>
    rw [starts.2 (within.append _)]
    exact reads_group enclosed

theorem reads_typeSpec {decl : TypeDecl} (spec : Spec front decl)
    (follows : (left.headD final).EndsType) : typeSpec.Reads final front left decl := by
  obtain @⟨name, parameters, sign, rest, isAlias, made, identifier, listed, marked, derives⟩ := spec
  refine reads_of_inner fun inner => ?_
  obtain ⟨first, later, head, rfl, starts⟩ := derives.starts
  have clear : first.Clear := (inner first (by simp)).toClear
  have read : (type >>= fun made => pure (⟨name.text, name.position, isAlias, made⟩ : TypeDecl)).Reads
      final (first :: later) left ⟨name.text, name.position, isAlias, made⟩ :=
    reads_bind_nil (reads_type ends derives follows) reads_pure
  refine reads_identifier identifier (reads_bind (reads_typeParameters ends listed ?_) ?_)
  · cases marked with
    | absent => exact derives.startsParameters
    | present equals =>
      rintro ⟨opener, _, _, _, same, opens, -⟩
      obtain rfl := (List.cons.inj same).1
      exact absurd (equals.2.symm.trans opens.2) (by decide)
  · cases marked with
    | absent => exact reads_accept_none (starts.is_eq_false clear (by decide) (by decide)) read
    | present equals => exact reads_accept equals.is read

omit ends in
theorem endsType_of_ending {ending : List Token} (ended : Ending ending (left ++ [final])) :
    ((ending ++ left).headD final).EndsType := by
  rcases ending_cases ended with ⟨semicolon, rfl, kind⟩ | ⟨rfl, kind⟩
  · exact .inl kind
  · exact .inr (.inl kind)

omit ends in
theorem reads_declEnd {ending : List Token} (ended : Ending ending (left ++ [final])) :
    declEnd.Reads final ending left () := by
  rcases ending_cases ended with ⟨semicolon, rfl, kind⟩ | ⟨rfl, kind⟩
  · exact reads_acceptSemicolon kind reads_pure
  · apply reads_acceptSemicolon_none (by rw [List.nil_append, kind]; decide)
    simp only [Bool.false_eq_true, if_false]
    rw [atEnd_bind]
    apply reads_current
    simp only [List.nil_append, kind, beq_self_eq_true, if_true]
    exact reads_pure

theorem reads_typeDecls {keyword : Token} {own ending : List Token} {decls : List TypeDecl}
    (derives : Decl (keyword :: own) decls) (spelled : keyword.IsKeyword "type")
    (ended : Ending ending (left ++ [final])) :
    typeDecls.Reads final (own ++ ending) left decls := by
  have specs : typeSpecs.Reads final own (ending ++ left) decls := by
    refine reads_of_inner fun inner => ?_
    cases derives with
    | type _ spec =>
      have first : ∃ name rest, own = name :: rest ∧ name.kind = .identifier := by
        obtain ⟨identifier⟩ := spec
        exact ⟨_, _, rfl, identifier⟩
      obtain ⟨name, rest, rfl, identifier⟩ := first
      have clear : name.Clear := (inner name (by simp)).toClear
      refine reads_accept_none ?_ ?_
      · exact clear.is_operator_eq_false (by simp [identifier]) (by decide) (by decide)
      · exact reads_bind_nil (reads_typeSpec ends spec (endsType_of_ending ended)) reads_pure
    | types _ opens items closes =>
      refine reads_accept opens.is (reads_semicolonList items closes ?_ ?_)
      · rintro _ _ ⟨identifier⟩
        refine ⟨_, _, rfl, by simp [identifier], fun clear => ?_⟩
        exact clear.is_operator_eq_false (by simp [identifier]) (by decide) (by decide)
      · intro front spec derived _ next rest follows
        apply reads_typeSpec ends derived
        rcases follows with kind | rfl
        · exact .inl kind
        · exact .inr (.inr (.inr (.inl (closes.closes (by decide)))))
    | other word listed =>
      rw [← word.2, spelled.2] at listed
      exact absurd listed (by decide)
  exact reads_bind specs (reads_bind_nil (reads_declEnd ended) reads_pure)

omit ends in
theorem reads_declPart_group {opener : Token} (enclosed : Group opener front) :
    declPart.Reads final front left (some ()) := by
  obtain ⟨rest, rfl⟩ := enclosed.first
  apply reads_current
  simp only [List.cons_append, List.headD_cons, enclosed.opens, if_true]
  exact reads_bind_nil (reads_group enclosed) reads_pure

omit ends in
theorem reads_declPart_token {token : Token} (plain : IsPlain token) :
    declPart.Reads final [token] left (some ()) := by
  apply reads_refused (by simp [plain.opens])
  simp only [List.cons_append, List.headD_cons, plain.closes, Bool.false_eq_true, if_false]
  exact reads_one ⟨plain.semicolon, plain.endOfFile⟩ reads_pure

omit ends in
theorem reads_declPart_none (stops : (left.headD final).kind = .semicolon ∨
    (left.headD final).kind = .endOfFile) : declPart.Reads final [] left none := by
  obtain ⟨opens, closes⟩ : (left.headD final).opens = false ∧ (left.headD final).closes = false :=
    Token.bracketless_of_kind (by rcases stops with kind | kind <;> rw [kind] <;> decide)
  apply reads_refused (ne_true_of_eq_false opens)
  simp only [List.nil_append, closes, Bool.false_eq_true, if_false]
  exact reads_refused (fun moves => stops.elim moves.1 moves.2) reads_pure

omit ends in
theorem reads_otherDecl {own ending : List Token} (skipped : Skipped own)
    (ended : Ending ending (left ++ [final])) : otherDecl.Reads final (own ++ ending) left () := by
  have stops : ((ending ++ left).headD final).kind = .semicolon ∨
      ((ending ++ left).headD final).kind = .endOfFile := by
    rcases ending_cases ended with ⟨semicolon, rfl, kind⟩ | ⟨rfl, kind⟩
    · exact .inl kind
    · exact .inr kind
  have parts : ∃ found, (many declPart).Reads final own (ending ++ left) found := by
    induction skipped with
    | nil => exact ⟨[], reads_many_stop (reads_declPart_none stops)⟩
    | group enclosed _ ih =>
      obtain ⟨found, read⟩ := ih
      obtain ⟨rest, rfl⟩ := enclosed.first
      exact ⟨_, reads_many_more (by simp) (reads_declPart_group enclosed) read⟩
    | token plain _ ih =>
      obtain ⟨found, read⟩ := ih
      exact ⟨_, reads_many_more (by simp) (reads_declPart_token plain) read⟩
  obtain ⟨found, parts⟩ := parts
  exact reads_bind parts (reads_declEnd ended)

theorem reads_decl {own ending : List Token} {decls : List TypeDecl} (derives : Decl own decls)
    (ended : Ending ending (left ++ [final])) : decl.Reads final (own ++ ending) left decls := by
  have head : ∀ (head : DeclHead) (keyword : Token) (rest : List Token), head.Starts keyword →
      (declFrom (some head)).Reads final (keyword :: rest) left decls →
      decl.Reads final (keyword :: rest) left decls := by
    intro head keyword rest starts read
    apply reads_current
    simp only [List.cons_append, List.headD_cons, DeclHead.ofToken?_eq_some_iff.2 starts]
    exact read
  have derived := derives
  cases derives with
  | type spelled => 
    exact head .type _ _ spelled (reads_step (reads_typeDecls ends derived spelled ended))
  | types spelled =>
    exact head .type _ _ spelled (reads_step (reads_typeDecls ends derived spelled ended))
  | other spelled listed skipped =>
    refine head .other _ _ ⟨_, listed, spelled⟩ (reads_step ?_)
    exact reads_bind_nil (reads_otherDecl skipped ended) reads_pure

theorem reads_nextDecl {blank own ending : List Token} {decls : List TypeDecl}
    (blanks : Semicolons blank) (derives : Decl own decls) (ended : Ending ending (left ++ [final])) :
    nextDecl.Reads final (blank ++ (own ++ ending)) left (some decls) := by
  obtain ⟨first, rest, rfl, kind⟩ := derives.first
  apply reads_bind (reads_semicolons blanks (by simp [kind]))
  rw [atEnd_bind]
  apply reads_current
  simp only [List.cons_append, List.headD_cons, kind]
  exact reads_bind_nil (reads_decl ends derives ended) reads_pure

/-- The declarations are read one after another up to the end of the file. -/
theorem reads_decls {decls : List TypeDecl} (derives : Decls (front ++ [final]) decls) :
    ∃ found, (many nextDecl).Reads final front [] found ∧ found.flatten = decls := by
  generalize same : front ++ [final] = tokens at derives
  induction derives generalizing front with
  | @none blank last blanks kind =>
    obtain ⟨rfl, -⟩ := List.append_singleton_inj.1 same
    have stop : nextDecl.Reads final front [] none := by
      have other : (([] : List Token).headD final).kind ≠ .semicolon := by
        simp [ends.kind]
      apply reads_bind_nil (reads_semicolons blanks other)
      rw [atEnd_bind]
      apply reads_current
      simp only [List.nil_append, List.headD_nil, ends.kind, beq_self_eq_true, if_true]
      exact reads_pure
    exact ⟨[], reads_many_stop stop, rfl⟩
  | @more blank own ending rest decls later blanks derived ended laterDerived ih =>
    obtain ⟨back, last, rfl⟩ := concat_of_decls laterDerived
    simp only [← List.append_assoc] at same
    obtain ⟨rfl, rfl⟩ := List.append_singleton_inj.1 same
    obtain ⟨found, later, rfl⟩ := ih rfl
    obtain ⟨keyword, behind, rfl, -⟩ := derived.first
    refine ⟨decls :: found, ?_, rfl⟩
    rw [List.append_assoc blank]
    have next : nextDecl.Reads final (blank ++ (keyword :: behind ++ ending)) (back ++ []) (some decls) :=
      reads_nextDecl ends blanks derived (by simpa using ended)
    exact reads_many_more (by simp) next later

theorem reads_file {found : SourceFile} (derives : File (front ++ [final]) found) :
    file.Reads final front [] found := by
  generalize same : front ++ [final] = tokens at derives
  obtain @⟨blank, ending, rest, keyword, name, decls, blanks, spelled, identifier, ended, derived⟩ :=
    derives
  obtain ⟨back, last, rfl⟩ := concat_of_decls derived
  have whole : front ++ [final] = (blank ++ keyword :: name :: (ending ++ back)) ++ [last] := by
    simpa using same
  obtain ⟨rfl, rfl⟩ := List.append_singleton_inj.1 whole
  obtain ⟨found, read, rfl⟩ := reads_decls ends derived
  apply reads_bind (reads_semicolons blanks (by simp [spelled.1]))
  refine reads_require spelled.is (reads_identifier identifier ?_)
  exact reads_bind (reads_declEnd (by simpa using ended)) (reads_bind_nil read reads_pure)

end Reader

namespace SourceFile

theorem ofTokens_of_done {tokens : Tokens} {file : SourceFile} {left : List Token}
    (read : Reader.file tokens.final tokens.body = .done file left) : ofTokens tokens = .ok file := by
  unfold ofTokens
  split
  · next outcome =>
    rw [read] at outcome
    cases outcome
    rfl
  · next outcome => simp [read] at outcome
  · next outcome => simp [read] at outcome

theorem ofTokens_of_failed {tokens : Tokens} {error : SyntaxError}
    (read : Reader.file tokens.final tokens.body = .failed error) : ofTokens tokens = .error error := by
  unfold ofTokens
  split
  · next outcome => simp [read] at outcome
  · next outcome =>
    rw [read] at outcome
    cases outcome
    rfl
  · next outcome => simp [read] at outcome

/-- What is derived is read, whatever the literals in it are spelled like. -/
theorem ofTokens_of_readable {tokens : Tokens} {file : SourceFile}
    (readable : ∀ token ∈ tokens.body, token.Readable) (ends : tokens.final.Ends)
    (derives : Grammar.File tokens.toList file) : ofTokens tokens = .ok file := by
  have read := Reader.reads_file ends derives (by simpa using readable)
  rw [List.append_nil] at read
  exact ofTokens_of_done read

theorem ofTokens_of_grammar {tokens : Tokens} {file : SourceFile} (proper : tokens.Proper)
    (derives : Grammar.File tokens.toList file) : ofTokens tokens = .ok file :=
  ofTokens_of_readable (fun token member => (proper.body token member).readable) proper.final derives

/-- Tokens are a source file exactly if the grammar derives it from them, with the same tree. -/
theorem ofTokens_eq_ok_iff {tokens : Tokens} {file : SourceFile} (proper : tokens.Proper) :
    ofTokens tokens = .ok file ↔ Grammar.File tokens.toList file := by
  constructor
  · exact grammar_of_ofTokens proper
  · exact ofTokens_of_grammar proper

/-- `package p`, a line end, and `type A func()` -/
theorem ofTokens_eq_ok_iff_function : ∃ tokens file, tokens.Proper ∧ ofTokens tokens = .ok file ∧
    (ofTokens tokens = .ok file ↔ Grammar.File tokens.toList file) := by
  let place : Position := .start
  let tokens : Tokens := ⟨[⟨.keyword, "package", place⟩, ⟨.identifier, "p", place⟩, .lineEnd place,
    ⟨.keyword, "type", place⟩, ⟨.identifier, "A", place⟩, ⟨.keyword, "func", place⟩,
    ⟨.operator, "(", place⟩, ⟨.operator, ")", place⟩, .lineEnd place], .fileEnd place, rfl⟩
  have proper : tokens.Proper := by decide
  exact ⟨tokens, ⟨"p", [⟨"A", place, false, .outline .function⟩]⟩, proper, rfl,
    ofTokens_eq_ok_iff proper⟩

end SourceFile

end GoDto
