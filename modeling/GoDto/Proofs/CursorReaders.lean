import GoDto.Proofs.Acceptance
import GoDto.Proofs.CursorLists

/-!
Cursors over whole files. The cursor over a file does what the reader of it does, and comes to an end
within steps that only depend on the number of tokens.
-/

namespace GoDto

namespace Reader

theorem current_bind_of_head {α : Type} {final token : Token} {rest : List Token}
    (head : rest.headD final = token) (next : Token → Reader α) :
    (current >>= next) final rest = next token final rest := by
  subst head
  rfl

/-- A part of a declaration and, if there is none, the end of the declaration: what is next decides
between them at once. -/
theorem declPart_eq (final : Token) (rest : List Token) :
    (declPart >>= endingWith declEnd) final rest =
    (current >>= fun token =>
      if token.kind = .endOfFile then pure none
      else if token.kind = .semicolon then step >>= fun _ => pure none
      else if token.opens then group >>= fun _ => pure (some ())
      else if token.closes then unexpected
      else step >>= fun _ => pure (some ())) final rest := by
  obtain ⟨token, head⟩ : ∃ token, rest.headD final = token := ⟨_, rfl⟩
  rw [declPart, bind_assoc, current_bind_of_head head, current_bind_of_head head]
  by_cases ends : token.kind = .endOfFile
  · obtain ⟨opens, closes⟩ := @Token.bracketless_of_kind token (by simp [ends])
    simp only [opens, closes, ends, Bool.false_eq_true, if_false, if_true, plainToken, bind_assoc,
      current_bind_of_head head, ne_eq, not_true_eq_false, and_false, pure_bind, endingWith,
      declEnd, acceptSemicolon_bind, reduceCtorEq, atEnd_bind, beq_self_eq_true]
  · by_cases semicolon : token.kind = .semicolon
    · obtain ⟨opens, closes⟩ := @Token.bracketless_of_kind token (by simp [semicolon])
      simp only [opens, closes, semicolon, Bool.false_eq_true, if_false, if_true, plainToken,
        bind_assoc, current_bind_of_head head, ne_eq, not_true_eq_false, false_and, pure_bind,
        endingWith, declEnd, acceptSemicolon_bind, reduceCtorEq]
    · rw [if_neg ends, if_neg semicolon]
      split
      · simp only [bind_assoc, pure_bind, endingWith]
      · split
        · rw [unexpected_bind]
        · simp only [plainToken, bind_assoc, current_bind_of_head head, ne_eq, ends,
            semicolon, not_false_eq_true, and_true, if_true, pure_bind, endingWith]

end Reader

namespace Cursor

variable {tokens : Tokens} {price most : Nat}

/-- Where an opening bracket stands, an array length is a group, and without one the brackets are two
tokens. -/
theorem followsAt_arrayLength {β : Type} {second : Cursor β} {next : Reader β} {left : β → Nat}
    {index : Nat} (worth : 0 < price) (before : index < tokens.body.length)
    (opens : tokens.body[index].opens = true)
    (later : Follows tokens price most price left second next) :
    FollowsAt tokens price most 2 left (arrayLength >>= fun _ => second)
      (Reader.step >>= fun _ => Reader.arrayLength tokens.body[index] >>= fun _ => next) index := by
  have looked (steps : Nat) : (arrayLength >>= fun _ => second) tokens.toList index steps =
      ((if ((tokens.body.drop (index + 1)).headD tokens.final).is "]" then move 2 else group) >>=
        fun _ => second) tokens.toList index steps := by
    rw [arrayLength, bind_assoc, look_bind, List.drop_drop]
  have read : (Reader.step >>= fun _ => Reader.arrayLength tokens.body[index] >>= fun _ => next)
      tokens.final (tokens.body.drop index) =
        (if ((tokens.body.drop (index + 1)).headD tokens.final).is "]" then
          Reader.step >>= fun _ => next
        else Reader.closeGroup tokens.body[index] >>= fun _ => next : Reader β) tokens.final
          (tokens.body.drop (index + 1)) := by
    rw [drop_inside before]
    change (Reader.arrayLength tokens.body[index] >>= fun _ => next) tokens.final _ = _
    rw [Reader.arrayLength, bind_assoc, Reader.accept_bind]
    rfl
  by_cases empty : ((tokens.body.drop (index + 1)).headD tokens.final).is "]" = true
  · rw [if_pos empty] at read
    refine .congr (.move before (follows_move.andThen (Nat.zero_le _) fun _ =>
      later.weaken (by omega) fun _ => by omega)) (fun steps => ?_) ?_
    · rw [looked, if_pos empty]
      rfl
    · rw [read, drop_inside before]
      rfl
  · rw [if_neg empty] at read
    refine .congr ((follows_group worth).andThen (Nat.le_refl _) (fun _ => later) index)
      (fun steps => ?_) ?_
    · rw [looked, if_neg empty]
    · rw [read, Reader.group, bind_assoc, readerCurrent_bind _ before, if_pos opens, drop_inside before]
      rfl

section
variable {type : Cursor GoType} {reader : Reader GoType} (roomy : tokens.body.length + 16 ≤ price)
  (follows : Follows tokens price most 3 (fun _ => price - 4) type reader)
include roomy follows

theorem follows_typeArguments : Follows tokens price most 5 (fun _ => 3) (typeArguments type)
    (Reader.typeArguments reader) := by
  have inner := (follows.below (Nat.sub_le most 1)).weaken (Nat.le_refl 3) fun _ =>
    (by omega : 4 + 3 ≤ price - 4 + 3)
  have arguments : Follows tokens price (most - 1) 4 (fun _ => 3) (many (commaItem "]" type))
      (Reader.commaList "]" reader) := follows_many (follows_commaItem inner)
  refine follows_spend (by omega) ((follows_require "[").andThen (Nat.zero_le _) fun _ => ?_)
  refine arguments.andThen (by omega) fun arguments => ?_
  exact follows_pure _ (by omega)

theorem follows_namedType (first : Token) : Follows tokens price most price (fun _ => price - 4)
    (namedType type first) (Reader.namedType reader first) := by
  have name : Follows tokens price most 0 (fun _ => 0) (qualifiedName first)
      (Reader.qualifiedName first) := by
    refine (follows_accept ".").andThen (Nat.zero_le _) fun dotted => ?_
    split
    · exact follows_identifier.andThen (Nat.zero_le _) fun _ => follows_pure _ (Nat.zero_le _)
    · exact follows_pure _ (Nat.zero_le _)
  refine name.andThen (Nat.zero_le _) fun named => ?_
  refine (follows_look 0).andThen (Nat.zero_le _) fun token => ?_
  split
  · refine (follows_typeArguments roomy follows).andThen (by omega) fun count => ?_
    exact follows_pure _ (by omega)
  · exact follows_pure _ (by omega)

theorem follows_signature : Follows tokens price most price (fun _ => price - 4) (signature type)
    (Reader.signature reader) := by
  have worth : 0 < price := by omega
  refine follows_spend worth ((follows_groupOf worth "(").andThen (by omega) fun _ => ?_)
  refine (follows_look 0).andThen (Nat.zero_le _) fun result => ?_
  split
  · exact (follows_group worth).weaken (by omega) fun _ => by omega
  · split
    · refine (follows.below (Nat.sub_le most 1)).andThen (by omega) fun _ => ?_
      exact follows_pure _ (by omega)
    · exact follows_pure _ (by omega)

theorem follows_field : Follows tokens price most (tokens.body.length + 6)
    (fun _ => tokens.body.length + 7) (field type) (Reader.field reader) := by
  have inner := follows.below (Nat.sub_le most 1)
  have embedded : Follows tokens price (most - 1) (tokens.body.length + 2) (fun _ => 0)
      startsEmbedded Reader.startsEmbedded := by
    refine (follows_look 1).andThen (Nat.zero_le _) fun next => ?_
    split
    · exact follows_pure _ (Nat.zero_le _)
    · split
      · refine (follows_lookBehindGroup 1).andThen (by omega) fun behind => ?_
        exact follows_pure _ (Nat.zero_le _)
      · exact follows_pure _ (Nat.zero_le _)
  have name : Follows tokens price (most - 1) 0 (fun found => if found.isSome then 0 + 1 else 0)
      nextName Reader.nextName := by
    refine (follows_accept ",").andThen (Nat.zero_le _) fun accepted => ?_
    split
    · refine follows_identifier.andThen (Nat.zero_le _) fun name => ?_
      exact follows_pure _ (by rw [Option.isSome_some, if_pos rfl]; omega)
    · exact follows_pure _ (Nat.zero_le _)
  have names : Follows tokens price (most - 1) 0 (fun _ => 0) fieldNames Reader.fieldNames := by
    refine follows_identifier.andThen (Nat.zero_le _) fun first => ?_
    refine (follows_many name).andThen (by omega) fun later => ?_
    exact follows_pure _ (Nat.zero_le _)
  have parts (first : Token) : Follows tokens price (most - 1) (tokens.body.length + 5)
      (fun _ => tokens.body.length + 7) (fieldParts type first) (Reader.fieldParts reader first) := by
    unfold fieldParts Reader.fieldParts
    split
    · refine follows_move.andThen (Nat.zero_le _) fun _ => ?_
      refine inner.andThen (by omega) fun element => ?_
      exact follows_pure _ (by omega)
    · split
      · refine embedded.andThen (by omega) fun isEmbedded => ?_
        split
        · refine inner.andThen (by omega) fun element => ?_
          exact follows_pure _ (by omega)
        · refine names.andThen (by omega) fun names => ?_
          refine inner.andThen (by omega) fun element => ?_
          exact follows_pure _ (by omega)
      · exact follows_expected _
  have tag : Follows tokens price (most - 1) 0 (fun _ => 0) fieldTag Reader.fieldTag := by
    refine (follows_look 0).andThen (Nat.zero_le _) fun token => ?_
    split
    · exact follows_move.andThen (Nat.zero_le _) fun _ => follows_pure _ (Nat.zero_le _)
    · exact follows_pure _ (Nat.zero_le _)
  refine follows_spend (by omega) ((follows_look 0).andThen (Nat.zero_le _) fun first => ?_)
  refine (parts first).andThen (by omega) fun parts => ?_
  refine tag.andThen (Nat.zero_le _) fun tag => ?_
  exact follows_pure _ (by omega)

theorem follows_structBody : Follows tokens price most price (fun _ => price - 4) (structBody type)
    (Reader.structBody reader) := by
  have worth : tokens.body.length + 6 < price := by omega
  have fields := @follows_semicolonOrItem _ _ _ _ _ Token.rightBrace _ _ worth
    (follows_field roomy (follows.below (Nat.sub_le most 1)))
  refine follows_spend (by omega) ((follows_require _).andThen (Nat.zero_le _) fun _ => ?_)
  exact fields.weaken (by omega) fun _ => by omega

theorem followsAt_typeFrom {index : Nat} (before : index < tokens.body.length) {head : TypeHead}
    (starts : head.Starts tokens.body[index]) : FollowsAt tokens price most 2 (fun _ => price - 4)
      (typeFrom type tokens.body[index] head)
      (Reader.step >>= fun _ => Reader.typeAfter reader tokens.body[index] head) index := by
  have worth : 0 < price := by omega
  cases head with
  | name => exact .move before ((follows_namedType roomy follows _).weaken (by omega) fun _ => by omega)
  | star =>
    refine .move before (follows.andThen (by omega) fun element => ?_)
    exact follows_pure _ (by omega)
  | bracket =>
    refine followsAt_arrayLength worth before (Token.opens_iff.2 (.inr (.inl starts))) ?_
    refine follows.andThen (by omega) fun element => ?_
    exact follows_pure _ (by omega)
  | parenthesis =>
    refine .move before (follows.andThen (by omega) fun element => ?_)
    refine (follows_require ")").andThen (Nat.zero_le _) fun _ => ?_
    exact follows_pure _ (by omega)
  | arrow =>
    refine .move before ((follows_require "chan").andThen (Nat.zero_le _) fun _ => ?_)
    refine follows.andThen (by omega) fun element => ?_
    exact follows_pure _ (by omega)
  | channel =>
    refine .move before ((follows_accept "<-").andThen (Nat.zero_le _) fun _ => ?_)
    refine follows.andThen (by omega) fun element => ?_
    exact follows_pure _ (by omega)
  | map =>
    refine .move before ((follows_require "[").andThen (Nat.zero_le _) fun _ => ?_)
    refine follows.andThen (by omega) fun key => ?_
    refine (follows_require "]").andThen (Nat.zero_le _) fun _ => ?_
    refine follows.andThen (by omega) fun element => ?_
    exact follows_pure _ (by omega)
  | function =>
    refine .move before ((follows_signature roomy follows).andThen (by omega) fun _ => ?_)
    exact follows_pure _ (by omega)
  | interface =>
    refine .move before ((follows_groupOf worth _).andThen (by omega) fun _ => ?_)
    exact follows_pure _ (by omega)
  | struct =>
    refine .move before ((follows_structBody roomy follows).andThen (by omega) fun fields => ?_)
    exact follows_pure _ (by omega)

theorem follows_typeWith : Follows tokens price most 2 (fun _ => price - 4) (typeWith type)
    (Reader.typeWith reader) := by
  refine follows_token ?_ fun index before => ?_
  · rw [Reader.ofToken?_eq_none_of_ends tokens.final_ends]
    exact follows_expected _
  · cases starts : TypeHead.ofToken? tokens.body[index] with
    | none => exact follows_expected _ index
    | some head => exact followsAt_typeFrom roomy follows before (TypeHead.ofToken?_eq_some_iff.1 starts)

end

section
variable (roomy : tokens.body.length + 16 ≤ price)
include roomy

/-- The steps are what ends the nesting for the cursor, and the tokens for the reader. -/
theorem follows_typeWithin (calls : Nat) (limit : List Token) :
    Follows tokens price calls 3 (fun _ => price - 4) (typeWithin calls) (Reader.typeWithin limit) := by
  induction calls generalizing limit with
  | zero => exact follows_of_few (by omega)
  | succ calls ih =>
    cases limit with
    | nil => exact follows_exhausted
    | cons token limit => exact follows_spend (by omega) (follows_typeWith roomy (ih limit))

theorem follows_type :
    Follows tokens price most 3 (fun _ => price - 4) type Reader.type := by
  refine follows_stepsLeft fun limit _ index steps spare within enough => ?_
  exact follows_typeWithin roomy limit (tokens.final :: tokens.body.drop index) index steps spare
    within enough

theorem follows_typeSpec : Follows tokens price most 1 (fun _ => 3) typeSpec Reader.typeSpec := by
  have starts : Follows tokens price (most - 1) 0 (fun _ => 0) startsTypeParameters
      Reader.startsTypeParameters := by
    refine (follows_look 0).andThen (Nat.zero_le _) fun opening => ?_
    refine (follows_look 1).andThen (Nat.zero_le _) fun parameter => ?_
    refine (follows_look 2).andThen (Nat.zero_le _) fun next => ?_
    exact follows_pure _ (Nat.zero_le _)
  have parameters : Follows tokens price (most - 1) 2 (fun _ => 2) typeParameters
      Reader.typeParameters := by
    refine starts.andThen (Nat.zero_le _) fun found => ?_
    split
    · exact (follows_group (by omega)).weaken (by omega) fun _ => by omega
    · exact follows_pure _ (by omega)
  refine follows_spend (by omega) (follows_identifier.andThen (Nat.zero_le _) fun name => ?_)
  refine parameters.andThen (by omega) fun _ => ?_
  refine (follows_accept "=").andThen (Nat.zero_le _) fun isAlias => ?_
  refine (follows_type roomy).andThen (by omega) fun type => ?_
  exact follows_pure _ (by omega)

theorem follows_typeDecls : Follows tokens price most 4 (fun _ => 1) typeDecls Reader.typeDecls := by
  have specs : Follows tokens price (most - 1) 3 (fun _ => 1) typeSpecs Reader.typeSpecs := by
    refine (follows_accept "(").andThen (Nat.zero_le _) fun accepted => ?_
    split
    · exact follows_many (follows_semicolonItem (by omega) (follows_typeSpec roomy))
    · refine (follows_typeSpec roomy).andThen (by omega) fun decl => ?_
      exact follows_pure _ (by omega)
  refine follows_spend (by omega) (specs.andThen (by omega) fun decls => ?_)
  refine follows_declEnd.andThen (Nat.zero_le _) fun _ => ?_
  exact follows_pure _ (by omega)

theorem follows_otherDecl :
    Follows tokens price most 4 (fun _ => 2) otherDecl Reader.otherDecl := by
  have part : Follows tokens price (most - 1) 2 (fun found => if found.isSome then 2 + 1 else 2) declPart
      (Reader.declPart >>= Reader.endingWith Reader.declEnd) := by
    refine .congr ?_ (Reader.declPart_eq tokens.final)
    refine follows_token ?_ fun index before => ?_
    · rw [if_pos tokens.final_ends, if_pos tokens.final_ends]
      exact follows_pure _ (by simp)
    · split
      · exact follows_pure _ (by simp) index
      · split
        · exact .move before (follows_pure _ (by simp))
        · split
          · refine (follows_group (by omega)).andThen (Nat.le_refl _) (fun _ => ?_) index
            exact follows_pure _ (by simp; omega)
          · split
            · exact follows_unexpected index
            · exact .move before (follows_pure _ (by simp; omega))
  have parts : Follows tokens price (most - 1) 3 (fun _ => 2) (many declPart) (Reader.many
      Reader.declPart >>= fun parts => Reader.declEnd >>= fun _ => pure parts) :=
    follows_many_andThen part
  have same : Reader.otherDecl = (Reader.many Reader.declPart >>= fun parts =>
      Reader.declEnd >>= fun _ => pure parts) >>= fun _ => pure () := by
    simp only [Reader.otherDecl, bind_assoc, pure_bind, bind_pure_unit]
  rw [same]
  refine follows_spend (by omega) (parts.andThen (by omega) fun _ => ?_)
  exact follows_pure _ (by omega)

theorem follows_decl : Follows tokens price most 0 (fun _ => 2) decl Reader.decl := by
  refine follows_token ?_ fun index before => ?_
  · have none : DeclHead.ofToken? tokens.final = none := by
      simp [DeclHead.ofToken?, tokens.final_ends]
    rw [none]
    exact follows_unexpected
  · cases DeclHead.ofToken? tokens.body[index] with
    | none => exact follows_unexpected index
    | some head =>
      cases head with
      | type => exact .move before ((follows_typeDecls roomy).weaken (by omega) fun _ => by omega)
      | other =>
        refine .move before ((follows_otherDecl roomy).andThen (by omega) fun _ => ?_)
        exact follows_pure _ (by omega)

theorem follows_file : Follows tokens price most 1 (fun _ => 0) file Reader.file := by
  have worth : 0 < price := by omega
  have next : Follows tokens price most 1 (fun found => if found.isSome then 1 + 1 else 0) nextDecl
      Reader.nextDecl := by
    refine (follows_semicolons worth).andThen (Nat.le_refl _) fun _ => ?_
    refine follows_atEnd.andThen (Nat.zero_le _) fun ended => ?_
    split
    · exact follows_pure _ (Nat.zero_le _)
    · refine (follows_decl roomy).andThen (Nat.zero_le _) fun decls => ?_
      exact follows_pure _ (by simp)
  refine (follows_semicolons worth).andThen (Nat.le_refl _) fun _ => ?_
  refine (follows_require "package").andThen (Nat.zero_le _) fun _ => ?_
  refine follows_identifier.andThen (Nat.zero_le _) fun package => ?_
  refine follows_declEnd.andThen (Nat.zero_le _) fun _ => ?_
  refine (follows_many next).andThen (by omega) fun decls => ?_
  exact follows_pure _ (Nat.zero_le _)

end

/-- So many steps are enough for so many tokens. -/
def enough (count : Nat) : Nat := count * (count + 15) + 1

theorem answer_file {steps : Nat} (plenty : enough tokens.toList.length ≤ steps) :
    (file tokens.toList 0 steps).answer? = some (SourceFile.ofTokens tokens) := by
  have paid : (tokens.body.length + 16) * tokens.body.length + 1 ≤ steps := by
    have size := tokens.length_toList
    have more := Nat.mul_le_mul_left (tokens.body.length + 16) (Nat.le_succ tokens.body.length)
    rw [enough, size, Nat.mul_comm] at plenty
    exact Nat.le_trans (Nat.succ_le_succ more) plenty
  have settled := follows_file (Nat.le_refl _) 0 steps 0 (Nat.le_refl _) paid
  rw [List.drop_zero] at settled
  cases outcome : Reader.file tokens.final tokens.body with
  | done file rest =>
    rw [outcome] at settled
    obtain ⟨index, remaining, same, -⟩ := settled
    rw [same, SourceFile.ofTokens_of_done outcome]
    rfl
  | failed error =>
    rw [outcome] at settled
    rw [show file tokens.toList 0 steps = .failed error from settled,
      SourceFile.ofTokens_of_failed outcome]
    rfl
  | exhausted => exact absurd outcome (Reader.file_ne_exhausted tokens.final_ends _)

/-- A list of tokens whose last one ends the file, if there is any, is read to a file or to an error in
it, within a number of steps that only depends on the length of the list. No access is out of range,
and no depth goes below zero. -/
theorem answer_parse {list : List Token} (closed : ∀ last ∈ list.getLast?, last.kind = .endOfFile)
    {steps : Nat} (plenty : enough list.length ≤ steps) :
    ∃ tokens, Tokens.ofList? list = some tokens ∧
      (parse list steps).answer? = some (SourceFile.ofTokens tokens) := by
  cases list with
  | nil => exact ⟨_, rfl, rfl⟩
  | cons first rest =>
    have ends : ((first :: rest).getLast (by simp)).kind = .endOfFile :=
      closed _ (List.getLast?_eq_some_getLast _)
    have whole : (first :: rest).dropLast ++ [(first :: rest).getLast (by simp)] = first :: rest :=
      List.dropLast_concat_getLast _
    let tokens : Tokens := ⟨(first :: rest).dropLast, (first :: rest).getLast (by simp), ends⟩
    have read := @answer_file tokens steps (by rwa [Tokens.toList, whole])
    refine ⟨tokens, dif_pos ends, ?_⟩
    rwa [Tokens.toList, whole] at read

/-- A name spelled like a bracket, and two structs that are closed by ends of the file -/
theorem answer_parse_misplaced : ∃ file : SourceFile,
    (parse [⟨.keyword, "package", .start⟩, ⟨.identifier, "(", .start⟩, ⟨.semicolon, "", .start⟩,
      ⟨.keyword, "type", .start⟩, ⟨.identifier, "T", .start⟩, ⟨.keyword, "struct", .start⟩,
      ⟨.operator, Token.leftBrace, .start⟩, ⟨.identifier, "A", .start⟩, ⟨.keyword, "struct", .start⟩,
      ⟨.operator, Token.leftBrace, .start⟩, ⟨.endOfFile, Token.rightBrace, .start⟩,
      ⟨.semicolon, "", .start⟩, ⟨.endOfFile, Token.rightBrace, .start⟩] (enough 13)).answer? =
        some (.ok file) ∧ file.package = "(" ∧
      file.decls.map TypeDecl.type = [.struct [⟨["A"], .start, .struct [], none⟩]] := by
  obtain ⟨tokens, listed, answered⟩ := @answer_parse
    [⟨.keyword, "package", .start⟩, ⟨.identifier, "(", .start⟩, ⟨.semicolon, "", .start⟩,
      ⟨.keyword, "type", .start⟩, ⟨.identifier, "T", .start⟩, ⟨.keyword, "struct", .start⟩,
      ⟨.operator, Token.leftBrace, .start⟩, ⟨.identifier, "A", .start⟩, ⟨.keyword, "struct", .start⟩,
      ⟨.operator, Token.leftBrace, .start⟩, ⟨.endOfFile, Token.rightBrace, .start⟩,
      ⟨.semicolon, "", .start⟩, ⟨.endOfFile, Token.rightBrace, .start⟩]
    (by simp) (enough 13) (Nat.le_refl _)
  cases listed
  exact ⟨_, answered, rfl, rfl⟩

end Cursor

end GoDto
