import GoDto.Dto.Lookup
import GoDto.Proofs.CodeTokens
import GoDto.Proofs.TypeTokens

/-!
What a generated text declares. Its tokens derive a file with a single struct, which has the fields
of the context. The function below the struct is passed over.
-/

namespace GoDto.Dto

open Grammar

variable {tokens : List Token} {fields : List Field} {field : Field} {context : Context}

/-- The tokens of a declared field derive it, up to the semicolon. -/
theorem Field.Sound.derives (sound : field.Sound)
    (same : tokens.map Token.face = field.declaredFaces) : ∃ front semicolon decl,
      tokens = front ++ [semicolon] ∧ semicolon.kind = .semicolon ∧
        Grammar.Field TypeOf front decl ∧ decl.fields = [field] := by
  obtain ⟨type, plain, spelled, lexemes⟩ := sound.declared_eq
  rw [declaredFaces, lexemes, plain.filterMap_face?, List.cons_append] at same
  obtain ⟨name, rest, rfl, face, same⟩ := List.map_eq_cons_iff.1 same
  obtain ⟨typeTokens, ending, rfl, typeSame, same⟩ := List.map_eq_append_iff.1 same
  obtain ⟨tag, rest, rfl, tagFace, same⟩ := List.map_eq_cons_iff.1 same
  obtain ⟨semicolon, rfl, lineFace⟩ := List.map_eq_singleton_iff.1 same
  obtain ⟨kind, text⟩ := Token.face_eq_iff.1 face
  obtain ⟨tagKind, -⟩ := Token.face_eq_iff.1 tagFace
  refine ⟨name :: typeTokens ++ [tag], semicolon, ⟨[name.text], name.position, type, some tag.text⟩,
    by simp, (Token.face_eq_iff.1 lineFace).1, ?_, ?_⟩
  · refine .intro (.named (.last kind) (plain.typeOf typeSame)) (.some ?_)
    simp [Token.isLiteralString, tagKind]
  · obtain ⟨fieldName, fieldType, fieldTag⟩ := field
    simp only [FieldDecl.fields, List.map_cons, List.map_nil, text, spelled]
    rw [← sound.tag]

/-- The tokens of all declared fields derive them one after another. -/
theorem items_of_declared (sound : ∀ field ∈ fields, field.Sound)
    (same : tokens.map Token.face = fields.flatMap Field.declaredFaces) : ∃ body,
      Items (Grammar.Field TypeOf) tokens body ∧ body.flatMap FieldDecl.fields = fields := by
  induction fields generalizing tokens with
  | nil =>
    obtain rfl := List.map_eq_nil_iff.1 same
    exact ⟨[], .none semicolons_nil, rfl⟩
  | cons field fields ih =>
    rw [List.flatMap_cons] at same
    obtain ⟨own, later, rfl, ownSame, laterSame⟩ := List.map_eq_append_iff.1 same
    obtain ⟨front, semicolon, decl, rfl, kind, derived, taken⟩ :=
      (sound field List.mem_cons_self).derives ownSame
    obtain ⟨body, items, others⟩ :=
      ih (fun other member => sound other (List.mem_cons_of_mem _ member)) laterSame
    refine ⟨decl :: body, ?_, by rw [List.flatMap_cons, taken, others, List.singleton_append]⟩
    have blank : Semicolons [] := semicolons_nil
    simpa using Items.more blank derived kind items

/-- There are no brackets among the assignments. -/
theorem balanced_assigned (same : tokens.map Token.face = fields.flatMap Field.assignedFaces) :
    Balanced tokens := by
  apply balanced_of_forall
  intro token member
  have face : token.face ∈ fields.flatMap Field.assignedFaces := same ▸ List.mem_map_of_mem member
  obtain ⟨field, -, face⟩ := List.mem_flatMap.1 face
  simp only [Field.assignedFaces, List.mem_cons, List.not_mem_nil, or_false, Token.face_eq_iff] at face
  rcases face with name | colon | source | dot | name | comma
  · exact Token.bracketless_of_kind (by simp [name.1])
  · exact Token.IsOperator.bracketless colon (by decide)
  · exact Token.bracketless_of_kind (by simp [source.1])
  · exact Token.IsOperator.bracketless dot (by decide)
  · exact Token.bracketless_of_kind (by simp [name.1])
  · exact Token.IsOperator.bracketless comma (by decide)

/-- The function is passed over: a name, its parameters, another name and its body. -/
theorem decl_of_function {head assigned ending : List Token}
    (headSame : head.map Token.face = context.functionFaces) (balanced : Balanced assigned)
    (endingSame : ending.map Token.face = Context.endingFaces) :
    Decl (head ++ (assigned ++ ending)) [] := by
  simp only [Context.functionFaces, Context.endingFaces, lineFace, List.map_eq_cons_iff, List.map_eq_nil_iff,
    Token.face_eq_iff] at headSame endingSame
  obtain ⟨keyword, _, rfl, isKeyword, mapper, _, rfl, mapperName, opener, _, rfl, opens, input, _, rfl,
    inputName, source, _, rfl, sourceName, closer, _, rfl, closes, result, _, rfl, resultName, start, _,
    rfl, starts, returning, _, rfl, returns, made, _, rfl, madeName, first, _, rfl, firstOpens, rfl⟩ :=
    headSame
  obtain ⟨last, _, rfl, lastCloses, semicolon, _, rfl, line, final, _, rfl, ends, rfl⟩ := endingSame
  have plain {token : Token} (kind : token.kind = .identifier) : IsPlain token := by
    obtain ⟨opens, closes⟩ := @Token.bracketless_of_kind token (by simp [kind])
    exact ⟨opens, closes, by simp [kind], by simp [kind]⟩
  have parameters : Group opener (opener :: ([input, source] ++ [closer])) := by
    refine .intro (Token.IsOperator.opens opens (by decide)) ?_ (Token.IsOperator.closes closes (by decide))
    apply balanced_cons_of_kind (by simp [inputName.1])
    apply balanced_cons_of_kind (by simp [sourceName.1])
    exact balanced_nil
  have value : Balanced (first :: (assigned ++ [last]) ++ [semicolon]) := by
    apply Settles.append (balanced_enclose (Token.IsOperator.opens firstOpens (by decide)) balanced
      (Token.IsOperator.closes lastCloses (by decide)))
    apply balanced_cons_of_kind (by simp [line.1])
    exact balanced_nil
  have body : Group start (start ::
      (returning :: made :: (first :: (assigned ++ [last]) ++ [semicolon]) ++ [final])) := by
    refine .intro (Token.IsOperator.opens starts (by decide)) ?_ (Token.IsOperator.closes ends (by decide))
    apply balanced_cons_of_kind (by simp [returns.1])
    exact balanced_cons_of_kind (by simp [madeName.1]) value
  have skipped := Skipped.token (plain mapperName.1)
    (.group parameters (.token (plain resultName.1) (.group body .nil)))
  simpa using Decl.other isKeyword (by decide) skipped

/-- The tokens of a generated text derive a file with the struct in it. -/
theorem Context.Sound.derives (sound : context.Sound) {final : Token} (ends : final.kind = .endOfFile)
    (same : tokens.map Token.face = context.faces) : ∃ position body,
      File (tokens ++ [final]) ⟨context.package, [⟨context.dto, position, false, .struct body⟩]⟩ ∧
        body.flatMap FieldDecl.fields = context.fields := by
  obtain ⟨opening, rest, rfl, openingSame, same⟩ := List.map_eq_append_iff.1 same
  obtain ⟨declared, rest, rfl, declaredSame, same⟩ := List.map_eq_append_iff.1 same
  obtain ⟨middle, rest, rfl, middleSame, same⟩ := List.map_eq_append_iff.1 same
  obtain ⟨assigned, closing, rfl, assignedSame, closingSame⟩ := List.map_eq_append_iff.1 same
  obtain ⟨closer, rest, rfl, closes, middleSame⟩ := List.map_eq_cons_iff.1 middleSame
  obtain ⟨line, head, rfl, lineFace, headSame⟩ := List.map_eq_cons_iff.1 middleSame
  obtain ⟨ending, rest, rfl, endingSame, lastSame⟩ := List.map_eq_append_iff.1 closingSame
  obtain ⟨last, rfl, lastFace⟩ := List.map_eq_singleton_iff.1 lastSame
  obtain ⟨body, items, taken⟩ := items_of_declared sound.fields declaredSame
  have function := decl_of_function headSame (balanced_assigned assignedSame) endingSame
  simp only [Context.openingFaces, GoDto.lineFace, List.map_eq_cons_iff, List.map_eq_nil_iff,
    Token.face_eq_iff] at openingSame lineFace lastFace closes
  obtain ⟨package, _, rfl, isPackage, name, _, rfl, packageName, packageLine, _, rfl, packageEnd, type, _, rfl,
    isType, dto, _, rfl, dtoName, struct, _, rfl, isStruct, opener, _, rfl, opens, rfl⟩ := openingSame
  have blank : Semicolons [] := semicolons_nil
  have structType : TypeOf (struct :: opener :: (declared ++ [closer])) (.struct body) :=
    .intro (.struct isStruct opens items closes)
  have spec : Spec (dto :: ([] ++ ([] ++ (struct :: opener :: (declared ++ [closer])))))
      ⟨dto.text, dto.position, false, .struct body⟩ := by
    refine .intro dtoName.1 (.none ?_) .absent structType
    rintro ⟨bracket, _, _, _, same, isBracket, -⟩
    obtain ⟨rfl, -⟩ := List.cons.inj same
    exact absurd (isStruct.1.symm.trans isBracket.1) (by decide)
  have decls := Decls.more blank function (.semicolon lastFace.1) (.none blank ends)
  have file := File.intro blank isPackage packageName.1 (.semicolon packageEnd.1)
    (.more blank (.type isType spec) (.semicolon lineFace.1) decls)
  rw [packageName.2, dtoName.2] at file
  exact ⟨dto.position, body, by simpa using file, taken⟩

end GoDto.Dto
