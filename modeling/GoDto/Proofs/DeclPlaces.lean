import GoDto.Proofs.DeclSeam

/-!
Places of declarations. A place is given by the tokens in front of one declared type and behind it,
and by the types that are declared before it and after it. Whatever declaration is put into a place,
the tokens derive a file, and every declaration of a file stands in one.
-/

namespace GoDto.Grammar

/-- The place of one of several items -/
inductive ItemPlace {α : Type} (Item : List Token → α → Prop) :
    List Token → List Token → List α → List α → Prop where
  | last {blank : List Token} : Semicolons blank → ItemPlace Item blank [] [] []
  | here {blank rest : List Token} {semicolon : Token} {after : List α} : Semicolons blank →
      semicolon.kind = .semicolon → Items Item rest after →
      ItemPlace Item blank (semicolon :: rest) [] after
  | later {blank own front back : List Token} {semicolon : Token} {value : α}
      {before after : List α} : Semicolons blank → Item own value → semicolon.kind = .semicolon →
      ItemPlace Item front back before after →
      ItemPlace Item (blank ++ own ++ semicolon :: front) back (value :: before) after

/-- The place of a type behind the keyword, alone or in a group -/
inductive DeclPlace :
    List Token → List Token → List TypeDecl → List TypeDecl → Prop where
  | type {keyword : Token} : keyword.IsKeyword "type" → DeclPlace [keyword] [] [] []
  | types {keyword opener closer : Token} {front back : List Token} {before after : List TypeDecl} :
      keyword.IsKeyword "type" → opener.IsOperator "(" → ItemPlace Spec front back before after →
      closer.IsOperator ")" → DeclPlace (keyword :: opener :: front) (back ++ [closer]) before after

/-- All declarations in front of a place end with semicolons. -/
inductive DeclsPlace :
    List Token → List Token → List TypeDecl → List TypeDecl → Prop where
  | intro {opening front back ending rest : List Token} {found : List (List TypeDecl)}
      {before after later : List TypeDecl} : Completed opening found →
      DeclPlace front back before after → Ending ending rest → Decls rest later →
      DeclsPlace (opening ++ front) (back ++ (ending ++ rest)) (found.flatten ++ before) (after ++ later)

/-- The place of a type in a file of the package -/
inductive FilePlace :
    List Token → List Token → String → List TypeDecl → List TypeDecl → Prop where
  | intro {blank front back : List Token} {keyword name semicolon : Token}
      {before after : List TypeDecl} : Semicolons blank → keyword.IsKeyword "package" →
      name.kind = .identifier → semicolon.kind = .semicolon → DeclsPlace front back before after →
      FilePlace (blank ++ keyword :: name :: semicolon :: front) back name.text before after

section
variable {α : Type} {Item : List Token → α → Prop} {front own back : List Token} {value other : α}
  {before after values : List α}

theorem ItemPlace.fill (place : ItemPlace Item front back before after) (item : Item own value) :
    Items Item (front ++ own ++ back) (before ++ value :: after) := by
  induction place with
  | last blank => simpa using Items.last blank item
  | here blank semicolon rest => simpa using Items.more blank item semicolon rest
  | later blank first semicolon _ ih => simpa using Items.more blank first semicolon ih

theorem singleton_eq_append_cons (whole : [other] = before ++ value :: after) :
    before = [] ∧ value = other ∧ after = [] := by
  rcases List.singleton_eq_append_iff.1 whole with ⟨rfl, same⟩ | ⟨-, same⟩
  · simpa using same
  · cases same

/-- Every item stands in a place. -/
theorem Items.place {tokens : List Token} (items : Items Item tokens values)
    (whole : values = before ++ value :: after) : ∃ front own back, tokens = front ++ own ++ back ∧
      Item own value ∧ ItemPlace Item front back before after := by
  induction items generalizing before with
  | none blank => simp at whole
  | @last blank own _ blanks item =>
    obtain ⟨rfl, rfl, rfl⟩ := singleton_eq_append_cons whole
    exact ⟨blank, own, [], by simp, item, .last blanks⟩
  | @more blank own rest semicolon _ _ blanks item kind items ih =>
    cases before with
    | nil =>
      obtain ⟨rfl, rfl⟩ := List.cons.inj whole
      exact ⟨blank, own, semicolon :: rest, by simp, item, .here blanks kind items⟩
    | cons first before =>
      obtain ⟨rfl, others⟩ := List.cons.inj whole
      obtain ⟨front, inner, back, rfl, found, place⟩ := ih others
      exact ⟨blank ++ own ++ semicolon :: front, inner, back, by simp, found,
        .later blanks item kind place⟩

end

section
variable {tokens front own back blank rest : List Token} {before after decls : List TypeDecl}
  {decl : TypeDecl} {package : String}

theorem DeclPlace.fill (place : DeclPlace front back before after) (spec : Spec own decl) :
    Decl (front ++ own ++ back) (before ++ decl :: after) := by
  cases place with
  | type keyword => simpa using Decl.type keyword spec
  | types keyword opener items closer => simpa using Decl.types keyword opener (items.fill spec) closer

theorem Decl.place (derives : Decl tokens decls) (whole : decls = before ++ decl :: after) :
    ∃ front own back, tokens = front ++ own ++ back ∧ Spec own decl ∧ DeclPlace front back before after := by
  cases derives with
  | @type keyword rest _ spelled spec =>
    obtain ⟨rfl, rfl, rfl⟩ := singleton_eq_append_cons whole
    exact ⟨[keyword], rest, [], by simp, spec, .type spelled⟩
  | @types keyword opener closer inner _ spelled opens items closes =>
    obtain ⟨front, own, back, rfl, spec, place⟩ := items.place whole
    exact ⟨keyword :: opener :: front, own, back ++ [closer], by simp, spec,
      .types spelled opens place closes⟩
  | other => simp at whole

theorem Decls.blank_append (derives : Decls tokens decls) (blanks : Semicolons blank) :
    Decls (blank ++ tokens) decls := by
  cases derives with
  | none others ends => simpa using Decls.none (blanks.append others) ends
  | more others derived ended later => simpa using Decls.more (blanks.append others) derived ended later

/-- Completed declarations go on with others. -/
theorem Completed.append {found : List (List TypeDecl)} (completed : Completed front found)
    (derives : Decls rest decls) : Decls (front ++ rest) (found.flatten ++ decls) := by
  induction completed with
  | none blanks => exact derives.blank_append blanks
  | more blanks own semicolon _ ih => simpa using Decls.more blanks own (.semicolon semicolon) ih

theorem DeclsPlace.fill (place : DeclsPlace front back before after) (spec : Spec own decl) :
    Decls (front ++ own ++ back) (before ++ decl :: after) := by
  obtain ⟨completed, place, ended, later⟩ := place
  simpa using completed.append (.more semicolons_nil (place.fill spec) ended later)

/-- A completed declaration may come before all others. -/
theorem DeclsPlace.more {semicolon : Token} (place : DeclsPlace front back before after)
    (blanks : Semicolons blank) (derives : Decl own decls) (kind : semicolon.kind = .semicolon) :
    DeclsPlace (blank ++ (own ++ semicolon :: front)) back (decls ++ before) after := by
  obtain ⟨completed, place, ended, later⟩ := place
  simpa using DeclsPlace.intro (.more blanks derives kind completed) place ended later

/-- With a declaration in a place, a file is derived that declares its type between the others. -/
theorem FilePlace.fill (place : FilePlace front back package before after) (spec : Spec own decl) :
    File (front ++ own ++ back) ⟨package, before ++ decl :: after⟩ := by
  obtain ⟨blanks, keyword, name, semicolon, place⟩ := place
  simpa using File.intro blanks keyword name (.semicolon semicolon) (place.fill spec)

/-- Nothing is declared behind the end of the file. -/
theorem Decls.eq_nil {last : Token} (derives : Decls (last :: rest) decls)
    (kind : last.kind = .endOfFile) : decls = [] := by
  generalize whole : last :: rest = tokens at derives
  cases derives with
  | none => rfl
  | @more blank own _ _ _ _ blanks derived =>
    exfalso
    obtain ⟨first, others, rfl, word⟩ := derived.first
    cases blank with
    | nil =>
      obtain ⟨rfl, -⟩ := List.cons.inj whole
      simp [kind] at word
    | cons semicolon blank =>
      obtain ⟨rfl, -⟩ := List.cons.inj whole
      simpa [kind] using (semicolons_cons.1 blanks).1

/-- Where something is declared behind it, a declaration ends with a semicolon. -/
theorem Ending.singleton {ending : List Token} (ended : Ending ending rest) (derives : Decls rest decls)
    (some : decls ≠ []) : ∃ semicolon : Token, ending = [semicolon] ∧ semicolon.kind = .semicolon := by
  cases ended with
  | semicolon kind => exact ⟨_, rfl, kind⟩
  | endOfFile kind => exact absurd (derives.eq_nil kind) some

theorem Decls.place (derives : Decls tokens decls) (whole : decls = before ++ decl :: after) :
    ∃ front own back, tokens = front ++ own ++ back ∧ Spec own decl ∧ DeclsPlace front back before after := by
  induction derives generalizing before with
  | none => simp at whole
  | @more blank own ending rest decls later blanks derived ended laterDerived ih =>
    have split : (∃ more, before = decls ++ more ∧ later = more ++ decl :: after) ∨
        ∃ more, decls = before ++ decl :: more ∧ after = more ++ later := by
      rcases List.append_eq_append_iff.1 whole with ⟨more, same⟩ | ⟨more, rfl, same⟩
      · exact .inl ⟨more, same⟩
      · cases more with
        | nil => exact .inl ⟨[], by simp, by simpa using same.symm⟩
        | cons first more =>
          obtain ⟨rfl, rfl⟩ := List.cons.inj same
          exact .inr ⟨more, rfl, rfl⟩
    rcases split with ⟨more, rfl, behind⟩ | ⟨more, here, rfl⟩
    · obtain ⟨semicolon, rfl, kind⟩ := ended.singleton laterDerived (by simp [behind])
      obtain ⟨front, inner, back, rfl, spec, place⟩ := ih behind
      refine ⟨blank ++ (own ++ semicolon :: front), inner, back, by simp, spec, ?_⟩
      exact place.more blanks derived kind
    · obtain ⟨front, inner, back, rfl, spec, place⟩ := derived.place here
      refine ⟨blank ++ front, inner, back ++ (ending ++ rest), by simp, spec, ?_⟩
      simpa using DeclsPlace.intro (.none blanks) place ended laterDerived

/-- Every declaration of a file stands in a place. -/
theorem File.place {file : SourceFile} (derives : File tokens file)
    (whole : file.decls = before ++ decl :: after) : ∃ front own back, tokens = front ++ own ++ back ∧
      Spec own decl ∧ FilePlace front back file.package before after := by
  obtain @⟨blank, ending, rest, keyword, name, decls, blanks, spelled, identifier, ended, derived⟩ := derives
  obtain ⟨semicolon, rfl, kind⟩ := ended.singleton derived (by simp [show decls = _ from whole])
  obtain ⟨front, own, back, rfl, spec, place⟩ := derived.place whole
  refine ⟨blank ++ keyword :: name :: semicolon :: front, own, back, by simp, spec, ?_⟩
  exact .intro blanks spelled identifier kind place

end

end GoDto.Grammar
