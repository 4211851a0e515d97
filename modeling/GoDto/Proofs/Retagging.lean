import GoDto.Dto.Code
import GoDto.Proofs.Acceptance
import GoDto.Proofs.LookupEvents
import GoDto.Proofs.TreeSlots

/-!
Tags changed, removed and added. Whatever stands in the slot for the tag of a field, the tree is the
same but for that tag. What a DTO is made from does not depend on it.
-/

namespace GoDto

section
variable {plug : Option String → GoType} (slot : GoType.TagSlot plug) (tag other : Option String)
include slot

theorem GoType.TagSlot.spelling_eq : (plug tag).spelling = (plug other).spelling := by
  induction slot with
  | own => rfl
  | inside => rfl
  | pointer _ ih => exact congrArg ("*" ++ ·) ih
  | sequence _ ih => exact congrArg ("[]" ++ ·) ih

theorem GoType.TagSlot.isStruct_eq {name : String} {position : Position} {isAlias : Bool} :
    TypeDecl.isStruct ⟨name, position, isAlias, plug tag⟩ =
      TypeDecl.isStruct ⟨name, position, isAlias, plug other⟩ := by
  cases slot <;> rfl

/-- The fields of a struct are taken whatever their tags and those inside them are. -/
theorem GoType.TagSlot.taken_eq {name : String} {position : Position} {isAlias : Bool} :
    TypeDecl.taken ⟨name, position, isAlias, plug tag⟩ =
      TypeDecl.taken ⟨name, position, isAlias, plug other⟩ := by
  cases slot with
  | own => simp [TypeDecl.taken, TypeDecl.body]
  | inside slot => simp [TypeDecl.taken, TypeDecl.body, slot.spelling_eq tag other]
  | pointer => rfl
  | sequence => rfl

end

theorem Tokens.ofList?_toList (tokens : Tokens) : ofList? tokens.toList = some tokens := by
  obtain ⟨body, final, ends⟩ := tokens
  cases body with
  | nil => exact dif_pos ends
  | cons first body =>
    have last : (first :: (body ++ [final])).getLast (by simp) = final :=
      List.getLast_concat (l := first :: body)
    unfold toList ofList?
    simp [last, ends, List.dropLast_cons_of_ne_nil]

theorem Grammar.Tag.readable {ending : List Token} {tag : Option String} (tagged : Tag ending tag) :
    ∀ token ∈ ending, token.Readable := by
  intro token member
  cases tagged with
  | none => cases member
  | some literal =>
    obtain rfl := List.mem_singleton.1 member
    exact Token.readable_of_isLiteralString literal

namespace SourceFile

/-- What is found for a name does not depend on any tag. -/
theorem TagSlot.lookUp_eq {plug : Option String → SourceFile} (slot : TagSlot plug)
    (tag other : Option String) (name : String) :
    ((plug tag).lookUp name).1 = ((plug other).lookUp name).1 := by
  obtain @⟨package, own, before, after, position, isAlias, plug, slot⟩ := slot
  let decls (tag : Option String) : List TypeDecl := before ++ ⟨own, position, isAlias, plug tag⟩ :: after
  have same : (TypeDecl.structs name (decls tag)).map TypeDecl.taken =
      (TypeDecl.structs name (decls other)).map TypeDecl.taken := by
    rw [TypeDecl.structs_append, TypeDecl.structs_append, List.map_append, List.map_append]
    congr 1
    simp only [TypeDecl.structs, List.filter_cons, slot.isStruct_eq tag other]
    split
    · rw [List.map_cons, List.map_cons, slot.taken_eq tag other]
    · rfl
  have found (tag : Option String) : (SourceFile.lookUp ⟨package, decls tag⟩ name).1 =
      ((TypeDecl.structs name (decls tag)).map TypeDecl.taken).getLast?.map fun fields => ⟨package, fields⟩ := by
    rw [lookUp_fst, List.getLast?_map, Option.map_map]
    rfl
  calc (SourceFile.lookUp ⟨package, decls tag⟩ name).1
      = ((TypeDecl.structs name (decls tag)).map TypeDecl.taken).getLast?.map (⟨package, ·⟩) := found tag
    _ = ((TypeDecl.structs name (decls other)).map TypeDecl.taken).getLast?.map (⟨package, ·⟩) := by rw [same]
    _ = (SourceFile.lookUp ⟨package, decls other⟩ name).1 := (found other).symm

/-- What is made for the struct of a name: its fields, the context and the code -/
def made? (file : SourceFile) (name : String) : Option (Dto.StructFields × Dto.Context × String) :=
  (file.lookUp name).1.map fun found =>
    (found, Dto.Context.ofStruct name found, (Dto.Context.ofStruct name found).code)

/-- Whatever tag stands in a slot in the tokens of the file, it is all that differs. -/
structure TagFree (file : SourceFile) (front back : List Token) (plug : Option String → SourceFile) : Prop where
  /-- The slot is that of a field in the tree, or of one that the tree does not keep. -/
  kept : TagSlot plug ∨ plug = fun _ => file
  /-- With a tag, or with none, the tokens are read to the same tree but for that tag. -/
  reads : ∀ ending tag, Grammar.Tag ending tag → ∃ changed,
    Tokens.ofList? (front ++ ending ++ back) = some changed ∧ ofTokens changed = .ok (plug tag)
  /-- The same is made for every name. -/
  made : ∀ tag name, (plug tag).made? name = file.made? name

/-- Proper tokens with any other tag in a slot, or with none, are read. -/
theorem ofTokens_of_slot {tokens : Tokens} (proper : tokens.Proper) {front ending back : List Token}
    {plug : Option String → SourceFile} (slot : Grammar.FileSlot front back plug)
    (whole : tokens.toList = front ++ ending ++ back) {other : List Token} {tag : Option String}
    (tagged : Grammar.Tag other tag) : ∃ changed,
      Tokens.ofList? (front ++ other ++ back) = some changed ∧ ofTokens changed = .ok (plug tag) := by
  obtain ⟨middle, last, rfl⟩ := slot.back_concat
  have parts : tokens.body = front ++ ending ++ middle ∧ tokens.final = last := by
    rw [Tokens.toList, ← List.append_assoc] at whole
    exact List.append_singleton_inj.1 whole
  let changed : Tokens := ⟨front ++ other ++ middle, tokens.final, tokens.final_ends⟩
  have listed : changed.toList = front ++ other ++ (middle ++ [last]) := by
    rw [Tokens.toList, ← parts.2, List.append_assoc]
  have readable : ∀ token ∈ changed.body, token.Readable := by
    intro token member
    have old (inside : token ∈ tokens.body) : token.Readable := (proper.body token inside).readable
    rw [parts.1, List.mem_append, List.mem_append] at old
    rcases List.mem_append.1 member with member | behind
    · rcases List.mem_append.1 member with before | new
      · exact old (.inl (.inl before))
      · exact tagged.readable token new
    · exact old (.inr behind)
  refine ⟨changed, ?_, ofTokens_of_readable readable proper.final (listed ▸ slot.fill tagged)⟩
  rw [← listed, changed.ofList?_toList]

/-- The tag of every field stands in a slot, and the tags in any slot can be changed, removed and added.
All of them may be spelled in any way. -/
theorem ofTokens_retagged {tokens : Tokens} {file : SourceFile} (proper : tokens.Proper)
    (read : ofTokens tokens = .ok file) :
    (∀ plug tag, TagSlot plug → plug tag = file →
      Grammar.HasSlot Grammar.FileSlot tokens.toList plug tag) ∧
    ∀ front ending back plug tag, Grammar.FileSlot front back plug → Grammar.Tag ending tag →
      tokens.toList = front ++ ending ++ back → plug tag = file ∧ file.TagFree front back plug := by
  constructor
  · rintro plug tag slot rfl
    exact (grammar_of_ofTokens proper read).hasSlot slot
  · intro front ending back plug tag slot tagged whole
    have same : plug tag = file := by
      have filled := slot.fill tagged
      rw [← whole] at filled
      exact Except.ok.inj ((ofTokens_of_grammar proper filled).symm.trans read)
    have kept : TagSlot plug ∨ plug = fun _ => file := by
      rcases slot.kept with slot | ⟨other, rfl⟩
      · exact .inl slot
      · exact .inr (same ▸ rfl)
    refine ⟨same, kept, fun _ _ otherTagged => ofTokens_of_slot proper slot whole otherTagged, ?_⟩
    intro other name
    rcases kept with slot | rfl
    · rw [← same, made?, slot.lookUp_eq other tag name, made?]
    · rfl

/-- An embedded field with a type argument loses its tag, and a field of an inner struct gets one. -/
theorem ofTokens_retagged_embedded : ∃ (tokens : Tokens) (tree : Option String → Option String → SourceFile),
    tokens.Proper ∧ ofTokens tokens = .ok (tree (some "\"x\"") none) ∧
      (∀ own inner, (tree own inner).decls.map TypeDecl.type =
        [.struct [⟨[], .start, .outline .instanceOfOne, own⟩,
          ⟨["N"], .start, .struct [⟨["B"], .start, .name "int", inner⟩], none⟩]]) ∧
      (∃ front token back changed, tokens.toList = front ++ token :: back ∧ token.text = "\"x\"" ∧
        Tokens.ofList? (front ++ back) = some changed ∧ ofTokens changed = .ok (tree none none)) ∧
      ∃ front back, tokens.toList = front ++ back ∧ ∀ token : Token, token.isLiteralString →
        ∃ changed, Tokens.ofList? (front ++ token :: back) = some changed ∧
          ofTokens changed = .ok (tree (some "\"x\"") (some token.text)) := by
  let tokens : Tokens := ⟨[⟨.keyword, "package", .start⟩, ⟨.identifier, "p", .start⟩, .lineEnd .start,
    ⟨.keyword, "type", .start⟩, ⟨.identifier, "A", .start⟩, ⟨.keyword, "struct", .start⟩,
    ⟨.operator, Token.leftBrace, .start⟩, ⟨.identifier, "Base", .start⟩, ⟨.operator, "[", .start⟩,
    ⟨.identifier, "T", .start⟩, ⟨.operator, "]", .start⟩, ⟨.string, "\"x\"", .start⟩, .lineEnd .start,
    ⟨.identifier, "N", .start⟩, ⟨.keyword, "struct", .start⟩, ⟨.operator, Token.leftBrace, .start⟩,
    ⟨.identifier, "B", .start⟩, ⟨.identifier, "int", .start⟩, ⟨.operator, Token.rightBrace, .start⟩,
    ⟨.operator, Token.rightBrace, .start⟩, .lineEnd .start], .fileEnd .start, rfl⟩
  let base (own : Option String) : FieldDecl GoType := ⟨[], .start, .outline .instanceOfOne, own⟩
  let body (inner : Option String) : GoType := .struct [⟨["B"], .start, .name "int", inner⟩]
  let tree (own inner : Option String) : SourceFile :=
    ⟨"p", [⟨"A", .start, false, .struct [base own, ⟨["N"], .start, body inner, none⟩]⟩]⟩
  have proper : tokens.Proper := by decide
  have read : ofTokens tokens = .ok (tree (some "\"x\"") none) := rfl
  have retagged := ofTokens_retagged proper read
  have embedded : TagSlot fun own => tree own none :=
    @TagSlot.intro "p" "A" [] [] .start false _ (@GoType.TagSlot.own [] [_] [] .start _)
  have nested : TagSlot fun inner => tree (some "\"x\"") inner :=
    @TagSlot.intro "p" "A" [] [] .start false _ (@GoType.TagSlot.inside [base (some "\"x\"")] [] ["N"] .start _ none
      (@GoType.TagSlot.own [] [] ["B"] .start (.name "int")))
  refine ⟨tokens, tree, proper, read, fun _ _ => rfl, ?_, ?_⟩
  · obtain ⟨front, ending, back, whole, tagged, slot⟩ := retagged.1 _ (some "\"x\"") embedded rfl
    obtain ⟨changed, listed, changedRead⟩ := (retagged.2 _ _ _ _ _ slot tagged whole).2.reads [] none .none
    generalize text : some "\"x\"" = tag at tagged
    cases tagged with
    | none => cases text
    | @some token literal =>
      refine ⟨front, token, back, changed, by simpa using whole, (Option.some.inj text).symm, ?_, changedRead⟩
      simpa using listed
  · obtain ⟨front, ending, back, whole, tagged, slot⟩ := retagged.1 _ none nested rfl
    have free := (retagged.2 _ _ _ _ _ slot tagged whole).2
    generalize text : (none : Option String) = tag at tagged
    cases tagged with
    | some literal => cases text
    | none =>
      refine ⟨front, back, by simpa using whole, ?_⟩
      intro token literal
      obtain ⟨changed, listed, changedRead⟩ := free.reads [token] (some token.text) (.some literal)
      exact ⟨changed, by simpa using listed, changedRead⟩

end SourceFile

end GoDto
