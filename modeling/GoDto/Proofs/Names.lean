import GoDto.Proofs.LexemeForm
import GoDto.Proofs.Derivation
import GoDto.Syntax.Source

/-!
Names. Whatever a source file calls by a name is spelled like an identifier, in every declaration
and at any depth of a type.
-/

namespace GoDto

/-- A word that is no keyword -/
structure IsName (text : String) : Prop where
  word : Lexeme.IsWord text.toList
  plain : text ∉ Token.keywords

instance (text : String) : Decidable (IsName text) :=
  decidable_of_iff (Lexeme.IsWord text.toList ∧ text ∉ Token.keywords)
    ⟨fun ⟨word, plain⟩ => ⟨word, plain⟩, fun ⟨word, plain⟩ => ⟨word, plain⟩⟩

/-- An identifier is spelled like one. -/
def Token.Named (token : Token) : Prop := token.kind = .identifier → IsName token.text

theorem Lexeme.Formed.isName {lexeme : Lexeme} (formed : lexeme.Formed)
    (stands : lexeme.kind? = some .identifier) : IsName (String.ofList lexeme.text) := by
  obtain ⟨shape, text⟩ := lexeme
  cases shape with
  | name =>
    have word : IsWord (String.ofList text).toList := by rwa [String.toList_ofList]
    simp only [kind?, Option.some.injEq, List.contains_eq_mem, decide_eq_true_eq] at stands
    split at stands
    · cases stands
    · next plain => exact ⟨word, plain⟩
  | number =>
    have kinds : (if Option.any Char.isDigit (if text.head? = some '.' then text.tail else text).head?
        then Token.Kind.number else .operator) = .identifier := Option.some.inj stands
    generalize Option.any Char.isDigit _ = ascii at kinds
    cases ascii <;> cases kinds
  | operator =>
    simp only [kind?, Option.some.injEq] at stands
    split at stands <;> cases stands
  | _ => cases stands

theorem Lexeme.named_layOut {lexemes : List Lexeme} (formed : ∀ lexeme ∈ lexemes, lexeme.Formed)
    (ends : Bool) (position : Position) : ∀ token ∈ layOut ends position lexemes, token.Named := by
  intro token member identifier
  rcases mem_layOut member with ⟨place, rfl⟩ | ⟨lexeme, listed, stands, text⟩
  · cases identifier
  · rw [text]
    exact (formed lexeme listed).isName (by rw [stands, identifier])

theorem Tokens.named_of_ofText {text : String} {tokens : Tokens} (read : Tokens.ofText text = .ok tokens) :
    ∀ token ∈ tokens.toList, token.Named := by
  obtain ⟨lexemes, formed, body, final⟩ := formed_of_ofText read
  intro token member
  rcases List.mem_append.1 member with inside | last
  · rw [body] at inside
    exact Lexeme.named_layOut formed _ _ token inside
  · rw [List.mem_singleton.1 last, final]
    rintro ⟨⟩

/-- Every name in a type is spelled like an identifier, and a qualified one has two of them. -/
inductive GoType.Named : GoType → Prop where
  | name {text : String} : IsName text → Named (.name text)
  | qualified {base text : String} : IsName base → IsName text → Named (.qualified (.name base) text)
  | pointer {element : GoType} : Named element → Named (.pointer element)
  | sequence {element : GoType} : Named element → Named (.sequence element)
  | struct {fields : List (FieldDecl GoType)} :
      (∀ field ∈ fields, ∀ name ∈ field.names, IsName name) → (∀ field ∈ fields, Named field.type) →
      Named (.struct fields)
  | outline (shape : Shape) : Named (.outline shape)

structure TypeDecl.Named (decl : TypeDecl) : Prop where
  name : IsName decl.name
  type : decl.type.Named

structure SourceFile.Named (file : SourceFile) : Prop where
  package : IsName file.package
  decls : ∀ decl ∈ file.decls, decl.Named

namespace Grammar

section
variable {tokens : List Token} (spelled : ∀ token ∈ tokens, token.Named)
include spelled

theorem Name.named {type : GoType} (derives : Name tokens type) : type.Named := by
  cases derives with
  | @plain first kind => exact .name (spelled first (by simp) kind)
  | @qualified first dot selected kind _ selectedKind =>
    exact .qualified (spelled first (by simp) kind) (spelled selected (by simp) selectedKind)

theorem Names.named {names : List String} (derives : Names tokens names) :
    ∀ name ∈ names, IsName name := by
  induction derives with
  | @last first kind =>
    intro name member
    rw [List.mem_singleton.1 member]
    exact spelled first (by simp) kind
  | @more first comma rest later kind _ _ ih =>
    intro name member
    rcases List.mem_cons.1 member with rfl | inside
    · exact spelled first (by simp) kind
    · exact ih (fun token member => spelled token (by simp [member])) name inside

/-- What holds of all tokens holds of the tokens of each item. -/
theorem Items.named {α : Type} {Item : List Token → α → Prop} {Holds : α → Prop} {values : List α}
    (holds : ∀ {front : List Token} {value : α}, (∀ token ∈ front, token.Named) → Item front value →
      Holds value)
    (items : Items Item tokens values) : ∀ value ∈ values, Holds value := by
  induction items with
  | none => simp
  | @last blank front value _ item =>
    intro other member
    rw [List.mem_singleton.1 member]
    exact holds (fun token member => spelled token (by simp [member])) item
  | @more blank front rest semicolon value later _ item _ _ ih =>
    intro other member
    rcases List.mem_cons.1 member with rfl | inside
    · exact holds (fun token member => spelled token (by simp [member])) item
    · exact ih (fun token member => spelled token (by simp [member])) other inside

theorem Field.named {Inner : List Token → GoType → Prop} {field : FieldDecl GoType}
    (inner : ∀ {rest : List Token} {type : GoType}, (∀ token ∈ rest, token.Named) → Inner rest type →
      type.Named)
    (derives : Field Inner tokens field) : (∀ name ∈ field.names, IsName name) ∧ field.type.Named := by
  obtain @⟨first, rest, ending, names, type, tag, parts, _⟩ := derives
  have own : ∀ token ∈ first :: rest, token.Named :=
    fun token member => spelled token (List.mem_append_left _ member)
  generalize first :: rest = front at parts own
  cases parts with
  | pointer _ element =>
    refine ⟨by simp, .pointer (inner ?_ element)⟩
    exact fun token member => own token (List.mem_cons_of_mem _ member)
  | embedded _ derived => exact ⟨by simp, inner own derived⟩
  | @named front rest names type namesDerived derived =>
    refine ⟨namesDerived.named fun token member => own token (by simp [member]), inner ?_ derived⟩
    exact fun token member => own token (by simp [member])

theorem TypeOf.named {type : GoType} (derives : TypeOf tokens type) : type.Named := by
  refine @TypeOf.induction (fun tokens type => (∀ token ∈ tokens, token.Named) → type.Named) ?_
    tokens type derives spelled
  intro tokens type rule spelled
  cases rule with
  | named name => exact name.named spelled
  | @pointer star rest element _ inner =>
    exact .pointer (inner.2 fun token member => spelled token (by simp [member]))
  | @sequence opener length rest element _ _ inner =>
    exact .sequence (inner.2 fun token member => spelled token (by simp [member]))
  | @struct keyword opener closer inner fields _ _ items _ =>
    have inside : ∀ token ∈ inner, token.Named := fun token member => spelled token (by simp [member])
    have fieldsNamed := items.named inside fun spelled field =>
      field.named spelled fun spelled derived => derived.2 spelled
    exact .struct (fun field member => (fieldsNamed field member).1)
      fun field member => (fieldsNamed field member).2
  | _ => exact .outline _

theorem Spec.named {decl : TypeDecl} (derives : Spec tokens decl) : decl.Named := by
  obtain @⟨name, parameters, sign, rest, isAlias, type, kind, _, _, derived⟩ := derives
  exact ⟨spelled name (by simp) kind, derived.named fun token member => spelled token (by simp [member])⟩

theorem Decl.named {decls : List TypeDecl} (derives : Decl tokens decls) :
    ∀ decl ∈ decls, decl.Named := by
  cases derives with
  | type _ spec =>
    intro decl member
    rw [List.mem_singleton.1 member]
    exact spec.named fun token member => spelled token (by simp [member])
  | types _ _ items _ =>
    refine items.named (fun token member => spelled token (by simp [member])) ?_
    exact fun spelled spec => spec.named spelled
  | other => simp

theorem Decls.named {decls : List TypeDecl} (derives : Decls tokens decls) :
    ∀ decl ∈ decls, decl.Named := by
  induction derives with
  | none => simp
  | more _ own _ _ ih =>
    intro decl member
    rcases List.mem_append.1 member with first | later
    · exact own.named (fun token member => spelled token (by simp [member])) decl first
    · exact ih (fun token member => spelled token (by simp [member])) decl later

theorem File.named {file : SourceFile} (derives : File tokens file) : file.Named := by
  obtain @⟨blank, ending, rest, keyword, name, decls, _, _, kind, _, derived⟩ := derives
  exact ⟨spelled name (by simp) kind, derived.named fun token member => spelled token (by simp [member])⟩

end

end Grammar

/-- A source file that is read from a text calls everything by names. -/
theorem SourceFile.named_of_ofTokens {text : String} {tokens : Tokens} {file : SourceFile}
    (lexed : Tokens.ofText text = .ok tokens) (read : ofTokens tokens = .ok file) : file.Named :=
  (grammar_of_ofTokens (Tokens.proper_of_ofText lexed) read).named (Tokens.named_of_ofText lexed)

end GoDto
