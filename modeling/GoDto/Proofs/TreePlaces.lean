import GoDto.Proofs.Continuation
import GoDto.Proofs.Lossless

/-!
The places in a tree. Every declaration and every field points at the token that it begins with in the
text: at its name, at the first of its names, or at the start of its type where it has none. Read from
the top of the tree, each of them comes behind the one before.
-/

namespace GoDto

/-- A part of a tree that has a place of its own -/
inductive Node where
  | decl (decl : TypeDecl)
  | field (field : FieldDecl GoType)

def Node.position : Node → Position
  | .decl own => own.position
  | .field own => own.position

mutual

/-- The fields inside a type, each in front of those inside its own type -/
def GoType.nodes : GoType → List Node
  | .name _ => []
  | .qualified base _ => base.nodes
  | .pointer element => element.nodes
  | .sequence element => element.nodes
  | .struct fields => fieldNodes fields
  | .outline _ => []

def fieldNodes : List (FieldDecl GoType) → List Node
  | [] => []
  | ⟨names, position, type, tag⟩ :: rest =>
    .field ⟨names, position, type, tag⟩ :: (type.nodes ++ fieldNodes rest)

end

/-- A field, and those inside its type -/
def FieldDecl.nodes (field : FieldDecl GoType) : List Node := .field field :: field.type.nodes

/-- A declaration, and the fields inside its type -/
def TypeDecl.nodes (decl : TypeDecl) : List Node := .decl decl :: decl.type.nodes

/-- The parts of a tree, each in front of those inside it -/
def SourceFile.nodes (file : SourceFile) : List Node := file.decls.flatMap TypeDecl.nodes

theorem fieldNodes_eq (fields : List (FieldDecl GoType)) :
    fieldNodes fields = fields.flatMap FieldDecl.nodes := by
  induction fields with
  | nil => rfl
  | cons field fields ih =>
    rw [fieldNodes, ih]
    rfl

namespace Node

open Grammar

/-- Whether a part of a tree has the place of the token that it begins with. A field without a name
begins with a star or an identifier, which begins its type. -/
inductive Begins : Node → Token → List Token → Prop where
  | decl {name : Token} {rest : List Token} {isAlias : Bool} {type : GoType} :
      name.kind = .identifier → Begins (.decl ⟨name.text, name.position, isAlias, type⟩) name rest
  | named {name : Token} {rest : List Token} {later : List String} {type : GoType}
      {tag : Option String} : name.kind = .identifier →
      Begins (.field ⟨name.text :: later, name.position, type, tag⟩) name rest
  | embedded {first : Token} {own rest : List Token} {type : GoType} {tag : Option String} :
      first.IsOperator "*" ∨ first.kind = .identifier → TypeOf (first :: own) type →
      Begins (.field ⟨[], first.position, type, tag⟩) first (own ++ rest)

/-- Parts of a tree that begin with some of the tokens, in the order of these -/
inductive Marked : List Token → List Node → Prop where
  | nil : Marked [] []
  | skip {token : Token} {rest : List Token} {nodes : List Node} : Marked rest nodes →
      Marked (token :: rest) nodes
  | mark {token : Token} {rest : List Token} {node : Node} {nodes : List Node} :
      node.Begins token rest → Marked rest nodes → Marked (token :: rest) (node :: nodes)

section
variable {node : Node} {nodes others : List Node} {first : Token} {tokens rest : List Token}

theorem Begins.append (begins : node.Begins first rest) (more : List Token) :
    node.Begins first (rest ++ more) := by
  cases begins with
  | decl kind => exact .decl kind
  | named kind => exact .named kind
  | embedded starts derives =>
    rw [List.append_assoc]
    exact .embedded starts derives

theorem Begins.position (begins : node.Begins first rest) : node.position = first.position := by
  cases begins <;> rfl

theorem Begins.isSpelled (begins : node.Begins first rest) : first.isSpelled = true := by
  have spelled : first.kind = .operator ∨ first.kind = .identifier := by
    cases begins with
    | decl kind => exact .inr kind
    | named kind => exact .inr kind
    | embedded starts => exact starts.imp_left And.left
  rcases spelled with kind | kind <;> simp [Token.isSpelled, kind]

theorem Marked.none (tokens : List Token) : Marked tokens [] := by
  induction tokens with
  | nil => exact .nil
  | cons token tokens ih => exact .skip ih

theorem Marked.append (front : Marked tokens nodes) (back : Marked rest others) :
    Marked (tokens ++ rest) (nodes ++ others) := by
  induction front with
  | nil => exact back
  | skip _ ih => exact .skip ih
  | mark begins _ ih => exact .mark (begins.append rest) ih

theorem Marked.before (front : List Token) (marked : Marked rest nodes) : Marked (front ++ rest) nodes :=
  (Marked.none front).append marked

theorem Marked.behind (marked : Marked tokens nodes) (back : List Token) :
    Marked (tokens ++ back) nodes := by
  have longer := marked.append (Marked.none back)
  rwa [List.append_nil] at longer

end

end Node

namespace Grammar

open Node (Marked)

variable {tokens : List Token}

/-- What is marked in the tokens of each item is marked in those of the list. -/
theorem Items.marked {α : Type} {Item : List Token → α → Prop} {nodes : α → List Node}
    {values : List α} (marked : ∀ front value, Item front value → Marked front (nodes value))
    (items : Items Item tokens values) : Marked tokens (values.flatMap nodes) := by
  induction items with
  | none => exact .none _
  | last _ item =>
    rw [List.flatMap_singleton]
    exact (marked _ _ item).before _
  | more _ item _ _ ih =>
    rw [List.flatMap_cons]
    exact ((marked _ _ item).before _).append (.skip ih)

theorem Name.nodes_eq_nil {type : GoType} (name : Name tokens type) : type.nodes = [] := by
  cases name <;> rfl

/-- The fields of a type begin behind its first token. -/
def FieldsMarked (tokens : List Token) (type : GoType) : Prop :=
  TypeOf tokens type ∧ Marked tokens.tail type.nodes

theorem FieldsMarked.whole {type : GoType} (known : FieldsMarked tokens type) :
    Marked tokens type.nodes := by
  cases tokens with
  | nil => exact known.2
  | cons token tokens => exact .skip known.2

theorem begins_of_type {first : Token} {rest : List Token} {type : GoType} {tag : Option String}
    (starts : first.IsOperator "*" ∨ first.kind = .identifier) (derives : TypeOf (first :: rest) type) :
    Node.Begins (.field ⟨[], first.position, type, tag⟩) first rest := by
  have begins := @Node.Begins.embedded first rest [] type tag starts derives
  rwa [List.append_nil] at begins

/-- A field begins with the first of its tokens, and those inside its type behind it. -/
theorem Field.marked {field : FieldDecl GoType} (derives : Field FieldsMarked tokens field) :
    Marked tokens field.nodes := by
  obtain @⟨first, rest, ending, names, type, tag, parts, -⟩ := derives
  generalize same : first :: rest = front at parts
  refine Marked.behind ?_ ending
  cases parts with
  | pointer star element =>
    cases same
    exact .mark (begins_of_type (.inl star) (.intro (.pointer star element.1))) element.whole
  | embedded identifier inner =>
    cases same
    exact .mark (begins_of_type (.inr identifier) inner.1) inner.2
  | named names inner =>
    cases names with
    | last kind =>
      cases same
      exact .mark (.named kind) inner.whole
    | more kind =>
      cases same
      exact .mark (.named kind) (inner.whole.before _)

theorem TypeOf.fieldsMarked {type : GoType} (derives : TypeOf tokens type) : FieldsMarked tokens type := by
  refine ⟨derives, @TypeOf.induction (fun tokens type => Marked tokens.tail type.nodes) ?_
    tokens type derives⟩
  intro tokens type rule
  change TypeRule FieldsMarked tokens type at rule
  cases rule with
  | named name =>
    rw [name.nodes_eq_nil]
    exact .none _
  | pointer _ element => exact element.whole
  | @sequence opener length rest element _ group inner =>
    cases group
    exact inner.whole.before _
  | struct _ _ items _ =>
    refine .skip (Marked.behind ?_ _)
    have marked := items.marked fun _ _ field => field.marked
    rwa [← fieldNodes_eq] at marked
  | _ => exact .none _

theorem Spec.marked {decl : TypeDecl} (derives : Spec tokens decl) : Marked tokens decl.nodes := by
  obtain ⟨kind, _, _, type⟩ := derives
  exact .mark (.decl kind) ((type.fieldsMarked.whole.before _).before _)

theorem Decl.marked {decls : List TypeDecl} (derives : Decl tokens decls) :
    Marked tokens (decls.flatMap TypeDecl.nodes) := by
  cases derives with
  | type _ spec =>
    rw [List.flatMap_singleton]
    exact .skip spec.marked
  | types _ _ items _ => exact .skip (.skip ((items.marked fun _ _ spec => spec.marked).behind _))
  | other => exact .none _

theorem Decls.marked {decls : List TypeDecl} (derives : Decls tokens decls) :
    Marked tokens (decls.flatMap TypeDecl.nodes) := by
  induction derives with
  | none => exact .none _
  | more _ own _ _ ih =>
    rw [List.flatMap_append]
    exact (own.marked.append (ih.before _)).before _

theorem File.marked {file : SourceFile} (derives : File tokens file) : Marked tokens file.nodes := by
  obtain ⟨_, _, _, _, decls⟩ := derives
  exact .before _ (.skip (.skip (decls.marked.before _)))

end Grammar

namespace Node

/-- Whether a part of a tree has the place of the stretch of text in which the token that it begins with
is spelled -/
structure StandsAt (text : String) (tokens : List Token) (node : Node) (span : Span) : Prop where
  place : node.position.Denotes text span.start
  begins : ∃ first rest, first :: rest <:+ tokens ∧ node.Begins first rest ∧ first.Fills text span

section
variable {text : String} {tokens rest : List Token} {token : Token} {node other : Node}
  {nodes : List Node} {span later : Span} {spans : List Span}

theorem StandsAt.cons (stands : node.StandsAt text rest span) (token : Token) :
    node.StandsAt text (token :: rest) span := by
  obtain ⟨first, behind, inside, begins, fills⟩ := stands.begins
  exact ⟨stands.place, first, behind, inside.trans (List.suffix_cons token rest), begins, fills⟩

theorem Begins.standsAt (begins : node.Begins token rest) (fills : token.Fills text span) :
    node.StandsAt text (token :: rest) span := by
  refine ⟨?_, token, rest, List.suffix_refl _, begins, fills⟩
  rw [begins.position]
  exact fills.place

theorem StandsAt.before (stands : node.StandsAt text tokens span)
    (behind : other.StandsAt text tokens later) (ordered : span.stop ≤ later.start) :
    node.position.Before other.position := by
  obtain ⟨first, rest, -, -, fills⟩ := stands.begins
  rw [stands.place.place, behind.place.place]
  exact Position.before_ofOffset (Nat.lt_of_lt_of_le fills.nonempty ordered) behind.place.inside

/-- Parts of a tree that begin with some of the tokens stand where these are spelled. -/
theorem Marked.standsAt (marked : Marked tokens nodes)
    (filled : List.Forall₂ (Token.Fills text) (tokens.filter Token.isSpelled) spans) :
    ∃ own, own.Sublist spans ∧ List.Forall₂ (StandsAt text tokens) nodes own := by
  induction marked generalizing spans with
  | nil => exact ⟨[], List.nil_sublist _, .nil⟩
  | @skip token rest nodes _ ih =>
    by_cases spelled : token.isSpelled = true
    · rw [List.filter_cons_of_pos spelled] at filled
      cases filled with
      | cons _ filled =>
        obtain ⟨own, inside, stands⟩ := ih filled
        exact ⟨own, inside.cons _, stands.imp fun _ _ stands => stands.cons token⟩
    · rw [List.filter_cons_of_neg spelled] at filled
      obtain ⟨own, inside, stands⟩ := ih filled
      exact ⟨own, inside, stands.imp fun _ _ stands => stands.cons token⟩
  | @mark token rest node nodes begins _ ih =>
    rw [List.filter_cons_of_pos begins.isSpelled] at filled
    cases filled with
    | cons fills filled =>
      obtain ⟨own, inside, stands⟩ := ih filled
      refine ⟨_ :: own, inside.cons_cons _, .cons (begins.standsAt fills) ?_⟩
      exact stands.imp fun _ _ stands => stands.cons token

theorem pairwise_before (stands : List.Forall₂ (StandsAt text tokens) nodes spans)
    (ordered : spans.Pairwise fun span later => span.stop ≤ later.start) :
    (nodes.map position).Pairwise Position.Before := by
  obtain ⟨lengths, stands⟩ := List.forall₂_iff_get.1 stands
  rw [List.pairwise_map, List.pairwise_iff_getElem]
  intro index next inside nextInside further
  have apart := List.pairwise_iff_getElem.1 ordered index next (lengths ▸ inside) (lengths ▸ nextInside) further
  exact (stands index inside _).before (stands next nextInside _) apart

end

end Node

/-- Whether every part of a tree has the place where it begins in the text, behind all parts that come
before it from the top of the tree -/
structure SourceFile.Placed (file : SourceFile) (text : String) : Prop where
  stands : ∃ tokens spans, Tokens.ofText text = .ok tokens ∧
    List.Forall₂ (Node.StandsAt text tokens.toList) file.nodes spans ∧
    spans.Pairwise fun span later => span.stop ≤ later.start
  ordered : (file.nodes.map Node.position).Pairwise Position.Before
  distinct : (file.nodes.map Node.position).Nodup

namespace SourceFile

theorem placed_of_ofText {text : String} {file : SourceFile} (read : ofText text = .ok file) :
    file.Placed text := by
  obtain ⟨tokens, lexed, parsed⟩ := exists_tokens_of_ofText read
  have marked := (grammar_of_ofTokens (Tokens.proper_of_ofText lexed) parsed).marked
  obtain ⟨spans, covered⟩ := (Tokens.cover_of_ofText lexed).spelled
  obtain ⟨own, inside, stands⟩ := marked.standsAt covered.filled
  have apart := covered.ordered.sublist inside
  have ordered := Node.pairwise_before stands apart
  exact ⟨⟨tokens, own, lexed, stands, apart⟩, ordered, ordered.imp Position.Before.ne⟩

/-- Declarations in a group and behind it, a name of two bytes, a field inside another one, and embedded
fields of three forms -/
theorem placed_of_ofText_nested : ∃ file,
    ofText "package p; type (é struct { *B; C, D []struct { q.E }
	F[T] }; G int)
type H I" =
      .ok file ∧
    file.nodes.map Node.position = [⟨1, 18⟩, ⟨1, 30⟩, ⟨1, 34⟩, ⟨1, 50⟩, ⟨2, 2⟩, ⟨2, 10⟩, ⟨3, 6⟩] ∧
    file.Placed
      "package p; type (é struct { *B; C, D []struct { q.E }
	F[T] }; G int)
type H I" := by
  let fields : List (FieldDecl GoType) :=
    [⟨[], ⟨1, 30⟩, .pointer (.name "B"), none⟩,
      ⟨["C", "D"], ⟨1, 34⟩, .sequence (.struct [⟨[], ⟨1, 50⟩, .qualified (.name "q") "E", none⟩]), none⟩,
      ⟨[], ⟨2, 2⟩, .outline .instanceOfOne, none⟩]
  let file : SourceFile := ⟨"p", [⟨"é", ⟨1, 18⟩, false, .struct fields⟩,
    ⟨"G", ⟨2, 10⟩, false, .name "int"⟩, ⟨"H", ⟨3, 6⟩, false, .name "I"⟩]⟩
  have read : ofText
      "package p; type (é struct { *B; C, D []struct { q.E }
	F[T] }; G int)
type H I" =
        .ok file := by
    decide +kernel
  exact ⟨file, read, rfl, placed_of_ofText read⟩

end SourceFile

end GoDto
