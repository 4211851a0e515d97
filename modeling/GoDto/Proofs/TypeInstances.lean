import GoDto.Proofs.Derivation
import GoDto.Proofs.Recognition
import Mathlib.Data.List.Basic

/-!
Generic types with their type arguments. Behind a name, an opening bracket is always that of a list of
type arguments, and the number of them tells which shape is kept. An empty list is taken as well.
-/

namespace GoDto

namespace Grammar

/-- So many type arguments and the bracket that closes their list, in front of the tokens left -/
inductive Listed : List Token → Nat → List Token → Prop where
  | intro {inside left : List Token} {closer : Token} {count : Nat} : Arguments TypeOf inside count →
      closer.IsOperator "]" → Listed (inside ++ closer :: left) count left

end Grammar

namespace Reader

open Grammar

variable {final opener : Token} {name rest left : List Token} {named made : GoType}

/-- Behind a name that a bracket follows, the type goes on with type arguments, whatever comes then. -/
theorem type_of_name (derives : Name name named) (opens : opener.IsOperator "[")
    (readable : ∀ token ∈ name ++ opener :: rest, token.Readable) :
    type final (name ++ opener :: rest) =
      (typeArguments (typeWithin (name ++ opener :: rest)) >>= fun count =>
        pure (.outline (if count = 1 then .instanceOfOne else .instanceOfMany))) final (opener :: rest) := by
  obtain ⟨first, more, rfl, identifier⟩ : ∃ first more, name = first :: more ∧ first.kind = .identifier := by
    cases derives with
    | plain identifier => exact ⟨_, _, rfl, identifier⟩
    | qualified identifier => exact ⟨_, _, rfl, identifier⟩
  have starts : TypeHead.ofToken? first = some .name := TypeHead.ofToken?_eq_some_iff.2 identifier
  have undotted : opener.is "." = false := opens.is_eq_false (by decide)
  have reads : (qualifiedName first).Reads final more (opener :: rest) named :=
    reads_qualifiedName derives undotted
  have qualified := reads fun token member => readable token (List.mem_cons_of_mem _ member)
  generalize limit : first :: more ++ opener :: rest = whole
  calc type final whole
      = typeFrom (typeWithin whole) first (TypeHead.ofToken? first) final whole := by
        rw [← limit]
        rfl
    _ = namedType (typeWithin whole) first final (more ++ opener :: rest) := by
        rw [starts, ← limit]
        rfl
    _ = _ := by
        unfold namedType
        rw [bind_of_done qualified, bind_apply]
        simp only [current, lookahead, List.drop_zero, List.headD_cons, opens.is, if_true]

variable (ends : final.Ends) (opens : opener.IsOperator "[")
include ends opens

/-- A list of type arguments is read exactly where one stands, and its arguments are counted. -/
theorem typeArguments_eq_done_iff {limit : List Token} {count : Nat}
    (inner : ∀ token ∈ opener :: rest, token.Inner) (enough : rest.length ≤ limit.length) :
    typeArguments (typeWithin limit) final (opener :: rest) = .done count left ↔ Listed rest count left := by
  constructor
  · intro read
    have proper : ∀ token ∈ opener :: rest, token.Proper := fun token member => (inner token member).toProper
    have derived := derives_typeArguments ends (derives_typeWithin ends limit)
    obtain ⟨front, whole, other, inside, closer, same, -, arguments, closes⟩ := derived _ _ _ proper read
    obtain ⟨-, behind⟩ : opener = other ∧ rest = inside ++ closer :: left := by simpa [same] using whole
    rw [behind]
    exact .intro arguments closes
  · intro listed
    obtain @⟨inside, left, closer, count, arguments, closes⟩ := listed
    have short : inside.length ≤ limit.length := by
      rw [List.length_append] at enough
      omega
    have list : ∃ types : List GoType, types.length = count ∧
        (commaList "]" (typeWithin limit)).Reads final (inside ++ [closer]) left types :=
      reads_arguments (recognizes_typeWithin ends limit) arguments short closes
    obtain ⟨types, rfl, list⟩ := list
    have counted : (typeArguments (typeWithin limit)).Reads final (opener :: (inside ++ [closer])) left
        types.length := reads_require opens.is (reads_bind_nil list reads_pure)
    have read := counted fun token member => (inner token (by simpa using member)).readable
    simpa using read

theorem type_eq_done_iff (derives : Name name named) (inner : ∀ token ∈ name ++ opener :: rest, token.Inner) :
    type final (name ++ opener :: rest) = .done made left ↔
      ∃ count, Listed rest count left ∧
        made = .outline (if count = 1 then .instanceOfOne else .instanceOfMany) := by
  have behind : ∀ token ∈ opener :: rest, token.Inner :=
    fun token member => inner token (List.mem_append_right _ member)
  have enough : rest.length ≤ (name ++ opener :: rest).length := by
    simp only [List.length_append, List.length_cons]
    omega
  rw [type_of_name derives opens fun token member => (inner token member).readable, bind_eq_done]
  constructor
  · intro read
    obtain ⟨count, between, counted, made⟩ := read
    cases made
    exact ⟨count, (typeArguments_eq_done_iff ends opens behind enough).1 counted, rfl⟩
  · intro read
    obtain ⟨count, listed, rfl⟩ := read
    exact ⟨count, left, (typeArguments_eq_done_iff ends opens behind enough).2 listed, rfl⟩

/-- One type argument makes the one shape, and several make the other. That is also made of an empty
list, which is no error. -/
theorem type_told_by_arguments (derives : Name name named)
    (inner : ∀ token ∈ name ++ opener :: rest, token.Inner) :
    (type final (name ++ opener :: rest) = .done (.outline .instanceOfOne) left ↔ Listed rest 1 left) ∧
    (type final (name ++ opener :: rest) = .done (.outline .instanceOfMany) left ↔
      Listed rest 0 left ∨ ∃ count, 2 ≤ count ∧ Listed rest count left) ∧
    (∀ made, type final (name ++ opener :: rest) = .done made left →
      made = .outline .instanceOfOne ∨ made = .outline .instanceOfMany) := by
  refine ⟨?_, ?_, ?_⟩
  · rw [type_eq_done_iff ends opens derives inner]
    constructor
    · intro read
      obtain ⟨count, listed, same⟩ := read
      by_cases single : count = 1
      · rwa [single] at listed
      · simp [single] at same
    · intro listed
      exact ⟨1, listed, rfl⟩
  · rw [type_eq_done_iff ends opens derives inner]
    constructor
    · intro read
      obtain ⟨count, listed, same⟩ := read
      match count with
      | 0 => exact .inl listed
      | 1 => cases same
      | count + 2 => exact .inr ⟨count + 2, by omega, listed⟩
    · intro read
      rcases read with listed | ⟨count, several, listed⟩
      · exact ⟨0, listed, rfl⟩
      · refine ⟨count, listed, ?_⟩
        rw [if_neg (by omega)]
  · intro made read
    obtain ⟨count, -, rfl⟩ := (type_eq_done_iff ends opens derives inner).1 read
    split
    · exact .inl rfl
    · exact .inr rfl

omit ends opens

/-- `pkg.Map[List[int], func(),]` in front of a line end -/
theorem type_told_by_arguments_nested : ∃ (final opener : Token) (name rest left : List Token) (named : GoType),
    final.Ends ∧ opener.IsOperator "[" ∧ Name name named ∧ (∀ token ∈ name ++ opener :: rest, token.Inner) ∧
      rest.map Token.text = ["List", "[", "int", "]", ",", "func", "(", ")", ",", "]", "\n"] ∧
      type final (name ++ opener :: rest) = .done (.outline .instanceOfMany) left := by
  let word (text : String) : Token := ⟨.identifier, text, .start⟩
  let mark (text : String) : Token := ⟨.operator, text, .start⟩
  let name : List Token := [word "pkg", mark ".", word "Map"]
  let parameters : List Token := mark "(" :: ([] ++ [mark ")"])
  let key : List Token := [word "List"] ++ mark "[" :: ([word "int"] ++ [mark "]"])
  let value : List Token := ⟨.keyword, "func", .start⟩ :: (parameters ++ [])
  let rest : List Token := (key ++ mark "," :: (value ++ mark "," :: [])) ++ mark "]" :: [.lineEnd .start]
  have named : Name name (.qualified (.name "pkg") "Map") := .qualified rfl ⟨rfl, rfl⟩ rfl
  have listOfInt : TypeOf key (.outline .instanceOfOne) := by
    have arguments : Arguments TypeOf [word "int"] 1 := .last (.intro (.named (.plain rfl)))
    exact .intro (.generic (.plain rfl) ⟨rfl, rfl⟩ arguments ⟨rfl, rfl⟩)
  have function : TypeOf value (.outline .function) := by
    have enclosed : Group (mark "(") parameters := .intro rfl balanced_nil rfl
    exact .intro (.function ⟨rfl, rfl⟩ ⟨rfl, rfl⟩ enclosed .none)
  have listed : Listed rest 2 [.lineEnd .start] :=
    .intro (.more listOfInt ⟨rfl, rfl⟩ (.more function ⟨rfl, rfl⟩ .none)) ⟨rfl, rfl⟩
  have inner : ∀ token ∈ name ++ mark "[" :: rest, token.Inner := by decide
  have ends : (Token.fileEnd .start).Ends := ⟨rfl, rfl⟩
  have opens : (mark "[").IsOperator "[" := ⟨rfl, rfl⟩
  have read : type (.fileEnd .start) (name ++ mark "[" :: rest) =
      .done (.outline .instanceOfMany) [.lineEnd .start] :=
    (type_told_by_arguments ends opens named inner).2.1.2 (.inr ⟨2, by decide, listed⟩)
  exact ⟨_, _, name, rest, _, _, ends, opens, named, inner, by decide, read⟩

end Reader

/-- A list of no type arguments is read like one of several. -/
theorem SourceFile.ofText_without_arguments : ofText "package p\ntype A B[]\n" =
    .ok ⟨"p", [⟨"A", ⟨2, 6⟩, false, .outline .instanceOfMany⟩]⟩ := by
  decide +kernel

end GoDto
