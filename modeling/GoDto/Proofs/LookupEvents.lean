import GoDto.Dto.Lookup

/-!
What is found for a name, and what is told on the way. The last struct of the name is what is found.
The events tell of each declaration of the name once, in order, so the result can be read off them.
-/

namespace GoDto

namespace Event

def isPassedOver : Event → Bool
  | passedOver .. => true
  | _ => false

def isRedeclared : Event → Bool
  | redeclared .. => true
  | _ => false

def isUnsupported : Event → Bool
  | unsupportedType .. => true
  | _ => false

def isMatched : Event → Bool
  | matched .. => true
  | _ => false

/-- The name and the type of a field that was taken -/
def took? : Event → Option (String × String)
  | tookField field type _ => some (field, type)
  | _ => none

end Event

namespace FieldDecl

variable (field : FieldDecl GoType)

theorem filterMap_took?_events :
    field.events.filterMap Event.took? = field.names.map fun own => (own, field.type.spelling) := by
  have warned : (if field.type.isUnsupported then [Event.unsupportedType field.position field.type.spelling]
      else []).filterMap Event.took? = [] := by
    split <;> rfl
  rw [events, List.filterMap_append, warned, List.nil_append, List.filterMap_map]
  exact congrFun List.filterMap_eq_map _

theorem filter_isUnsupported_events : field.events.filter Event.isUnsupported =
    if field.type.isUnsupported then [.unsupportedType field.position field.type.spelling] else [] := by
  have took : (field.names.map fun own => Event.tookField own field.type.spelling field.tag).filter
      Event.isUnsupported = [] := by simp [Event.isUnsupported]
  rw [events, List.filter_append, took, List.append_nil]
  split <;> rfl

variable {field}

/-- A field is told of by nothing but warnings about its type and fields that were taken. -/
theorem other_of_mem_events {event : Event} (member : event ∈ field.events) :
    event.isPassedOver = false ∧ event.isRedeclared = false ∧ event.isMatched = false := by
  rcases List.mem_append.1 member with warned | took
  · split at warned
    · obtain rfl := List.mem_singleton.1 warned
      exact ⟨rfl, rfl, rfl⟩
    · cases warned
  · obtain ⟨own, -, rfl⟩ := List.mem_map.1 took
    exact ⟨rfl, rfl, rfl⟩

end FieldDecl

namespace TypeDecl

def isStruct (decl : TypeDecl) : Bool :=
  match decl.type with
  | .struct _ => true
  | _ => false

/-- The fields of a struct; there are none in any other type. -/
def body (decl : TypeDecl) : List (FieldDecl GoType) :=
  match decl.type with
  | .struct fields => fields
  | _ => []

/-- The declarations that give a struct type to the name -/
def structs (name : String) (decls : List TypeDecl) : List TypeDecl :=
  decls.filter fun decl => decl.name == name && decl.isStruct

/-- The declarations that give any other type to the name -/
def others (name : String) (decls : List TypeDecl) : List TypeDecl :=
  decls.filter fun decl => decl.name == name && !decl.isStruct

def passedOver (decl : TypeDecl) : Event := .passedOver decl.name decl.position.line

def redeclared (decl : TypeDecl) : Event := .redeclared decl.name decl.position.line

/-- What is told about the fields of a struct that are of unsupported types -/
def unsupported (decl : TypeDecl) : List Event :=
  (decl.body.filter (·.type.isUnsupported)).map fun field =>
    .unsupportedType field.position field.type.spelling

/-- The fields that a struct has to give, one for each name in it -/
def taken (decl : TypeDecl) : List Dto.Field :=
  decl.body.flatMap fun field =>
    field.names.map fun own => ⟨own, field.type.spelling, Unicode.lowerCase own⟩

def matched (decl : TypeDecl) : Event :=
  .matched decl.name decl.position.line decl.isAlias decl.taken.length

section
variable {name : String} {decl : TypeDecl} {decls : List TypeDecl} {found : Option (List Dto.Field)}

theorem isStruct_iff : decl.isStruct = true ↔ ∃ fields, decl.type = .struct fields := by
  unfold isStruct
  cases decl.type <;> simp

theorem structs_append (name : String) (first second : List TypeDecl) :
    structs name (first ++ second) = structs name first ++ structs name second :=
  List.filter_append ..

theorem others_append (name : String) (first second : List TypeDecl) :
    others name (first ++ second) = others name first ++ others name second :=
  List.filter_append ..

theorem filterMap_took?_body (decl : TypeDecl) :
    (decl.body.flatMap FieldDecl.events).filterMap Event.took? =
      decl.taken.map fun field => (field.name, field.type) := by
  rw [taken, List.filterMap_flatMap, List.map_flatMap]
  simp only [FieldDecl.filterMap_took?_events, List.map_map]
  rfl

theorem filter_isUnsupported_body (decl : TypeDecl) :
    (decl.body.flatMap FieldDecl.events).filter Event.isUnsupported = decl.unsupported := by
  unfold unsupported
  induction decl.body with
  | nil => rfl
  | cons field fields ih =>
    rw [List.flatMap_cons, List.filter_append, FieldDecl.filter_isUnsupported_events, ih]
    cases kept : field.type.isUnsupported <;> simp [kept]

/-- Among what is told of a struct, its fields give no event of the other kinds. -/
theorem filter_report {test : Event → Bool} {before : List Event}
    (kind : test = Event.isPassedOver ∨ test = Event.isRedeclared ∨ test = Event.isMatched) :
    (before ++ decl.body.flatMap FieldDecl.events ++ [decl.matched]).filter test =
      before.filter test ++ [decl.matched].filter test := by
  have fields : (decl.body.flatMap FieldDecl.events).filter test = [] := by
    apply List.filter_eq_nil_iff.2
    intro event told
    obtain ⟨field, -, member⟩ := List.mem_flatMap.1 told
    have other := FieldDecl.other_of_mem_events member
    rcases kind with rfl | rfl | rfl
    · simp [other.1]
    · simp [other.2.1]
    · simp [other.2.2]
  rw [List.filter_append, List.filter_append, fields, List.append_nil]

/-- What a declaration does to a lookup depends on its name and on whether it is a struct. -/
theorem visit_cases (decl : TypeDecl) (name : String) (found : Option (List Dto.Field)) :
    (decl.name ≠ name ∧ decl.visit name found = (found, [])) ∨
    (decl.name = name ∧ decl.isStruct = false ∧ decl.visit name found = (found, [decl.passedOver])) ∨
    (decl.name = name ∧ decl.isStruct = true ∧ decl.visit name found =
      (some decl.taken, (if found.isSome then [decl.redeclared] else []) ++
        decl.body.flatMap FieldDecl.events ++ [decl.matched])) := by
  by_cases same : decl.name = name
  · cases type : decl.type with
    | struct fields =>
      refine .inr (.inr ⟨same, by simp [isStruct, type], ?_⟩)
      simp only [visit, type, if_pos same, redeclared, matched, taken, body]
      rfl
    | _ => exact .inr (.inl ⟨same, by simp [isStruct, type], by simp [visit, type, same, passedOver]⟩)
  · exact .inl ⟨same, if_neg same⟩

theorem visitAll_cons (name : String) (found : Option (List Dto.Field)) (decl : TypeDecl)
    (decls : List TypeDecl) : visitAll name found (decl :: decls) =
      ((visitAll name (decl.visit name found).1 decls).1,
        (decl.visit name found).2 ++ (visitAll name (decl.visit name found).1 decls).2) := rfl

theorem visitAll_append (name : String) (found : Option (List Dto.Field)) (first second : List TypeDecl) :
    visitAll name found (first ++ second) =
      ((visitAll name (visitAll name found first).1 second).1,
        (visitAll name found first).2 ++ (visitAll name (visitAll name found first).1 second).2) := by
  induction first generalizing found with
  | nil => rfl
  | cons decl first ih => rw [List.cons_append, visitAll_cons, visitAll_cons, ih, List.append_assoc]

/-- What is found is what the last struct has to give, unless there is none. -/
theorem visitAll_fst (name : String) (found : Option (List Dto.Field)) (decls : List TypeDecl) :
    (visitAll name found decls).1 = ((structs name decls).getLast?.map taken).or found := by
  induction decls generalizing found with
  | nil => rfl
  | cons decl decls ih =>
    rw [visitAll_cons, ih]
    rcases visit_cases decl name found with ⟨other, visited⟩ | ⟨same, none, visited⟩ | ⟨same, struct, visited⟩
    · simp [visited, structs, other]
    · simp [visited, structs, same, none]
    · have first : structs name (decl :: decls) = decl :: structs name decls := by
        simp [structs, same, struct]
      rw [visited, first, List.getLast?_cons]
      cases (structs name decls).getLast? <;> simp

/-- What is told of some kind is told of each declaration by itself. -/
theorem filter_visitAll {test : Event → Bool} (told : List TypeDecl → List Event) (none : told [] = [])
    (split : ∀ decl decls, told (decl :: decls) = told [decl] ++ told decls)
    (visits : ∀ decl found, (visit decl name found).2.filter test = told [decl]) :
    (visitAll name found decls).2.filter test = told decls := by
  induction decls generalizing found with
  | nil => exact none.symm
  | cons decl decls ih => rw [visitAll_cons, List.filter_append, ih, visits, ← split]

theorem filter_isPassedOver_visitAll (name : String) (found : Option (List Dto.Field))
    (decls : List TypeDecl) :
    (visitAll name found decls).2.filter Event.isPassedOver = (others name decls).map passedOver := by
  apply filter_visitAll (fun decls => (others name decls).map passedOver) rfl
  · intro decl decls
    rw [← List.map_append, ← others_append, List.singleton_append]
  · intro decl found
    rcases visit_cases decl name found with ⟨other, visited⟩ | ⟨same, none, visited⟩ | ⟨same, struct, visited⟩
    · simp [visited, others, other]
    · simp [visited, others, same, none, passedOver, Event.isPassedOver]
    · rw [visited, filter_report (.inl rfl)]
      cases found <;> simp [others, same, struct, redeclared, matched, Event.isPassedOver]

/-- Every struct of the name but the first is said to be declared again. -/
theorem filter_isRedeclared_visitAll (name : String) (found : Option (List Dto.Field))
    (decls : List TypeDecl) : (visitAll name found decls).2.filter Event.isRedeclared =
      (if found.isSome then structs name decls else (structs name decls).tail).map redeclared := by
  induction decls generalizing found with
  | nil => cases found <;> rfl
  | cons decl decls ih =>
    rw [visitAll_cons, List.filter_append, ih]
    rcases visit_cases decl name found with ⟨other, visited⟩ | ⟨same, none, visited⟩ | ⟨same, struct, visited⟩
    · simp [visited, structs, other]
    · simp [visited, structs, same, none, passedOver, Event.isRedeclared]
    · have later : (decl.visit name found).1.isSome = true := by rw [visited]; rfl
      have own : (decl.visit name found).2.filter Event.isRedeclared =
          if found.isSome then [decl.redeclared] else [] := by
        rw [visited, filter_report (.inr (.inl rfl))]
        cases found <;> rfl
      rw [own, if_pos later]
      cases found <;> simp [structs, same, struct]

theorem filter_isUnsupported_visitAll (name : String) (found : Option (List Dto.Field))
    (decls : List TypeDecl) : (visitAll name found decls).2.filter Event.isUnsupported =
      (structs name decls).flatMap unsupported := by
  apply filter_visitAll (fun decls => (structs name decls).flatMap unsupported) rfl
  · intro decl decls
    rw [← List.flatMap_append, ← structs_append, List.singleton_append]
  · intro decl found
    rcases visit_cases decl name found with ⟨other, visited⟩ | ⟨same, none, visited⟩ | ⟨same, struct, visited⟩
    · simp [visited, structs, other]
    · simp [visited, structs, same, none, passedOver, Event.isUnsupported]
    · rw [visited, List.filter_append, List.filter_append, filter_isUnsupported_body]
      cases found <;> simp [structs, same, struct, redeclared, matched, Event.isUnsupported]

/-- Where there is no struct of the name, nothing else is told than that. -/
theorem visitAll_of_structs_eq_nil (none : structs name decls = []) :
    visitAll name found decls = (found, (others name decls).map passedOver) := by
  induction decls with
  | nil => rfl
  | cons decl decls ih =>
    have absent : (decl.name == name && decl.isStruct) = false ∧ structs name decls = [] := by
      simpa [structs] using none
    rcases visit_cases decl name found with ⟨other, visited⟩ | ⟨same, none, visited⟩ | ⟨same, struct, visited⟩
    · simp [visitAll_cons, visited, ih absent.2, others, other]
    · simp [visitAll_cons, visited, ih absent.2, others, same, none]
    · simp [same, struct] at absent

/-- A struct of the name stands between the declarations before it and those behind it. -/
theorem exists_of_structs_eq {before after : List TypeDecl}
    (split : structs name decls = before ++ decl :: after) : ∃ front back,
      decls = front ++ decl :: back ∧ decl.name = name ∧ decl.isStruct = true ∧
        structs name front = before ∧ structs name back = after := by
  obtain ⟨front, rest, rfl, rfl, restEq⟩ := List.filter_eq_append_iff.1 split
  obtain ⟨skipped, back, rfl, none, matching, rfl⟩ := List.filter_eq_cons_iff.1 restEq
  have named : decl.name = name ∧ decl.isStruct = true := by simpa using matching
  refine ⟨front ++ skipped, back, by simp, named.1, named.2, ?_, rfl⟩
  have empty : structs name skipped = [] := List.filter_eq_nil_iff.2 none
  rw [structs_append, empty, List.append_nil]
  rfl

/-- What is told of a struct stands behind what is told of the declarations before it. -/
theorem visitAll_struct (front back : List TypeDecl) (same : decl.name = name)
    (struct : decl.isStruct = true) : ∃ found,
      (visitAll name none (front ++ decl :: back)).2 = (visitAll name none front).2 ++
        ((if structs name front = [] then [] else [decl.redeclared]) ++
          decl.body.flatMap FieldDecl.events ++ [decl.matched]) ++ (visitAll name found back).2 := by
  rw [visitAll_append, visitAll_cons]
  rcases visit_cases decl name (visitAll name none front).1 with
    ⟨other, visited⟩ | ⟨-, none, visited⟩ | ⟨-, -, visited⟩
  · exact absurd same other
  · exact absurd struct (by simp [none])
  · refine ⟨some decl.taken, ?_⟩
    have again : (visitAll name none front).1.isSome = !(structs name front).isEmpty := by
      rw [visitAll_fst]
      cases structs name front <;> simp [List.getLast?_cons]
    rw [visited, again]
    cases structs name front <;> simp

theorem filter_isMatched_visitAll (name : String) (found : Option (List Dto.Field))
    (decls : List TypeDecl) :
    (visitAll name found decls).2.filter Event.isMatched = (structs name decls).map matched := by
  apply filter_visitAll (fun decls => (structs name decls).map matched) rfl
  · intro decl decls
    rw [← List.map_append, ← structs_append, List.singleton_append]
  · intro decl found
    rcases visit_cases decl name found with ⟨other, visited⟩ | ⟨same, none, visited⟩ | ⟨same, struct, visited⟩
    · simp [visited, structs, other]
    · simp [visited, structs, same, none, passedOver, Event.isMatched]
    · rw [visited, filter_report (.inr (.inr rfl))]
      cases found <;> simp [structs, same, struct, redeclared, matched, Event.isMatched]

/-- The events before a struct end with those of the last struct before it, up to declarations that
are passed over. -/
theorem exists_earlier (name : String) (decls : List TypeDecl) : ∃ earlier passed,
    (visitAll name none decls).2 = earlier ++ List.map passedOver passed ∧
      (earlier = [] ∨ ∃ event, earlier.getLast? = some event ∧ event.isMatched = true) := by
  rcases List.eq_nil_or_concat (structs name decls) with none | ⟨before, decl, split⟩
  · exact ⟨[], others name decls, by rw [visitAll_of_structs_eq_nil none]; rfl, .inl rfl⟩
  · rw [List.concat_eq_append] at split
    obtain ⟨front, back, rfl, same, struct, -, last⟩ := exists_of_structs_eq split
    obtain ⟨found, told⟩ := visitAll_struct front back same struct
    rw [visitAll_of_structs_eq_nil last, ← List.append_assoc] at told
    exact ⟨_, others name back, told, .inr ⟨decl.matched, by simp, rfl⟩⟩

/-- What was told since the last struct but one is told of the last one, up to declarations that are
passed over. -/
theorem exists_recent {before : List TypeDecl} (split : structs name decls = before ++ [decl]) :
    ∃ earlier recent, (visitAll name none decls).2 = earlier ++ recent ∧
      (earlier = [] ∨ ∃ event, earlier.getLast? = some event ∧ event.isMatched = true) ∧
      recent.filter Event.isMatched = [decl.matched] ∧
      recent.filterMap Event.took? = decl.taken.map fun field => (field.name, field.type) := by
  obtain ⟨front, back, rfl, same, struct, -, last⟩ := exists_of_structs_eq split
  obtain ⟨found, told⟩ := visitAll_struct front back same struct
  obtain ⟨earlier, passed, first, ends⟩ := exists_earlier name front
  rw [first, visitAll_of_structs_eq_nil last, List.append_assoc, List.append_assoc] at told
  refine ⟨earlier, _, told, ends, ?_, ?_⟩
  · have skipped (passed : List TypeDecl) : (passed.map passedOver).filter Event.isMatched = [] := by
      simp [passedOver, Event.isMatched]
    have again : (if structs name front = [] then [] else [decl.redeclared]).filter Event.isMatched = [] := by
      split <;> rfl
    rw [List.filter_append, List.filter_append, filter_report (.inr (.inr rfl)), skipped, skipped, again]
    rfl
  · have skipped (passed : List TypeDecl) : (passed.map passedOver).filterMap Event.took? = [] := by
      simp [passedOver, Event.took?]
    have again : (if structs name front = [] then [] else [decl.redeclared]).filterMap Event.took? = [] := by
      split <;> rfl
    simp only [List.filterMap_append, skipped, again, filterMap_took?_body, List.nil_append, List.append_nil]
    exact List.append_nil _

end

end TypeDecl

/-- The events of a lookup tell of every declaration of the name, and of what is found. -/
structure SourceFile.Replays (file : SourceFile) (name : String) (found : Option Dto.StructFields)
    (events : List Event) : Prop where
  /-- Nothing is found exactly if no declaration of the name has a struct type. -/
  none : found = none ↔ ∀ decl ∈ file.decls, decl.name = name → ∀ fields, decl.type ≠ .struct fields
  /-- Otherwise the last struct counts. Every name in it gives a field, in order. -/
  last : found = (TypeDecl.structs name file.decls).getLast?.map fun decl => ⟨file.package, decl.taken⟩
  /-- Every other declaration of the name is told of once. -/
  passedOver : events.filter Event.isPassedOver = (TypeDecl.others name file.decls).map TypeDecl.passedOver
  /-- Every struct but the first is told of once as declared again. -/
  redeclared : events.filter Event.isRedeclared = (TypeDecl.structs name file.decls).tail.map TypeDecl.redeclared
  /-- Every field of an unsupported type, in any of the structs, is told of once. -/
  unsupported : events.filter Event.isUnsupported = (TypeDecl.structs name file.decls).flatMap TypeDecl.unsupported
  /-- A struct is told of as declared again before its fields are, and behind the structs before it. -/
  order : ∀ before decl after, TypeDecl.structs name file.decls = before ++ decl :: after → ∃ earlier later,
    events = earlier ++ ((if before = [] then [] else [decl.redeclared]) ++
      decl.body.flatMap FieldDecl.events ++ [decl.matched]) ++ later ∧
    earlier.filter Event.isMatched = before.map TypeDecl.matched
  /-- What is found is what was taken since the last struct but one, counted at the end. -/
  recent : ∀ struct, found = some struct → ∃ earlier recent line isAlias, events = earlier ++ recent ∧
    (earlier = [] ∨ ∃ event, earlier.getLast? = some event ∧ event.isMatched = true) ∧
    recent.filter Event.isMatched = [.matched name line isAlias struct.fields.length] ∧
    recent.filterMap Event.took? = struct.fields.map fun field => (field.name, field.type)

/-- The last struct of the name is what is found. -/
theorem SourceFile.lookUp_fst (file : SourceFile) (name : String) : (file.lookUp name).1 =
    (TypeDecl.structs name file.decls).getLast?.map fun decl => ⟨file.package, decl.taken⟩ := by
  change Option.map _ (TypeDecl.visitAll name none file.decls).1 = _
  rw [TypeDecl.visitAll_fst, Option.or_none, Option.map_map]
  rfl

/-- A lookup finds the last struct of the name, and its events replay that. -/
theorem SourceFile.replays_lookUp (file : SourceFile) (name : String) :
    file.Replays name (file.lookUp name).1 (file.lookUp name).2 := by
  have found := file.lookUp_fst name
  refine ⟨?_, found, TypeDecl.filter_isPassedOver_visitAll name _ _,
    TypeDecl.filter_isRedeclared_visitAll name _ _, TypeDecl.filter_isUnsupported_visitAll name _ _, ?_, ?_⟩
  · rw [found, Option.map_eq_none_iff, List.getLast?_eq_none_iff, TypeDecl.structs, List.filter_eq_nil_iff]
    simp [TypeDecl.isStruct_iff]
  · intro before decl after split
    obtain ⟨front, back, decls, same, struct, rfl, -⟩ := TypeDecl.exists_of_structs_eq split
    obtain ⟨next, told⟩ := TypeDecl.visitAll_struct front back same struct
    rw [← decls] at told
    exact ⟨_, _, told, TypeDecl.filter_isMatched_visitAll name _ _⟩
  · intro struct some
    rw [found] at some
    obtain ⟨decl, last, rfl⟩ := Option.map_eq_some_iff.1 some
    obtain ⟨before, split⟩ := List.getLast?_eq_some_iff.1 last
    obtain ⟨-, -, -, same, -⟩ := TypeDecl.exists_of_structs_eq split
    obtain ⟨earlier, recent, told, ends, matched, took⟩ := TypeDecl.exists_recent split
    refine ⟨earlier, recent, decl.position.line, decl.isAlias, told, ends, ?_, took⟩
    rw [matched, TypeDecl.matched, same]

end GoDto
