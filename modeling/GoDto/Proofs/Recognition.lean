import GoDto.Proofs.Readers
import GoDto.Proofs.TypeTokens

/-!
What is derived is read. A type is read up to its last token wherever the token behind it is one
that no type goes on with.
-/

namespace GoDto

namespace Reader

open Grammar

variable {α β : Type} {final : Token} {front back left : List Token} {value : α} {result : β}

/-- From tokens that a file may hold, the reader takes those in front and gives the value. -/
def Reads (reader : Reader α) (final : Token) (front left : List Token) (value : α) : Prop :=
  (∀ token ∈ front ++ left, token.Readable) → reader final (front ++ left) = .done value left

theorem reads_bind {first : Reader α} {second : α → Reader β}
    (reads : first.Reads final front (back ++ left) value)
    (later : (second value).Reads final back left result) :
    (first >>= second).Reads final (front ++ back) left result := by
  intro inner
  rw [List.append_assoc] at inner ⊢
  rw [bind_of_done (reads inner)]
  exact later fun token member => inner token (List.mem_append_right _ member)

theorem reads_pure : (pure value : Reader α).Reads final [] left value := fun _ => rfl

theorem reads_lookahead {count : Nat} {reader : Token → Reader α}
    (reads : (reader (((front ++ left).drop count).headD final)).Reads final front left value) :
    (lookahead count >>= reader).Reads final front left value := reads

theorem reads_current {reader : Token → Reader α}
    (reads : (reader ((front ++ left).headD final)).Reads final front left value) :
    (current >>= reader).Reads final front left value := reads

theorem reads_step {token : Token} {next : Unit → Reader α}
    (reads : (next ()).Reads final front left value) :
    (step >>= next).Reads final (token :: front) left value :=
  fun inner => reads fun other member => inner other (List.mem_cons_of_mem _ member)

/-- A token that passes the test is read for good. -/
theorem reads_one {test : Token → Prop} [DecidablePred test] {reader otherwise : Token → Reader α}
    {token : Token} (passes : test token) (reads : (reader token).Reads final front left value) :
    (current >>= fun token => if test token then step >>= fun _ => reader token
      else otherwise token).Reads final (token :: front) left value := by
  apply reads_current
  change (if test token then _ else _ : Reader α).Reads final _ left value
  rw [if_pos passes]
  exact reads_step reads

theorem reads_refused {test : Token → Prop} [DecidablePred test] {reader otherwise : Token → Reader α}
    (fails : ¬test ((front ++ left).headD final))
    (reads : (otherwise ((front ++ left).headD final)).Reads final front left value) :
    (current >>= fun token => if test token then reader token else otherwise token).Reads
      final front left value := by
  apply reads_current
  rw [if_neg fails]
  exact reads

section
variable {spelling : String} {token : Token}

theorem reads_accept {next : Bool → Reader α} (spelled : token.is spelling)
    (reads : (next true).Reads final front left value) :
    (accept spelling >>= next).Reads final (token :: front) left value := by
  rw [accept_bind]
  exact reads_one spelled reads

theorem reads_accept_none {next : Bool → Reader α}
    (other : ((front ++ left).headD final).is spelling = false)
    (reads : (next false).Reads final front left value) :
    (accept spelling >>= next).Reads final front left value := by
  rw [accept_bind]
  exact reads_refused (ne_true_of_eq_false other) reads

theorem reads_require {next : Unit → Reader α} (spelled : token.is spelling)
    (reads : (next ()).Reads final front left value) :
    (require spelling >>= next).Reads final (token :: front) left value := by
  rw [require_bind]
  exact reads_one spelled reads

theorem reads_identifier {next : Token → Reader α} (identifier : token.kind = .identifier)
    (reads : (next token).Reads final front left value) :
    (Reader.identifier >>= next).Reads final (token :: front) left value := by
  rw [identifier_bind]
  exact reads_one identifier reads

theorem reads_acceptSemicolon {next : Bool → Reader α} (semicolon : token.kind = .semicolon)
    (reads : (next true).Reads final front left value) :
    (acceptSemicolon >>= next).Reads final (token :: front) left value := by
  rw [acceptSemicolon_bind]
  exact reads_one semicolon reads

theorem reads_acceptSemicolon_none {next : Bool → Reader α}
    (other : ((front ++ left).headD final).kind ≠ .semicolon)
    (reads : (next false).Reads final front left value) :
    (acceptSemicolon >>= next).Reads final front left value := by
  rw [acceptSemicolon_bind]
  exact reads_refused other reads

end

theorem reads_semicolons (blank : Semicolons front)
    (other : (left.headD final).kind ≠ .semicolon) :
    semicolons.Reads final front left () := by
  intro _
  have taken : (front ++ left).dropWhile (·.kind == .semicolon) =
      left.dropWhile (·.kind == .semicolon) :=
    List.dropWhile_append_of_pos fun token member => by simp [blank token member]
  have kept : left.dropWhile (·.kind == .semicolon) = left := by
    cases left with
    | nil => rfl
    | cons token left => exact List.dropWhile_cons_of_neg (by simpa using other)
  change Outcome.done () _ = _
  rw [taken, kept]

theorem reads_closeGroup {opener : Token} (group : Group opener (opener :: front)) :
    (closeGroup opener).Reads final front left () := by
  intro inner
  have found : afterGroup 0 (front ++ left) = some left :=
    afterGroup_of_group group fun token member => (inner token (List.mem_append_left _ member)).inside
  simp [closeGroup, found]

theorem reads_group {opener : Token} (group : Group opener front) :
    Reader.group.Reads final front left () := by
  obtain ⟨rest, rfl⟩ := group.first
  exact reads_one group.opens (reads_closeGroup group)

theorem reads_groupOf {opener : Token} {opening : String} (opens : opener.is opening)
    (group : Group opener front) : (groupOf opening).Reads final front left () := by
  obtain ⟨rest, rfl⟩ := group.first
  apply reads_current
  simp only [List.cons_append, List.headD_cons, opens, if_true]
  exact reads_group group

theorem reads_lookBehindGroup {first opener : Token} (group : Group opener front) :
    (lookBehindGroup 1).Reads final [] (first :: (front ++ left)) (left.headD final) := by
  intro inner
  change Outcome.done (tokenBehindGroup final 0 (front ++ left)) _ = _
  rw [tokenBehindGroup_of_group group fun token member => (inner token (by simp [member])).inside]
  rfl

/-- Running out of the limit is the only thing that a longer limit changes. -/
theorem manyWithin_longer {item : Reader (Option α)} {limit longer rest : List Token}
    (settled : manyWithin item limit final rest ≠ .exhausted) (below : limit.length ≤ longer.length) :
    manyWithin item longer final rest = manyWithin item limit final rest := by
  induction limit generalizing longer rest with
  | nil => exact absurd rfl settled
  | cons token limit ih =>
    obtain ⟨other, longer, rfl⟩ := List.exists_cons_of_length_pos (Nat.lt_of_lt_of_le (by simp) below)
    unfold manyWithin at settled ⊢
    rw [bind_apply] at settled
    rw [bind_apply, bind_apply]
    cases outcome : item final rest with
    | done found between =>
      rw [outcome] at settled
      cases found with
      | none => rfl
      | some value =>
        have within : manyWithin item limit final between ≠ .exhausted := by
          intro exhausted
          exact settled (by simp only [bind_apply, exhausted])
        simp only [bind_apply, ih within (by simpa using below)]
    | failed error => rfl
    | exhausted => rfl

/-- One item more in front is one value more in front, whatever the rest comes to. -/
theorem many_of_reads {item : Reader (Option α)} (nonempty : front ≠ [])
    (reads : item.Reads final front back (some value)) (settled : many item final back ≠ .exhausted)
    (inner : ∀ token ∈ front ++ back, token.Readable) : many item final (front ++ back) =
      (many item >>= fun later => pure (value :: later)) final back := by
  have positive := List.length_pos_iff.2 nonempty
  have within : manyWithin item (front ++ back) final back = many item final back :=
    manyWithin_longer settled (by simp; omega)
  change manyWithin item (final :: (front ++ back)) final _ = _
  unfold manyWithin
  rw [bind_of_done (reads inner)]
  simp only [bind_apply, within]

theorem reads_many_stop {item : Reader (Option α)} (reads : item.Reads final front left none) :
    (many item).Reads final front left [] := by
  intro inner
  exact bind_of_done (reads inner)

theorem reads_many_more {item : Reader (Option α)} {values : List α} (nonempty : front ≠ [])
    (reads : item.Reads final front (back ++ left) (some value))
    (later : (many item).Reads final back left values) :
    (many item).Reads final (front ++ back) left (value :: values) := by
  intro inner
  rw [List.append_assoc] at inner ⊢
  have others := later fun token member => inner token (List.mem_append_right _ member)
  rw [many_of_reads nonempty reads (by simp [others]) inner, bind_of_done others]
  rfl

/-- A reader that comes after one that has read all that is in front of it -/
theorem reads_bind_nil {first : Reader α} {second : α → Reader β}
    (reads : first.Reads final front left value) (later : (second value).Reads final [] left result) :
    (first >>= second).Reads final front left result := by
  intro inner
  rw [bind_of_done (reads inner)]
  exact later fun token member => inner token (List.mem_append_right _ member)

/-- A reader that only looks ahead -/
theorem reads_look {first : Reader α} {second : α → Reader β}
    (reads : first.Reads final [] (front ++ left) value)
    (later : (second value).Reads final front left result) :
    (first >>= second).Reads final front left result :=
  reads_bind reads later

theorem reads_of_inner {reader : Reader α}
    (reads : (∀ token ∈ front ++ left, token.Readable) → reader.Reads final front left value) :
    reader.Reads final front left value :=
  fun inner => reads inner inner

theorem clear_headD {tokens : List Token} (ends : final.Ends)
    (inner : ∀ token ∈ tokens, token.Readable) : (tokens.headD final).Clear := by
  cases tokens with
  | nil => exact ends.proper.clear
  | cons token tokens => exact (inner token List.mem_cons_self).toClear

section
variable {close : String} {item : Reader α} {closer separator : Token} {left : List Token}

theorem reads_commaItem_close (closes : closer.IsOperator close) :
    (commaItem close item).Reads final [closer] left none :=
  reads_accept closes.is reads_pure

theorem reads_commaItem (comma : separator.IsOperator ",")
    (opened : ((front ++ separator :: left).headD final).is close = false)
    (reads : item.Reads final front (separator :: left) value) :
    (commaItem close item).Reads final (front ++ [separator]) left (some value) := by
  apply reads_accept_none (by simpa using opened)
  exact reads_bind reads (reads_accept comma.is reads_pure)

theorem reads_commaItem_last (closes : closer.IsOperator close) (differs : close ≠ ",")
    (opened : ((front ++ closer :: left).headD final).is close = false)
    (reads : item.Reads final front (closer :: left) value) :
    (commaItem close item).Reads final front (closer :: left) (some value) := by
  refine reads_accept_none opened (reads_bind_nil reads ?_)
  refine reads_accept_none (closes.is_eq_false differs) (reads_current ?_)
  simp only [List.nil_append, List.headD_cons, closes.is, if_true]
  exact reads_pure

theorem reads_semicolonItem_close (blank : Semicolons front) (closes : closer.IsOperator close) :
    (semicolonItem close item).Reads final (front ++ [closer]) left none :=
  reads_bind (reads_semicolons blank (by simp [closes.1])) (reads_accept closes.is reads_pure)

theorem reads_semicolonItem {blank : List Token} (blanks : Semicolons blank)
    (semicolon : separator.kind = .semicolon)
    (starts : ((front ++ separator :: left).headD final).kind ≠ .semicolon)
    (opened : ((front ++ separator :: left).headD final).is close = false)
    (reads : item.Reads final front (separator :: left) value) :
    (semicolonItem close item).Reads final (blank ++ (front ++ [separator])) left (some value) := by
  apply reads_bind (reads_semicolons blanks (by simpa using starts))
  apply reads_accept_none (by simpa using opened)
  exact reads_bind reads (reads_acceptSemicolon semicolon reads_pure)

theorem reads_semicolonItem_last {blank : List Token} (blanks : Semicolons blank)
    (closes : closer.IsOperator close)
    (starts : ((front ++ closer :: left).headD final).kind ≠ .semicolon)
    (opened : ((front ++ closer :: left).headD final).is close = false)
    (reads : item.Reads final front (closer :: left) value) :
    (semicolonItem close item).Reads final (blank ++ front) (closer :: left) (some value) := by
  apply reads_bind (reads_semicolons blanks starts)
  refine reads_accept_none opened (reads_bind_nil reads ?_)
  refine reads_acceptSemicolon_none (by simp [closes.1]) (reads_current ?_)
  simp only [List.nil_append, List.headD_cons, closes.is, if_true]
  exact reads_pure

/-- A list of items is read if each item is where a semicolon or the closing bracket follows. -/
theorem reads_semicolonList {Item : List Token → α → Prop} {tokens : List Token} {values : List α}
    (items : Items Item tokens values) (closes : closer.IsOperator close)
    (starts : ∀ front value, Item front value → ∃ first rest, front = first :: rest ∧
      first.kind ≠ .semicolon ∧ (first.Clear → first.is close = false))
    (reads : ∀ front value, Item front value → front.length ≤ tokens.length →
      ∀ next rest, next.kind = .semicolon ∨ next = closer →
        item.Reads final front (next :: rest) value) :
    (semicolonList close item).Reads final (tokens ++ [closer]) left values := by
  induction items with
  | none blank => exact reads_many_stop (reads_semicolonItem_close blank closes)
  | @last blank front value blanks derived =>
    obtain ⟨first, later, same, kind, opened⟩ := starts front value derived
    refine reads_of_inner fun inner => ?_
    have clear : first.Clear := (inner first (by simp [same])).toClear
    have nothing : Semicolons [] := semicolons_nil
    have stop : (semicolonList close item).Reads final ([] ++ [closer]) left [] :=
      reads_many_stop (reads_semicolonItem_close nothing closes)
    refine reads_many_more (by simp [same]) ?_ stop
    exact reads_semicolonItem_last blanks closes (by simp [same, kind]) (by simp [same, opened clear])
      (reads front value derived (by simp) closer left (.inr rfl))
  | @more blank front rest separator value later blanks derived semicolon _ ih =>
    obtain ⟨first, behind, same, kind, opened⟩ := starts front value derived
    refine reads_of_inner fun inner => ?_
    have clear : first.Clear := (inner first (by simp [same])).toClear
    have others := ih fun front value derived short => reads front value derived (by simp; omega)
    have opening : ((front ++ separator :: (rest ++ [closer] ++ left)).headD final).is close = false := by
      simp [same, opened clear]
    have item := reads_semicolonItem blanks semicolon (by simp [same, kind]) opening
      (reads front value derived (by simp; omega) separator _ (.inl semicolon))
    have whole : (semicolonList close _).Reads final _ left (value :: later) :=
      reads_many_more (by simp) item others
    simpa using whole

end

/-- What is derived from up to `bound` tokens is read where the token behind ends it. -/
structure Recognizes (type : Reader GoType) (final : Token) (bound : Nat)
    (Inner : List Token → GoType → Prop) : Prop where
  derived : ∀ {front made}, Inner front made → TypeOf front made
  reads : ∀ {front left made}, Inner front made → front.length ≤ bound →
    (left.headD final).EndsType → type.Reads final front left made
  element : ∀ {arrow front left made}, Inner (arrow :: front) made → arrow.IsOperator "<-" →
    front.length < bound → (left.headD final).EndsType → ∃ inner, type.Reads final front left inner

section
variable {type : Reader GoType} {bound : Nat} {Inner : List Token → GoType → Prop} {made : GoType}
  {tokens : List Token} (ends : final.Ends) (recognizes : Recognizes type final bound Inner)
include ends recognizes

omit ends in
theorem reads_arguments {count : Nat} {closer : Token} (arguments : Arguments Inner front count)
    (short : front.length ≤ bound) (closes : closer.IsOperator "]") : ∃ types : List GoType,
      types.length = count ∧ (commaList "]" type).Reads final (front ++ [closer]) left types := by
  have last : closer.EndsType := .inr (.inr (.inr (.inl (closes.closes (by decide)))))
  have opened : ∀ {front rest made}, Inner front made → (∀ token ∈ front ++ rest, token.Readable) →
      ((front ++ rest).headD final).is "]" = false := by
    intro front rest made derived inner
    obtain ⟨first, later, head, rfl, starts⟩ := (recognizes.derived derived).starts
    exact starts.is_eq_false (inner first List.mem_cons_self).toClear (by decide) (by decide)
  induction arguments with
  | none => exact ⟨[], rfl, reads_many_stop (reads_commaItem_close closes)⟩
  | @last front made derived =>
    refine ⟨[made], rfl, ?_⟩
    refine reads_of_inner fun inner => ?_
    refine reads_many_more (recognizes.derived derived).nonempty ?_
      (reads_many_stop (reads_commaItem_close closes))
    exact reads_commaItem_last closes (by decide) (opened derived (by simpa using inner))
      (recognizes.reads derived short last)
  | @more front rest comma made count derived separator _ ih =>
    simp only [List.length_append, List.length_cons] at short
    obtain ⟨types, rfl, reads⟩ := ih (by omega)
    refine ⟨made :: types, rfl, ?_⟩
    refine reads_of_inner fun inner => ?_
    have follows : (comma :: (rest ++ [closer] ++ left)).headD final |>.EndsType :=
      .inr (.inr (.inr (.inr separator)))
    have item := reads_commaItem separator (opened derived (by simpa using inner))
      (recognizes.reads derived (by omega) follows)
    have whole : (commaList "]" type).Reads final _ left (made :: types) :=
      reads_many_more (by simp) item reads
    simpa using whole

omit ends recognizes in
theorem reads_qualifiedName {first : Token} (name : Name (first :: front) made)
    (undotted : (left.headD final).is "." = false) :
    (qualifiedName first).Reads final front left made := by
  cases name with
  | plain => exact reads_accept_none undotted reads_pure
  | qualified _ dot selected => exact reads_accept dot.is (reads_identifier selected reads_pure)

omit recognizes in
theorem reads_name {first : Token} (name : Name (first :: front) made)
    (follows : (left.headD final).EndsType) :
    (namedType type first).Reads final front left made := by
  refine reads_of_inner fun inner => ?_
  have clear : (left.headD final).Clear :=
    clear_headD ends fun token member => inner token (List.mem_append_right _ member)
  have undotted : (left.headD final).is "." = false :=
    follows.is_eq_false clear (by decide) (by decide)
  have plain : (left.headD final).is "[" = false :=
    follows.is_eq_false clear (by decide) (by decide)
  refine reads_bind_nil (reads_qualifiedName name undotted) (reads_current ?_)
  simp only [List.nil_append, plain, Bool.false_eq_true, if_false]
  exact reads_pure

omit ends in
theorem reads_generic {first opener closer : Token} {inside : List Token} {count : Nat}
    (name : Name (first :: front) made) (opens : opener.IsOperator "[")
    (arguments : Arguments Inner inside count) (short : inside.length ≤ bound)
    (closes : closer.IsOperator "]") :
    (namedType type first).Reads final (front ++ opener :: (inside ++ [closer])) left
      (.outline (if count = 1 then .instanceOfOne else .instanceOfMany)) := by
  obtain ⟨types, rfl, list⟩ := reads_arguments recognizes arguments short closes
  have undotted : opener.is "." = false := opens.is_eq_false (by decide)
  refine reads_bind (reads_qualifiedName name undotted) (reads_current ?_)
  simp only [List.cons_append, List.headD_cons, opens.is, if_true]
  have counted : (typeArguments type).Reads final (opener :: (inside ++ [closer])) left types.length :=
    reads_require opens.is (reads_bind_nil list reads_pure)
  exact reads_bind_nil counted reads_pure

omit ends recognizes in
theorem reads_arrayLength {opener : Token} (group : Group opener (opener :: front)) :
    (arrayLength opener).Reads final front left () := by
  refine reads_of_inner fun inner => ?_
  have enclosed := group
  generalize same : opener :: front = tokens at enclosed
  obtain @⟨closer, inside, opens, balanced, closes⟩ := enclosed
  obtain rfl : front = inside ++ [closer] := (List.cons.inj same).2
  by_cases empty : inside = [] ∧ closer.is "]" = true
  · obtain ⟨rfl, spelled⟩ := empty
    exact reads_accept spelled reads_pure
  · refine reads_accept_none ?_ (reads_closeGroup group)
    cases inside with
    | nil => simpa using empty
    | cons token inside =>
      rw [Bool.eq_false_iff]
      intro spelled
      have clear : token.Clear := (inner token (by simp)).toClear
      have operator : token.IsOperator "]" :=
        (clear.is_operator_iff (by decide) (by decide)).1 (by simpa using spelled)
      exact absurd ((settles_cons_closes (operator.closes (by decide))).1 balanced).1 (Nat.lt_irrefl 0)

theorem reads_signature {opener : Token} {parameters given : List Token}
    (opens : opener.IsOperator "(") (group : Group opener parameters) (result : Result Inner given)
    (short : given.length ≤ bound) (follows : (left.headD final).EndsType) :
    (signature type).Reads final (parameters ++ given) left () := by
  refine reads_of_inner fun inner => ?_
  refine reads_bind (reads_groupOf opens.is group) (reads_current ?_)
  cases result with
  | none =>
    have clear : (left.headD final).Clear :=
      clear_headD ends fun token member => inner token (List.mem_append_right _ member)
    have closed : (left.headD final).is "(" = false :=
      follows.is_eq_false clear (by decide) (by decide)
    simp only [List.nil_append, closed, follows.starts_none, Bool.false_eq_true, if_false,
      Option.isSome_none]
    exact reads_pure
  | @group other _ opening inside =>
    obtain ⟨rest, rfl⟩ := inside.first
    simp only [List.cons_append, List.headD_cons, opening.is, if_true]
    exact reads_group inside
  | type derived =>
    obtain ⟨first, rest, head, rfl, starts⟩ := (recognizes.derived derived).starts
    simp only [List.cons_append, List.headD_cons, TypeHead.ofToken?_eq_some_iff.2 starts,
      Option.isSome_some, if_true]
    split
    · next spelled =>
      have clear : first.Clear := (inner first (by simp)).toClear
      have opening := (clear.is_operator_iff (by decide) (by decide)).1 spelled
      exact reads_group ((recognizes.derived derived).group_of_parenthesis opening)
    · exact reads_bind_nil (recognizes.reads derived short follows) reads_pure

omit ends recognizes in
theorem reads_fieldNames {names : List String} (derives : Names front names)
    (follows : (left.headD final).is "," = false) :
    fieldNames.Reads final front left names := by
  have parts : ∃ first rest others, front = first :: rest ∧ first.kind = .identifier ∧
      names = first.text :: others ∧ (many nextName).Reads final rest left others := by
    induction derives with
    | last identifier =>
      exact ⟨_, [], [], rfl, identifier, rfl, reads_many_stop (reads_accept_none follows reads_pure)⟩
    | @more _ comma _ _ identifier separator _ ih =>
      obtain ⟨next, rest, others, rfl, kind, rfl, reads⟩ := ih
      have name : nextName.Reads final [comma, next] (rest ++ left) (some next.text) :=
        reads_accept separator.is (reads_identifier kind reads_pure)
      exact ⟨_, _, _, rfl, identifier, rfl, reads_many_more (by simp) name reads⟩
  obtain ⟨first, rest, others, rfl, identifier, rfl, reads⟩ := parts
  exact reads_identifier identifier (reads_bind_nil reads reads_pure)

end

section
variable {made : GoType}

/-- What stands behind the first name of an embedded field gives it away. -/
theorem reads_startsEmbedded {first : Token} {rest : List Token}
    (derived : TypeOf (first :: rest) made) (identifier : first.kind = .identifier)
    (follows : (left.headD final).endsField) :
    startsEmbedded.Reads final [] (first :: rest ++ left) true := by
  refine reads_of_inner fun inner => reads_lookahead ?_
  rcases derived.named_cases identifier with rfl | ⟨dot, later, rfl, dotted⟩ | ⟨opener, opens, group⟩
  · simp only [List.nil_append, List.cons_append, List.drop_succ_cons, List.drop_zero, follows,
      Bool.or_true, if_true]
    exact reads_pure
  · simp only [List.nil_append, List.cons_append, List.drop_succ_cons, List.drop_zero,
      List.headD_cons, dotted.is, Bool.true_or, if_true]
    exact reads_pure
  · obtain ⟨later, rfl⟩ := group.first
    simp only [List.nil_append, List.cons_append, List.drop_succ_cons, List.drop_zero,
      List.headD_cons, opens.is, if_true]
    split
    · exact reads_pure
    · apply reads_look (reads_lookBehindGroup group)
      rw [follows]
      exact reads_pure

/-- Behind the first name of a field with a type of its own stands a further name or the type. -/
theorem reads_startsEmbedded_none {names : List String} {rest : List Token}
    (derives : Names front names) (derived : TypeOf rest made) :
    startsEmbedded.Reads final [] (front ++ rest ++ left) false := by
  refine reads_of_inner fun inner => reads_lookahead ?_
  cases derives with
  | @more first comma behind later _ separator _ =>
    have dot : comma.is "." = false := separator.is_eq_false (by decide)
    have bracket : comma.is "[" = false := separator.is_eq_false (by decide)
    have field : comma.endsField = false := by
      simp [Token.endsField, Token.is, Token.isLiteralString, separator.1, separator.2,
        Token.rightBrace]
    simp only [List.nil_append, List.cons_append, List.drop_succ_cons, List.drop_zero,
      List.headD_cons, dot, field, bracket, Bool.or_self, Bool.false_eq_true, if_false]
    exact reads_pure
  | @last first _ =>
    obtain ⟨next, behind, head, rfl, starts⟩ := derived.starts
    have clear : next.Clear := (inner next (by simp)).toClear
    have dot : next.is "." = false := starts.is_eq_false clear (by decide) (by decide)
    simp only [List.nil_append, List.cons_append, List.drop_succ_cons, List.drop_zero,
      List.headD_cons, dot, starts.endsField_eq_false clear, Bool.or_self, Bool.false_eq_true, if_false]
    split
    · next spelled =>
      have opens := (clear.is_operator_iff (by decide) (by decide)).1 spelled
      obtain ⟨length, later, element, same, group, elements⟩ := derived.sequence_cases opens
      obtain ⟨other, rest, head, rfl, starts⟩ := elements.starts
      have member : other ∈ next :: behind := by simp [same]
      have clearOther : other.Clear :=
        (inner other (List.mem_append_left left (List.mem_cons_of_mem first member))).toClear
      have looked : (lookBehindGroup 1).Reads final [] (first :: (length ++ (other :: rest ++ left)))
          other := reads_lookBehindGroup group
      rw [← List.append_assoc, ← same] at looked
      apply reads_look looked
      rw [starts.endsField_eq_false clearOther]
      exact reads_pure
    · exact reads_pure

end

section
variable {type : Reader GoType} {bound : Nat} {Inner : List Token → GoType → Prop} {made : GoType}
  (ends : final.Ends) (recognizes : Recognizes type final bound Inner)
include ends recognizes

theorem reads_fieldParts {first : Token} {rest : List Token} {names : List String}
    (parts : FieldParts Inner (first :: rest) names made) (short : rest.length < bound)
    (follows : (left.headD final).endsField) :
    (fieldParts type first).Reads final (first :: rest) left (names, made) := by
  refine reads_of_inner fun inner => ?_
  have clear : first.Clear := (inner first (by simp)).toClear
  have ended : (left.headD final).EndsType := by
    refine Token.EndsType.of_endsField (clear_headD ends fun token member => ?_) follows
    exact inner token (List.mem_append_right _ member)
  generalize same : first :: rest = tokens at parts
  unfold fieldParts
  cases parts with
  | pointer star derived =>
    cases same
    simp only [star.is, if_true]
    exact reads_step (reads_bind_nil (recognizes.reads derived (by omega) ended) reads_pure)
  | embedded identifier derived =>
    cases same
    have unstarred : first.is "*" = false :=
      clear.is_operator_eq_false (by simp [identifier]) (by decide) (by decide)
    simp only [unstarred, identifier, Bool.false_eq_true, if_true, if_false]
    apply reads_look (reads_startsEmbedded (recognizes.derived derived) identifier follows)
    exact reads_bind_nil (recognizes.reads derived (by simp; omega) ended) reads_pure
  | @named front rest names made written derived =>
    have identifier : first.kind = .identifier := by
      cases written with
      | last identifier => exact (List.cons.inj same).1 ▸ identifier
      | more identifier => exact (List.cons.inj same).1 ▸ identifier
    have unstarred : first.is "*" = false :=
      clear.is_operator_eq_false (by simp [identifier]) (by decide) (by decide)
    simp only [unstarred, identifier, Bool.false_eq_true, if_true, if_false]
    obtain ⟨next, later, head, rfl, starts⟩ := (recognizes.derived derived).starts
    have clearNext : next.Clear := by
      refine (inner next (List.mem_append_left left ?_)).toClear
      simp [same]
    have lengths := congrArg List.length same
    simp only [List.length_cons, List.length_append] at lengths
    apply reads_look (reads_startsEmbedded_none written (recognizes.derived derived))
    refine reads_bind (reads_fieldNames written ?_) ?_
    · exact starts.is_eq_false clearNext (by decide) (by decide)
    · exact reads_bind_nil (recognizes.reads derived (by simp; omega) ended) reads_pure

theorem reads_field {field : FieldDecl GoType} (derives : Field Inner front field)
    (short : front.length ≤ bound) {next : Token}
    (follows : next.kind = .semicolon ∨ next.IsOperator Token.rightBrace) :
    (Reader.field type).Reads final front (next :: left) field := by
  have ended : next.endsField := by
    rcases follows with kind | operator
    · simp [Token.endsField, kind]
    · simp [Token.endsField, operator.is]
  have untagged : next.isLiteralString = false := by
    rcases follows with kind | operator
    · simp [Token.isLiteralString, kind]
    · simp [Token.isLiteralString, operator.1]
  obtain @⟨first, rest, ending, names, made, tag, parts, tagged⟩ := derives
  simp only [List.cons_append, List.length_cons, List.length_append] at short
  refine reads_current (reads_bind (reads_fieldParts ends recognizes parts (by omega) ?_) ?_)
  · cases tagged with
    | none => exact ended
    | some literal => simp [Token.endsField, literal]
  · refine reads_bind_nil ?_ reads_pure
    apply reads_current
    cases tagged with
    | none =>
      simp only [List.nil_append, List.headD_cons, untagged, Bool.false_eq_true, if_false]
      exact reads_pure
    | some literal =>
      simp only [List.cons_append, List.headD_cons, literal, if_true]
      exact reads_step reads_pure

theorem reads_structBody {fields : List (FieldDecl GoType)} {opener closer : Token}
    (opens : opener.IsOperator Token.leftBrace) (items : Items (Field Inner) front fields)
    (short : front.length ≤ bound) (closes : closer.IsOperator Token.rightBrace) :
    (structBody type).Reads final (opener :: (front ++ [closer])) left fields := by
  refine reads_require opens.is (reads_semicolonList items closes ?_ ?_)
  · rintro _ _ @⟨first, rest, ending, _, _, _, parts, -⟩
    refine ⟨first, rest ++ ending, rfl, ?_⟩
    rcases parts.starts with star | identifier
    · exact ⟨by simp [star.1], fun _ => star.is_eq_false (by decide)⟩
    · refine ⟨by simp [identifier], fun clear => ?_⟩
      exact clear.is_operator_eq_false (by simp [identifier]) (by decide) (by decide)
  · intro front field derived below next rest follows
    apply reads_field ends recognizes derived (by omega)
    rcases follows with kind | rfl
    · exact .inl kind
    · exact .inr closes

omit ends recognizes in
theorem reads_typeWith {first : Token} (head : TypeHead) (starts : head.Starts first)
    (reads : (typeAfter type first head).Reads final front left made) :
    (typeWith type).Reads final (first :: front) left made := by
  apply reads_current
  simp only [List.cons_append, List.headD_cons, TypeHead.ofToken?_eq_some_iff.2 starts]
  exact reads_step reads

/-- One production more is read if the types inside it are. -/
theorem reads_rule (rule : TypeRule Inner front made) (short : front.length ≤ bound + 1)
    (follows : (left.headD final).EndsType) : (typeWith type).Reads final front left made := by
  cases rule with
  | named name =>
    cases name with
    | plain identifier =>
      exact reads_typeWith .name identifier (reads_name ends (.plain identifier) follows)
    | qualified identifier dot selected =>
      exact reads_typeWith .name identifier
        (reads_name ends (.qualified identifier dot selected) follows)
  | generic name opens arguments closes =>
    simp only [List.length_append, List.length_cons] at short
    cases name with
    | plain identifier =>
      exact reads_typeWith .name identifier
        (reads_generic recognizes (.plain identifier) opens arguments (by simp at short; omega) closes)
    | qualified identifier dot selected =>
      exact reads_typeWith .name identifier (reads_generic recognizes
        (.qualified identifier dot selected) opens arguments (by simp at short; omega) closes)
  | pointer star derived =>
    apply reads_typeWith .star star
    exact reads_bind_nil (recognizes.reads derived (by simpa using short) follows) reads_pure
  | sequence opens length derived =>
    obtain ⟨rest, rfl⟩ := length.first
    apply reads_typeWith .bracket opens
    apply reads_bind (reads_arrayLength length)
    exact reads_bind_nil (recognizes.reads derived (by simp at short; omega) follows) reads_pure
  | parenthesized opens derived closes =>
    apply reads_typeWith .parenthesis opens
    have ended : Token.EndsType _ := .inr (.inr (.inr (.inl (closes.closes (by decide)))))
    refine reads_bind (recognizes.reads derived (by simp at short; omega) ended) ?_
    exact reads_require closes.is reads_pure
  | receiver arrow keyword derived =>
    apply reads_typeWith .arrow arrow
    apply reads_require keyword.is
    exact reads_bind_nil (recognizes.reads derived (by simp at short; omega) follows) reads_pure
  | channel keyword derived =>
    refine reads_typeWith .channel keyword (reads_of_inner fun inner => ?_)
    obtain ⟨first, rest, head, rfl, starts⟩ := (recognizes.derived derived).starts
    simp only [List.length_cons] at short
    by_cases spelled : first.is "<-" = true
    · -- The arrow is taken for the channel's own, and what follows it is read as the element.
      have clear : first.Clear := (inner first (by simp)).toClear
      have arrow := (clear.is_operator_iff (by decide) (by decide)).1 spelled
      obtain ⟨element, read⟩ := recognizes.element derived arrow (by omega) follows
      exact reads_accept spelled (reads_bind_nil read reads_pure)
    · apply reads_accept_none (by simpa using spelled)
      exact reads_bind_nil (recognizes.reads derived (by simp; omega) follows) reads_pure
  | sender keyword arrow derived =>
    apply reads_typeWith .channel keyword
    apply reads_accept arrow.is
    exact reads_bind_nil (recognizes.reads derived (by simp at short; omega) follows) reads_pure
  | map keyword opens key closes derived =>
    simp only [List.length_append, List.length_cons] at short
    apply reads_typeWith .map keyword
    apply reads_require opens.is
    have ended : Token.EndsType _ := .inr (.inr (.inr (.inl (closes.closes (by decide)))))
    refine reads_bind (recognizes.reads key (by omega) ended) ?_
    apply reads_require closes.is
    exact reads_bind_nil (recognizes.reads derived (by omega) follows) reads_pure
  | function keyword opens parameters result =>
    apply reads_typeWith .function keyword
    have read := reads_signature ends recognizes opens parameters result (by simp at short; omega) follows
    exact reads_bind_nil read reads_pure
  | interface keyword opens body =>
    apply reads_typeWith .interface keyword
    exact reads_bind_nil (reads_groupOf opens.is body) reads_pure
  | struct keyword opens fields closes =>
    apply reads_typeWith .struct keyword
    refine reads_bind_nil ?_ reads_pure
    exact reads_structBody ends recognizes opens fields (by simp at short; omega) closes

end

/-- A type is read within every limit that its tokens fit in. One that starts with an arrow is read
without it too. -/
structure ReadWithin (final : Token) (tokens : List Token) (made : GoType) : Prop where
  whole : ∀ limit left : List Token, tokens.length ≤ limit.length → (left.headD final).EndsType →
    (typeWithin limit).Reads final tokens left made
  element : ∀ limit left arrow front, tokens = arrow :: front → arrow.IsOperator "<-" →
    front.length ≤ limit.length → (left.headD final).EndsType →
    ∃ inner, (typeWithin limit).Reads final front left inner

section
variable (ends : final.Ends) {tokens : List Token} {made : GoType}
include ends

/-- The induction is on the derivation, and each level of it takes one step of the limit. -/
theorem readWithin_of_derives (derives : TypeOf tokens made) : ReadWithin final tokens made := by
  refine TypeOf.induction (fun tokens made rule => ?_) derives
  have within : ∀ tokens made, TypeRule (fun tokens made => TypeOf tokens made ∧
      ReadWithin final tokens made) tokens made → ∀ limit left : List Token,
      tokens.length ≤ limit.length → (left.headD final).EndsType →
      (typeWithin limit).Reads final tokens left made := by
    intro tokens made rule limit left short follows
    obtain ⟨first, rest, -, rfl, -⟩ := rule.starts
    obtain ⟨token, limit, rfl⟩ := List.exists_cons_of_length_pos (Nat.lt_of_lt_of_le (by simp) short)
    refine reads_rule ends ⟨And.left, ?_, ?_⟩ rule short follows
    · intro front left made known short follows
      exact known.2.whole limit left short follows
    · intro arrow front left made known spelled short follows
      exact known.2.element limit left arrow front rfl spelled (Nat.le_of_lt short) follows
  constructor
  · exact within tokens made rule
  · rintro limit left arrow front rfl spelled short follows
    exact ⟨made, within front made (rule.of_arrow spelled) limit left short follows⟩

/-- What is derived from no more tokens than the limit is long is read within it. -/
theorem recognizes_typeWithin (limit : List Token) :
    Recognizes (typeWithin limit) final limit.length TypeOf := by
  refine ⟨id, ?_, ?_⟩
  · intro front left made derives short follows
    exact (readWithin_of_derives ends derives).whole limit left short follows
  · intro arrow front left made derives spelled short follows
    have within := readWithin_of_derives ends derives
    exact within.element limit left arrow front rfl spelled (Nat.le_of_lt short) follows

theorem reads_type (derives : TypeOf tokens made) (follows : (left.headD final).EndsType) :
    Reader.type.Reads final tokens left made := by
  refine reads_of_inner fun inner => ?_
  exact (readWithin_of_derives ends derives).whole (final :: (tokens ++ left)) left
    (by simp; omega) follows

end

end Reader

end GoDto
