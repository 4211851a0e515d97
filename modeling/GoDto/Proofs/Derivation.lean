import GoDto.Proofs.Readers
import GoDto.Proofs.TypeTokens
import GoDto.Syntax.Source

/-!
What a reader gives is derived from what it has read. The tokens are of the form that a text falls
into, so that a token found by its spelling is the operator or the keyword spelled so.
-/

namespace GoDto

theorem Token.Ends.is {token : Token} {text : String} (ends : token.Ends) (spelled : text ≠ "") :
    token.is text = false := by
  simp [Token.is, ends.kind, ends.text, Ne.symm spelled]

namespace Reader

open Grammar

variable {α β : Type} {final : Token}

/-- Whenever the reader comes to an end, its value is derived from the tokens that it has read in
front of those that are left. -/
def Derives (reader : Reader α) (final : Token)
    (Form : List Token → List Token → α → Prop) : Prop :=
  ∀ rest value left, (∀ token ∈ rest, token.Proper) → reader final rest = .done value left →
    ∃ front, rest = front ++ left ∧ Form front left value

section
variable {Form : List Token → List Token → α → Prop} {Later : List Token → List Token → β → Prop}

theorem Derives.weaken {reader : Reader α} {Weak : List Token → List Token → α → Prop}
    (derives : reader.Derives final Form)
    (weaker : ∀ front left value, Form front left value → Weak front left value) :
    reader.Derives final Weak := by
  intro rest value left proper read
  obtain ⟨front, rfl, form⟩ := derives rest value left proper read
  exact ⟨front, rfl, weaker _ _ _ form⟩

theorem derives_bind_before {first : Reader α} {second : α → Reader β}
    (derives : first.Derives final Form)
    (later : ∀ front value, (second value).Derives final fun back left result =>
      Form front (back ++ left) value → Later (front ++ back) left result) :
    (first >>= second).Derives final Later := by
  intro rest result left proper read
  obtain ⟨value, between, firstRead, secondRead⟩ := bind_eq_done.1 read
  obtain ⟨front, rfl, form⟩ := derives rest value between proper firstRead
  have properLeft : ∀ token ∈ between, token.Proper :=
    fun token member => proper token (List.mem_append_right _ member)
  obtain ⟨back, rfl, formed⟩ := later front value between result left properLeft secondRead
  exact ⟨front ++ back, (List.append_assoc ..).symm, formed form⟩

theorem derives_bind {first : Reader α} {second : α → Reader β} {Form : List Token → α → Prop}
    (derives : first.Derives final fun front _ value => Form front value)
    (later : ∀ front value, Form front value →
      (second value).Derives final fun back left result => Later (front ++ back) left result) :
    (first >>= second).Derives final Later := by
  intro rest result left proper read
  obtain ⟨value, between, firstRead, secondRead⟩ := bind_eq_done.1 read
  obtain ⟨front, rfl, form⟩ := derives rest value between proper firstRead
  have properLeft : ∀ token ∈ between, token.Proper :=
    fun token member => proper token (List.mem_append_right _ member)
  obtain ⟨back, rfl, formed⟩ := later front value form between result left properLeft secondRead
  exact ⟨front ++ back, (List.append_assoc ..).symm, formed⟩

theorem derives_pure {value : α} (form : ∀ left, Form [] left value) :
    (pure value : Reader α).Derives final Form := by
  intro rest result left _ read
  cases read
  exact ⟨[], rfl, form _⟩

theorem derives_expected {what : Expectation} : (expected what : Reader α).Derives final Form := by
  intro rest result left _ read
  cases read

theorem derives_unexpected : (unexpected : Reader α).Derives final Form := by
  intro rest result left _ read
  cases read

theorem derives_lookahead {count : Nat} {reader : Token → Reader α}
    (later : ∀ token, (reader token).Derives final fun front left value =>
      token = ((front ++ left).drop count).headD final → Form front left value) :
    (lookahead count >>= reader).Derives final Form := by
  intro rest value left proper read
  obtain ⟨front, rfl, form⟩ := later _ rest value left proper read
  exact ⟨front, rfl, form rfl⟩

theorem derives_current (ends : final.Ends) {reader : Token → Reader α}
    (later : ∀ token : Token, token.Proper → (reader token).Derives final fun front left value =>
      token = (front ++ left).headD final → Form front left value) :
    (current >>= reader).Derives final Form := by
  intro rest value left proper read
  have properNext : (rest.headD final).Proper := by
    cases rest with
    | nil => exact ends.proper
    | cons token rest => exact proper token List.mem_cons_self
  obtain ⟨front, rfl, form⟩ := later _ properNext rest value left proper read
  exact ⟨front, rfl, form rfl⟩

/-- A token that passes a test which the end mark fails is read for good. -/
theorem derives_one {test : Token → Prop} [DecidablePred test] {reader otherwise : Token → Reader α}
    (stops : ¬test final)
    (inside : ∀ token : Token, token.Proper → test token →
      (reader token).Derives final fun back left value => Form (token :: back) left value)
    (outside : ∀ token, ¬test token → (otherwise token).Derives final fun front left value =>
      token = (front ++ left).headD final → Form front left value) :
    (current >>= fun token =>
      if test token then step >>= fun _ => reader token else otherwise token).Derives
        final Form := by
  intro rest value left proper read
  rw [bind_apply] at read
  change (if test (rest.headD final) then step >>= fun _ => reader (rest.headD final)
    else otherwise (rest.headD final)) final rest = _ at read
  by_cases passes : test (rest.headD final)
  · rw [if_pos passes] at read
    cases rest with
    | nil => exact absurd passes stops
    | cons token rest =>
      have properRest : ∀ other ∈ rest, other.Proper :=
        fun other member => proper other (List.mem_cons_of_mem _ member)
      obtain ⟨front, rfl, form⟩ :=
        inside token (proper token List.mem_cons_self) passes rest value left properRest read
      exact ⟨token :: front, rfl, form⟩
  · rw [if_neg passes] at read
    obtain ⟨front, rfl, form⟩ := outside _ passes rest value left proper read
    exact ⟨front, rfl, form rfl⟩

end

section
variable {Form : List Token → List Token → α → Prop} (ends : final.Ends)
include ends

/-- The token that has been looked at is the one that is read, unless it ends the file. -/
theorem derives_step {first : Token} {next : Unit → Reader α} (moves : first.kind ≠ .endOfFile)
    (later : (next ()).Derives final fun back left value => Form (first :: back) left value) :
    (step >>= next).Derives final fun front left value =>
      first = (front ++ left).headD final → Form front left value := by
  intro rest value left proper read
  cases rest with
  | nil =>
    obtain ⟨back, same, -⟩ := later [] value left proper read
    refine ⟨back, same, fun isFirst => ?_⟩
    rw [← same] at isFirst
    obtain rfl : first = final := isFirst
    exact absurd ends.kind moves
  | cons token rest =>
    have properRest : ∀ other ∈ rest, other.Proper :=
      fun other member => proper other (List.mem_cons_of_mem _ member)
    obtain ⟨back, rfl, form⟩ := later rest value left properRest read
    refine ⟨token :: back, rfl, fun isFirst => ?_⟩
    obtain rfl : first = token := isFirst
    exact form

theorem derives_accept {spelling : String} {next : Bool → Reader α} (spelled : spelling ≠ "")
    (accepted : ∀ token : Token, token.Proper → token.is spelling →
      (next true).Derives final fun back left value => Form (token :: back) left value)
    (refused : ∀ token : Token, ¬token.is spelling → (next false).Derives final
      fun front left value => token = (front ++ left).headD final → Form front left value) :
    (accept spelling >>= next).Derives final Form := by
  rw [accept_bind]
  refine derives_one (by simp [ends.is spelled]) accepted refused

theorem derives_require {spelling : String} {next : Unit → Reader α} (spelled : spelling ≠ "")
    (required : ∀ token : Token, token.Proper → token.is spelling →
      (next ()).Derives final fun back left value => Form (token :: back) left value) :
    (require spelling >>= next).Derives final Form := by
  rw [require_bind]
  exact derives_one (by simp [ends.is spelled]) required fun _ _ => derives_expected

theorem derives_identifier {next : Token → Reader α}
    (found : ∀ token : Token, token.kind = .identifier →
      (next token).Derives final fun back left value => Form (token :: back) left value) :
    (identifier >>= next).Derives final Form := by
  rw [identifier_bind]
  exact derives_one (by simp [ends.kind]) (fun token _ => found token) fun _ _ => derives_expected

theorem derives_acceptSemicolon {next : Bool → Reader α}
    (accepted : ∀ token : Token, token.kind = .semicolon →
      (next true).Derives final fun back left value => Form (token :: back) left value)
    (refused : ∀ token : Token, ¬token.kind = .semicolon → (next false).Derives final
      fun front left value => token = (front ++ left).headD final → Form front left value) :
    (acceptSemicolon >>= next).Derives final Form := by
  rw [acceptSemicolon_bind]
  exact derives_one (by simp [ends.kind]) (fun token _ => accepted token) refused

omit ends in
theorem derives_semicolons : semicolons.Derives final fun front _ _ => Semicolons front := by
  intro rest value left _ read
  cases read
  refine ⟨rest.takeWhile (·.kind == .semicolon), List.takeWhile_append_dropWhile.symm, ?_⟩
  intro token member
  simpa using List.all_eq_true.1 List.all_takeWhile token member

omit ends in
theorem derives_closeGroup (opener : Token) (opens : opener.opens) :
    (closeGroup opener).Derives final fun front _ _ => Group opener (opener :: front) := by
  intro rest value left _ read
  unfold closeGroup at read
  split at read
  · next behind found =>
    cases read
    obtain ⟨front, same, enclosed, -⟩ := group_of_afterGroup opens found
    exact ⟨front, same, enclosed⟩
  · cases read

theorem derives_group : group.Derives final fun front _ _ => ∃ opener, Group opener front := by
  refine derives_one (by simp [ends.opens]) (fun opener _ opens => ?_) fun _ _ => derives_unexpected
  exact (derives_closeGroup opener opens).weaken fun front _ _ enclosed => ⟨opener, enclosed⟩

end

/-- What is repeated until it gives nothing, with the tokens that are left after each time. -/
inductive Repeats (Item : List Token → List Token → Option α → Prop) :
    List Token → List Token → List α → Prop where
  | stop {front left : List Token} : Item front left none → Repeats Item front left []
  | more {front rest left : List Token} {value : α} {later : List α} :
      Item front (rest ++ left) (some value) → Repeats Item rest left later →
      Repeats Item (front ++ rest) left (value :: later)

theorem derives_many {item : Reader (Option α)} {Item : List Token → List Token → Option α → Prop}
    (derives : item.Derives final Item) : (many item).Derives final (Repeats Item) := by
  have within : ∀ limit, (manyWithin item limit).Derives final (Repeats Item) := by
    intro limit
    induction limit with
    | nil =>
      intro rest value left _ read
      cases read
    | cons token limit ih =>
      refine derives_bind_before derives fun front found => ?_
      cases found with
      | none => exact derives_pure fun left item => .stop (by simpa using item)
      | some value =>
        refine derives_bind_before ih fun rest later => derives_pure fun left repeats item => ?_
        simp only [List.nil_append, List.append_nil] at repeats item ⊢
        exact .more item repeats
  exact fun rest => within (final :: rest) rest

/-- One item of a list and what stands around it. The closing bracket is read in place of a further
item, and it may stand for the separator behind one. -/
inductive ListItem (final : Token) (close : String) (Blank : List Token → Prop)
    (Separator : Token → Prop) (Item : List Token → α → Prop) :
    List Token → List Token → Option α → Prop where
  | close {blank left : List Token} {closer : Token} : Blank blank → closer.IsOperator close →
      ListItem final close Blank Separator Item (blank ++ [closer]) left none
  | separated {blank front left : List Token} {separator : Token} {value : α} : Blank blank →
      Item front value → Separator separator → ¬((front ++ separator :: left).headD final).is close →
      ListItem final close Blank Separator Item (blank ++ (front ++ [separator])) left (some value)
  | last {blank front left : List Token} {value : α} : Blank blank → Item front value →
      (left.headD final).IsOperator close → ¬((front ++ left).headD final).is close →
      ListItem final close Blank Separator Item (blank ++ front) left (some value)

section
variable {close : String} {Blank : List Token → Prop} {Separator : Token → Prop}
  {Item : List Token → α → Prop} {tokens left : List Token} {values : List α}

/-- Where the closing bracket comes next nothing more is repeated. -/
theorem repeats_of_close
    (repeats : Repeats (ListItem final close Blank Separator Item) tokens left values)
    (blankStart : ∀ token rest, Blank (token :: rest) → token.kind ≠ .operator)
    (closes : ((tokens ++ left).headD final).IsOperator close) :
    values = [] ∧ ∃ closer, tokens = [closer] := by
  have noBlank : ∀ blank rest : List Token, Blank blank →
      ((blank ++ rest).headD final).IsOperator close → blank = [] := by
    intro blank rest blanks closed
    cases blank with
    | nil => rfl
    | cons token blank => exact absurd closed.1 (blankStart token blank blanks)
  cases repeats with
  | stop item =>
    cases item with
    | @close blank _ closer blanks =>
      rw [List.append_assoc] at closes
      obtain rfl := noBlank _ _ blanks closes
      exact ⟨rfl, closer, rfl⟩
  | more item repeats =>
    exfalso
    cases item with
    | separated blanks _ _ opened =>
      simp only [List.append_assoc] at closes
      obtain rfl := noBlank _ _ blanks closes
      exact opened (by simpa using closes.is)
    | last blanks _ _ opened =>
      simp only [List.append_assoc] at closes
      obtain rfl := noBlank _ _ blanks closes
      exact opened (by simpa using closes.is)

theorem items_of_repeats (repeats : Repeats
    (ListItem final close Semicolons (·.kind = .semicolon) Item) tokens left values) :
    ∃ inner closer, tokens = inner ++ [closer] ∧ Items Item inner values ∧
      closer.IsOperator close := by
  induction repeats with
  | stop item =>
    cases item with
    | close blanks closes => exact ⟨_, _, rfl, .none blanks, closes⟩
  | more item repeats ih =>
    obtain ⟨inner, closer, rfl, items, closes⟩ := ih
    cases item with
    | separated blanks derived kind _ =>
      exact ⟨_, closer, by simp, .more blanks derived kind items, closes⟩
    | last blanks derived closed _ =>
      have blankStart : ∀ token rest, Semicolons (token :: rest) → token.kind ≠ .operator := by
        intro token rest semicolons
        simp [semicolons token List.mem_cons_self]
      obtain ⟨rfl, other, same⟩ := repeats_of_close repeats blankStart closed
      obtain ⟨rfl, -⟩ | ⟨-, absurd⟩ := List.append_eq_singleton_iff.1 same
      · exact ⟨_, closer, by simp, .last blanks derived, closes⟩
      · cases absurd

theorem arguments_of_repeats {Item : List Token → GoType → Prop} {types : List GoType}
    (repeats : Repeats (ListItem final close (· = []) (·.IsOperator ",") Item) tokens left types) :
    ∃ inner closer, tokens = inner ++ [closer] ∧ Arguments Item inner types.length ∧
      closer.IsOperator close := by
  induction repeats with
  | stop item =>
    cases item with
    | close blanks closes =>
      subst blanks
      exact ⟨[], _, rfl, .none, closes⟩
  | more item repeats ih =>
    obtain ⟨inner, closer, rfl, arguments, closes⟩ := ih
    cases item with
    | separated blanks derived comma _ =>
      subst blanks
      exact ⟨_, closer, by simp, .more derived comma arguments, closes⟩
    | last blanks derived closed _ =>
      subst blanks
      obtain ⟨rfl, other, same⟩ := repeats_of_close repeats (fun _ _ blank => nomatch blank) closed
      obtain ⟨rfl, -⟩ | ⟨-, absurd⟩ := List.append_eq_singleton_iff.1 same
      · exact ⟨_, closer, by simp, .last derived, closes⟩
      · cases absurd

variable (ends : final.Ends) (listed : close ∈ Lexeme.operators) (other : close ≠ ";")
  (spelled : close ≠ "") {item : Reader α}
  (derives : item.Derives final fun front _ value => Item front value)
include ends listed other spelled derives

theorem derives_semicolonList :
    (semicolonList close item).Derives final fun front _ values =>
      ∃ inner closer, front = inner ++ [closer] ∧ Items Item inner values ∧
        closer.IsOperator close := by
  have part : (semicolonItem close item).Derives final
      (ListItem final close Semicolons (·.kind = .semicolon) Item) := by
    refine derives_bind derives_semicolons fun blank _ blanks => ?_
    refine derives_accept ends spelled (fun closer proper closes => ?_) fun token opened => ?_
    · refine derives_pure fun left => ?_
      exact .close blanks ((proper.is_operator_iff listed other).1 closes)
    · refine derives_bind derives fun front value derived => ?_
      refine derives_acceptSemicolon ends (fun semicolon kind => ?_) fun token kind => ?_
      · refine derives_pure fun left first => ?_
        rw [List.append_assoc] at first
        exact .separated blanks derived kind (first ▸ opened)
      · refine derives_current ends fun next proper => ?_
        split
        · next closes =>
          refine derives_pure fun left same _ first => ?_
          simp only [List.nil_append, List.append_nil] at same first ⊢
          have closer := (proper.is_operator_iff listed other).1 closes
          exact .last blanks derived (same ▸ closer) (first ▸ opened)
        · exact derives_expected
  exact (derives_many part).weaken fun _ _ _ => items_of_repeats

end

section
variable {type : Reader GoType} {Inner : List Token → GoType → Prop} (ends : final.Ends)
  (derives : type.Derives final fun front _ value => Inner front value)
include ends derives

theorem derives_typeArguments :
    (typeArguments type).Derives final fun front _ count =>
      ∃ opener inner closer, front = opener :: (inner ++ [closer]) ∧ opener.IsOperator "[" ∧
        Arguments Inner inner count ∧ closer.IsOperator "]" := by
  let Part := ListItem final "]" (· = []) (·.IsOperator ",") Inner
  have part : (commaItem "]" type).Derives final Part := by
    refine derives_accept ends (by decide) (fun closer proper closes => ?_) fun token opened => ?_
    · refine derives_pure fun left => ?_
      have closing := (proper.is_operator_iff (by decide) (by decide)).1 closes
      exact (.close rfl closing : Part ([] ++ [closer]) left none)
    · refine derives_bind derives fun front value derived => ?_
      refine derives_accept ends (by decide) (fun comma proper accepted => ?_) fun token refused => ?_
      · refine derives_pure fun left first => ?_
        rw [List.append_assoc] at first
        have separator := (proper.is_operator_iff (by decide) (by decide)).1 accepted
        exact (.separated rfl derived separator (first ▸ opened) :
          Part ([] ++ (front ++ [comma])) left (some value))
      · refine derives_current ends fun next proper => ?_
        split
        · next closes =>
          refine derives_pure fun left same _ first => ?_
          simp only [List.nil_append, List.append_nil] at same first ⊢
          have closer := (proper.is_operator_iff (by decide) (by decide)).1 closes
          exact (.last rfl derived (same ▸ closer) (first ▸ opened) :
            Part ([] ++ front) left (some value))
        · exact derives_expected
  have list : (commaList "]" type).Derives final fun front _ types =>
      ∃ inner closer, front = inner ++ [closer] ∧ Arguments Inner inner types.length ∧
        closer.IsOperator "]" :=
    (derives_many part).weaken fun _ _ _ => arguments_of_repeats
  refine derives_require ends (by decide) fun opener proper opens => ?_
  refine derives_bind list fun _ types ⟨inner, closer, same, arguments, closes⟩ => ?_
  refine derives_pure fun left => ?_
  have opening := (proper.is_operator_iff (by decide) (by decide)).1 opens
  exact ⟨opener, inner, closer, by simp [same], opening, arguments, closes⟩

omit derives in
theorem derives_qualifiedName {first : Token} (identifier : first.kind = .identifier) :
    (qualifiedName first).Derives final fun front _ type => Name (first :: front) type := by
  refine derives_accept ends (by decide) (fun dot proper dotted => ?_) fun _ _ => ?_
  · refine derives_identifier ends fun selected kind => ?_
    refine derives_pure fun left => ?_
    exact .qualified identifier ((proper.is_operator_iff (by decide) (by decide)).1 dotted) kind
  · exact derives_pure fun left _ => .plain identifier

theorem derives_namedType {first : Token} (identifier : first.kind = .identifier) :
    (namedType type first).Derives final fun front _ named => TypeRule Inner (first :: front) named := by
  refine derives_bind (derives_qualifiedName ends identifier) fun front named name => ?_
  refine derives_current ends fun next _ => ?_
  split
  · refine derives_bind (derives_typeArguments ends derives)
      fun _ count ⟨opener, inner, closer, same, opening, arguments, closing⟩ => ?_
    refine derives_pure fun left _ => ?_
    subst same
    simpa using TypeRule.generic name opening arguments closing
  · exact derives_pure fun left _ => by simpa using TypeRule.named name

omit derives in
theorem derives_groupOf {opening : String} (listed : opening ∈ Lexeme.operators)
    (other : opening ≠ ";") : (groupOf opening).Derives final fun front _ _ =>
      ∃ opener : Token, opener.IsOperator opening ∧ Group opener front := by
  refine derives_current ends fun token proper => ?_
  split
  · next opens =>
    refine (derives_group ends).weaken fun front left _ ⟨opener, enclosed⟩ same => ?_
    obtain rfl : token = opener := by
      cases enclosed
      exact same
    exact ⟨token, (proper.is_operator_iff listed other).1 opens, enclosed⟩
  · exact derives_unexpected

theorem derives_signature : (signature type).Derives final fun front _ _ =>
    ∃ (opener : Token) (parameters result : List Token), front = parameters ++ result ∧
      opener.IsOperator "(" ∧ Group opener parameters ∧ Result Inner result := by
  refine derives_bind (derives_groupOf ends (by decide) (by decide))
    fun parameters _ ⟨opener, opens, enclosed⟩ => ?_
  refine derives_current ends fun next proper => ?_
  split
  · next opensResult =>
    refine (derives_group ends).weaken fun result left _ ⟨other, grouped⟩ same => ?_
    obtain rfl : next = other := by
      cases grouped
      exact same
    have opening := (proper.is_operator_iff (by decide) (by decide)).1 opensResult
    exact ⟨opener, parameters, result, rfl, opens, enclosed, .group opening grouped⟩
  · split
    · refine derives_bind derives fun result type derived => ?_
      refine derives_pure fun left _ => ?_
      exact ⟨opener, parameters, result, by simp, opens, enclosed, .type derived⟩
    · exact derives_pure fun left _ => ⟨opener, parameters, [], rfl, opens, enclosed, .none⟩

omit derives in
theorem derives_fieldNames : fieldNames.Derives final fun front _ names => Names front names := by
  have part : nextName.Derives final fun front _ found =>
      (found = none → front = []) ∧ ∀ name, found = some name →
        ∃ comma selected : Token, front = [comma, selected] ∧ comma.IsOperator "," ∧
          selected.kind = .identifier ∧ selected.text = name := by
    refine derives_accept ends (by decide) (fun comma proper accepted => ?_) fun _ _ => ?_
    · refine derives_identifier ends fun selected kind => ?_
      refine derives_pure fun left => ?_
      have separator := (proper.is_operator_iff (by decide) (by decide)).1 accepted
      exact ⟨nofun, fun name read => ⟨comma, selected, rfl, separator, kind, Option.some.inj read⟩⟩
    · exact derives_pure fun left _ => ⟨fun _ => rfl, nofun⟩
  refine derives_identifier ends fun first identifier => ?_
  refine derives_bind_before (derives_many part) fun front later => derives_pure fun left repeats => ?_
  simp only [List.nil_append, List.append_nil] at repeats ⊢
  clear part
  induction repeats generalizing first with
  | stop item =>
    obtain rfl := item.1 rfl
    exact .last identifier
  | more item repeats ih =>
    obtain ⟨comma, selected, rfl, separator, kind, rfl⟩ := item.2 _ rfl
    exact .more identifier separator (ih selected kind)

theorem derives_fieldParts (nonempty : ∀ front type, Inner front type → front ≠ [])
    {first : Token} (proper : first.Proper) : (fieldParts type first).Derives final
      fun front left parts => first = (front ++ left).headD final →
        FieldParts Inner front parts.1 parts.2 ∧ ∃ rest, front = first :: rest := by
  unfold fieldParts
  split
  · next starred =>
    have star := (proper.is_operator_iff (by decide) (by decide)).1 starred
    apply derives_step ends (by simp [star.1])
    refine derives_bind derives fun front element derived => ?_
    refine derives_pure fun left => ?_
    exact ⟨.pointer star (by simpa using derived), _, rfl⟩
  · split
    · next identifier =>
      have looks : startsEmbedded.Derives final fun front _ _ => front = [] := by
        refine derives_lookahead fun next => ?_
        split
        · exact derives_pure fun left _ => rfl
        · split
          · intro rest value left _ read
            cases read
            exact ⟨[], rfl, fun _ => rfl⟩
          · exact derives_pure fun left _ => rfl
      refine derives_bind looks fun _ isEmbedded none => ?_
      subst none
      split
      · refine derives_bind derives fun front embedded derived => ?_
        refine derives_pure fun left same => ?_
        obtain ⟨token, rest, rfl⟩ := List.exists_cons_of_ne_nil (nonempty _ _ derived)
        obtain rfl : first = token := same
        exact ⟨by simpa using FieldParts.embedded identifier derived, _, rfl⟩
      · refine derives_bind (derives_fieldNames ends) fun front names named => ?_
        refine derives_bind derives fun back shared derived => ?_
        refine derives_pure fun left same => ?_
        obtain ⟨token, rest, rfl⟩ : ∃ token rest, front = token :: rest := by
          cases named <;> exact ⟨_, _, rfl⟩
        obtain rfl : first = token := same
        exact ⟨by simpa using FieldParts.named named derived, _, rfl⟩
    · exact derives_expected

theorem derives_field (nonempty : ∀ front type, Inner front type → front ≠ []) :
    (field type).Derives final fun front _ decl => Field Inner front decl := by
  refine derives_current ends fun first proper => ?_
  refine derives_bind_before (derives_fieldParts ends derives nonempty proper) fun front parts => ?_
  have tag : fieldTag.Derives final fun front _ tag => Tag front tag := by
    refine derives_current ends fun token _ => ?_
    split
    · next literal =>
      refine derives_step ends ?_ (derives_pure fun left => .some literal)
      intro kind
      simp [Token.isLiteralString, kind] at literal
    · exact derives_pure fun left _ => .none
  refine derives_bind tag fun ending tag tagged => derives_pure fun left known same => ?_
  simp only [List.append_nil, ← List.append_assoc] at known same ⊢
  obtain ⟨derived, rest, rfl⟩ := known (by simpa using same)
  exact .intro derived tagged

theorem derives_structBody (nonempty : ∀ front type, Inner front type → front ≠ []) :
    (structBody type).Derives final fun front _ fields =>
      ∃ opener inner closer, front = opener :: (inner ++ [closer]) ∧
        opener.IsOperator Token.leftBrace ∧ Items (Field Inner) inner fields ∧
        closer.IsOperator Token.rightBrace := by
  refine derives_require ends (by decide) fun opener proper opens => ?_
  refine (derives_semicolonList ends (by decide) (by decide) (by decide)
    (derives_field ends derives nonempty)).weaken fun _ _ fields ⟨inner, closer, same, items, closes⟩ => ?_
  have opening := (proper.is_operator_iff (by decide) (by decide)).1 opens
  exact ⟨opener, inner, closer, by rw [same], opening, items, closes⟩

omit derives in
theorem derives_arrayLength {opener : Token} (opens : opener.IsOperator "[") :
    (arrayLength opener).Derives final fun front _ _ => Group opener (opener :: front) := by
  have opening : opener.opens := Token.opens_iff.2 (.inr (.inl opens))
  refine derives_accept ends (by decide) (fun closer proper closes => ?_) fun _ _ => ?_
  · refine derives_pure fun left => ?_
    have closing := (proper.is_operator_iff (by decide) (by decide)).1 closes
    exact .intro opening balanced_nil (Token.closes_iff.2 (.inr (.inl closing)))
  · exact (derives_closeGroup opener opening).weaken fun _ _ _ group _ => group

theorem derives_typeAfter (nonempty : ∀ front type, Inner front type → front ≠ [])
    {first : Token} {head : TypeHead} (starts : head.Starts first) :
    (typeAfter type first head).Derives final fun front _ made =>
      TypeRule Inner (first :: front) made := by
  cases head with
  | name => exact derives_namedType ends derives starts
  | star =>
    refine derives_bind derives fun front element derived => derives_pure fun left => ?_
    simpa using TypeRule.pointer starts derived
  | bracket =>
    refine derives_bind (derives_arrayLength ends starts) fun length _ group => ?_
    refine derives_bind derives fun front element derived => derives_pure fun left => ?_
    simpa using TypeRule.sequence starts group derived
  | parenthesis =>
    refine derives_bind derives fun front inner derived => ?_
    refine derives_require ends (by decide) fun closer proper closes => derives_pure fun left => ?_
    have closing := (proper.is_operator_iff (by decide) (by decide)).1 closes
    exact .parenthesized starts derived closing
  | arrow =>
    refine derives_require ends (by decide) fun keyword proper spelled => ?_
    refine derives_bind derives fun front element derived => derives_pure fun left => ?_
    have chan := (proper.is_keyword_iff (by decide)).1 spelled
    simpa using TypeRule.receiver starts chan derived
  | channel =>
    refine derives_accept ends (by decide) (fun arrow proper spelled => ?_) fun _ _ => ?_
    · refine derives_bind derives fun front element derived => derives_pure fun left => ?_
      have sends := (proper.is_operator_iff (by decide) (by decide)).1 spelled
      simpa using TypeRule.sender starts sends derived
    · refine derives_bind derives fun front element derived => derives_pure fun left _ => ?_
      simpa using TypeRule.channel starts derived
  | map =>
    refine derives_require ends (by decide) fun opener properOpener opens => ?_
    refine derives_bind derives fun key keyType derivedKey => ?_
    refine derives_require ends (by decide) fun closer properCloser closes => ?_
    refine derives_bind derives fun front element derived => derives_pure fun left => ?_
    have opening := (properOpener.is_operator_iff (by decide) (by decide)).1 opens
    have closing := (properCloser.is_operator_iff (by decide) (by decide)).1 closes
    simpa using TypeRule.map starts opening derivedKey closing derived
  | function =>
    refine derives_bind (derives_signature ends derives)
      fun _ _ ⟨opener, parameters, result, same, opens, group, given⟩ => derives_pure fun left => ?_
    subst same
    simpa using TypeRule.function starts opens group given
  | interface =>
    refine derives_bind (derives_groupOf ends (by decide) (by decide))
      fun body _ ⟨opener, opens, group⟩ => derives_pure fun left => ?_
    simpa using TypeRule.interface starts opens group
  | struct =>
    refine derives_bind (derives_structBody ends derives nonempty)
      fun _ fields ⟨opener, inner, closer, same, opens, items, closes⟩ => derives_pure fun left => ?_
    subst same
    simpa using TypeRule.struct starts opens items closes

theorem derives_typeWith (nonempty : ∀ front type, Inner front type → front ≠ []) :
    (typeWith type).Derives final fun front _ made => TypeRule Inner front made := by
  refine derives_current ends fun first proper => ?_
  cases starts : TypeHead.ofToken? first with
  | none => exact derives_expected
  | some head =>
    have head := TypeHead.ofToken?_eq_some_iff.1 starts
    refine derives_step ends ?_ (derives_typeAfter ends derives nonempty head)
    intro kind
    simp [TypeHead.ofToken?, kind] at starts

end

section
variable (ends : final.Ends)
include ends

theorem derives_typeWithin (limit : List Token) :
    (typeWithin limit).Derives final fun front _ made => TypeOf front made := by
  induction limit with
  | nil =>
    intro rest value left _ read
    cases read
  | cons token limit ih =>
    exact (derives_typeWith ends ih fun _ _ => TypeOf.nonempty).weaken fun _ _ _ => .intro

theorem derives_type : type.Derives final fun front _ made => TypeOf front made :=
  fun rest => derives_typeWithin ends (final :: rest) rest

theorem startsTypeParameters_apply {rest : List Token} (clear : ∀ token ∈ rest, token.Clear) :
    ∃ found, startsTypeParameters final rest = .done found rest ∧
      (found = true ↔ StartsParameters rest) := by
  refine ⟨_, rfl, ?_⟩
  have noParameter : (final.kind == .identifier) = false := by rw [ends.kind]; rfl
  have noNext : final.followsTypeParameter = false := by simp [Token.followsTypeParameter, ends.kind]
  have shape : ∀ opener parameter next later, rest = opener :: parameter :: next :: later →
      (StartsParameters rest ↔ opener.IsOperator "[" ∧ parameter.kind = .identifier ∧
        next.followsTypeParameter) := by
    rintro opener parameter next later rfl
    constructor
    · rintro ⟨_, _, _, _, same, starts⟩
      cases same
      exact starts
    · exact fun starts => ⟨_, _, _, _, rfl, starts⟩
  rcases rest with _ | ⟨opener, _ | ⟨parameter, _ | ⟨next, later⟩⟩⟩
  · simp [StartsParameters, noNext]
  · simp [StartsParameters, noNext]
  · simp [StartsParameters, noNext]
  · have opens : opener.is "[" = true ↔ opener.IsOperator "[" :=
      (clear opener List.mem_cons_self).is_operator_iff (by decide) (by decide)
    rw [shape opener parameter next later rfl, ← opens]
    simp [and_assoc]

theorem derives_typeParameters :
    typeParameters.Derives final fun front left _ => Parameters front left := by
  intro rest value left proper read
  obtain ⟨found, looked, starts⟩ := startsTypeParameters_apply ends
    fun token member => (proper token member).clear
  unfold typeParameters at read
  rw [bind_of_done looked] at read
  split at read
  · next isFound =>
    obtain ⟨front, rfl, opener, enclosed⟩ := derives_group ends rest value left proper read
    obtain ⟨opens, inside⟩ := StartsParameters.of_group enclosed (starts.1 isFound)
    exact ⟨front, rfl, .group opens enclosed inside⟩
  · next isNotFound =>
    cases read
    exact ⟨[], rfl, .none fun parameters => isNotFound (starts.2 parameters)⟩

theorem derives_typeSpec : typeSpec.Derives final fun front _ decl => Spec front decl := by
  refine derives_identifier ends fun name identifier => ?_
  refine derives_bind_before (derives_typeParameters ends) fun parameters _ => ?_
  refine derives_accept ends (by decide) (fun sign proper accepted => ?_) fun _ _ => ?_
  · refine derives_bind (derives_type ends) fun rest type derived => derives_pure fun left given => ?_
    have equals := (proper.is_operator_iff (by decide) (by decide)).1 accepted
    have before : Parameters parameters (([sign] ++ rest) ++ left) := by simpa using given
    simpa using Spec.intro identifier before.restrict (.present equals) derived
  · refine derives_bind (derives_type ends) fun rest type derived => derives_pure fun left _ given => ?_
    have before : Parameters parameters (([] ++ rest) ++ left) := by simpa using given
    simpa using Spec.intro identifier before.restrict .absent derived

theorem derives_declEnd : declEnd.Derives final fun front left _ =>
    Ending front (left ++ [final]) := by
  refine derives_acceptSemicolon ends (fun semicolon kind => ?_) fun token _ => ?_
  · exact derives_pure fun left => .semicolon kind
  · rw [atEnd_bind]
    refine derives_current ends fun next _ => ?_
    split
    · next ended =>
      refine derives_pure fun left same _ => ?_
      cases left with
      | nil => exact .endOfFile ends.kind
      | cons first left =>
        obtain rfl : next = first := same
        exact .endOfFile (by simpa using ended)
    · exact derives_expected

theorem derives_typeDecls : typeDecls.Derives final fun front left decls =>
    ∀ keyword : Token, keyword.IsKeyword "type" → ∃ own ending, front = own ++ ending ∧
      Decl (keyword :: own) decls ∧ Ending ending (left ++ [final]) := by
  have specs : typeSpecs.Derives final fun front _ decls =>
      ∀ keyword : Token, keyword.IsKeyword "type" → Decl (keyword :: front) decls := by
    refine derives_accept ends (by decide) (fun opener proper opens => ?_) fun _ _ => ?_
    · have opening := (proper.is_operator_iff (by decide) (by decide)).1 opens
      refine (derives_semicolonList ends (by decide) (by decide) (by decide)
        (derives_typeSpec ends)).weaken fun _ _ decls ⟨inner, closer, same, items, closes⟩ keyword word => ?_
      rw [same]
      exact .types word opening items closes
    · refine derives_bind (derives_typeSpec ends) fun front decl spec => ?_
      refine derives_pure fun left _ keyword word => ?_
      exact .type word (by simpa using spec)
  refine derives_bind specs fun front decls derived => ?_
  refine derives_bind_before (derives_declEnd ends) fun ending _ => ?_
  refine derives_pure fun left ended keyword word => ?_
  exact ⟨front, ending, by simp, derived keyword word, by simpa using ended⟩

/-- The next token is read and taken for plain, or it is left. -/
theorem derives_plainToken : plainToken.Derives final fun front left found =>
    match found with
    | none => front = []
    | some _ => ∃ token, front = [token] ∧ token = (front ++ left).headD final ∧
        token.kind ≠ .semicolon ∧ token.kind ≠ .endOfFile := by
  refine derives_one (by simp [ends.kind]) (fun token _ kind => ?_) fun token _ => ?_
  · exact derives_pure fun left => ⟨token, rfl, rfl, kind⟩
  · exact derives_pure fun left _ => rfl

theorem derives_declPart : declPart.Derives final fun front _ found =>
    match found with
    | none => front = []
    | some _ => (∃ opener, Group opener front) ∨ ∃ token, front = [token] ∧ IsPlain token := by
  refine derives_current ends fun token _ => ?_
  split
  · refine derives_bind (derives_group ends) fun front _ enclosed => derives_pure fun left _ => ?_
    exact .inl (by simpa using enclosed)
  · next opens =>
    split
    · exact derives_unexpected
    · next closes =>
      refine (derives_plainToken ends).weaken fun front left found plain same => ?_
      cases found with
      | none => exact plain
      | some _ =>
        obtain ⟨other, rfl, -, semicolon, endOfFile⟩ := plain
        obtain rfl : token = other := same
        exact .inr ⟨token, rfl, by simpa using opens, by simpa using closes, semicolon, endOfFile⟩

theorem derives_otherDecl : otherDecl.Derives final fun front left _ =>
    ∃ own ending, front = own ++ ending ∧ Skipped own ∧ Ending ending (left ++ [final]) := by
  refine derives_bind_before (derives_many (derives_declPart ends)) fun own found => ?_
  refine (derives_declEnd ends).weaken fun ending left _ ended repeats => ?_
  refine ⟨own, ending, rfl, ?_, ended⟩
  generalize ending ++ left = behind at repeats
  clear ended
  induction repeats with
  | stop item => exact item ▸ .nil
  | more item _ ih =>
    rcases item with ⟨opener, enclosed⟩ | ⟨token, rfl, plain⟩
    · exact .group enclosed ih
    · exact .token plain ih

theorem derives_decl : decl.Derives final fun front left decls =>
    ∃ own ending, front = own ++ ending ∧ Decl own decls ∧ Ending ending (left ++ [final]) := by
  refine derives_current ends fun first proper => ?_
  cases starts : DeclHead.ofToken? first with
  | none => exact derives_unexpected
  | some head =>
    have head := DeclHead.ofToken?_eq_some_iff.1 starts
    cases ‹DeclHead› with
    | type =>
      apply derives_step ends (by simp [head.1])
      refine (derives_typeDecls ends).weaken fun back left decls derived => ?_
      obtain ⟨own, ending, rfl, decl, ended⟩ := derived first head
      exact ⟨first :: own, ending, rfl, decl, ended⟩
    | other =>
      obtain ⟨word, listed, keyword⟩ := head
      apply derives_step ends (by simp [keyword.1])
      refine derives_bind_before (derives_otherDecl ends) fun back _ => derives_pure fun left derived => ?_
      obtain ⟨own, ending, rfl, skipped, ended⟩ := derived
      exact ⟨first :: own, ending, by simp, .other keyword listed skipped, by simpa using ended⟩

theorem derives_nextDecl : nextDecl.Derives final fun front left found =>
    match found with
    | none => Semicolons front ∧ (left.headD final).kind = .endOfFile
    | some decls => ∃ blank own ending, front = blank ++ (own ++ ending) ∧ Semicolons blank ∧
        Decl own decls ∧ Ending ending (left ++ [final]) := by
  refine derives_bind derives_semicolons fun blank _ blanks => ?_
  rw [atEnd_bind]
  refine derives_current ends fun token _ => ?_
  split
  · next ended =>
    refine derives_pure fun left same => ⟨by simpa using blanks, ?_⟩
    rw [← show token = left.headD final from same]
    exact by simpa using ended
  · refine derives_bind_before (derives_decl ends) fun front decls => ?_
    refine derives_pure fun left ⟨own, ending, same, derived, ended⟩ _ => ?_
    exact ⟨blank, own, ending, by simp [same], blanks, derived, by simpa using ended⟩

/-- What follows the package clause, up to the end of the file, which is there for good -/
theorem derives_decls : (many nextDecl).Derives final fun front left found =>
    (left.headD final).kind = .endOfFile ∧ (left = [] → Decls (front ++ [final]) found.flatten) := by
  refine (derives_many (derives_nextDecl ends)).weaken fun front left found repeats => ?_
  induction repeats with
  | stop item => exact ⟨item.2, fun _ => .none item.1 ends.kind⟩
  | more item _ ih =>
    obtain ⟨blank, own, ending, rfl, blanks, derived, ended⟩ := item
    refine ⟨ih.1, ?_⟩
    intro same
    subst same
    have later := Decls.more blanks derived (by simpa using ended) (ih.2 rfl)
    simpa using later

theorem derives_file : file.Derives final fun front left found =>
    (left.headD final).kind = .endOfFile ∧ (left = [] → File (front ++ [final]) found) := by
  refine derives_bind derives_semicolons fun blank _ blanks => ?_
  refine derives_require ends (by decide) fun keyword proper spelled => ?_
  refine derives_identifier ends fun name identifier => ?_
  refine derives_bind_before (derives_declEnd ends) fun ending _ => ?_
  refine derives_bind_before (derives_decls ends) fun rest decls => ?_
  refine derives_pure fun left ⟨ended, derived⟩ closed => ?_
  have package := (proper.is_keyword_iff (by decide)).1 spelled
  refine ⟨ended, ?_⟩
  intro same
  subst same
  have whole := File.intro blanks package identifier (by simpa using closed) (derived rfl)
  simpa using whole

end

end Reader

theorem SourceFile.grammar_of_ofTokens {tokens : Tokens} {file : SourceFile} (proper : tokens.Proper)
    (read : ofTokens tokens = .ok file) : Grammar.File tokens.toList file := by
  unfold ofTokens at read
  split at read
  · next value left outcome =>
    cases read
    have inner : ∀ token ∈ tokens.body, token.Proper := fun token member => (proper.body token member).toProper
    obtain ⟨front, same, ended, derived⟩ := Reader.derives_file proper.final _ _ _ inner outcome
    have used : left = [] := by
      cases left with
      | nil => rfl
      | cons token left => exact absurd ended (proper.body token (by simp [same])).inside
    subst used
    rw [List.append_nil] at same
    rw [Tokens.toList, same]
    exact derived rfl
  · cases read
  · exact absurd ‹_› (Reader.file_ne_exhausted tokens.final_ends _)

end GoDto
