import GoDto.Proofs.CursorGroups
import GoDto.Proofs.Depth
import GoDto.Proofs.TypeInstances

/-!
Looking behind a group, passing over it, and reading it as type arguments. All of these find one end, where
the depth of the brackets first comes back to zero. So a field that is taken as embedded for what stands
behind its type arguments does end behind them.
-/

namespace GoDto

/-- Where a bracket opens, there is more left than the end mark. -/
theorem Tokens.drop_of_opens {tokens : Tokens} {place : Nat} {opener : Token}
    (stands : tokens.toList[place]? = some opener) (opens : opener.opens) :
    ∃ rest, tokens.body.drop place = opener :: rest := by
  have inside := (List.getElem?_eq_some_iff.1 stands).1
  rw [length_toList] at inside
  rw [getElem?_toList (Nat.le_of_lt_succ inside)] at stands
  cases left : tokens.body.drop place with
  | nil =>
    rw [left] at stands
    cases stands
    exact absurd opens (Reader.not_opens_of_ends tokens.final_ends)
  | cons first rest =>
    rw [left] at stands
    cases stands
    exact ⟨rest, rfl⟩

theorem Tokens.Proper.inner_drop {tokens : Tokens} (proper : tokens.Proper) (place : Nat) :
    ∀ token ∈ tokens.body.drop place, token.Inner :=
  fun token member => proper.body token (List.mem_of_mem_drop member)

/-- What the reader comes to from the token of that number on -/
def Reader.runAt {α : Type} (reader : Reader α) (tokens : Tokens) (place : Nat) : Outcome α :=
  reader tokens.final (tokens.body.drop place)

/-- The group that opens at a place ends before another place. Passing over it stops there, and looking
behind it, from any token before, finds the token that stands there. Reader and cursor agree on that. -/
structure GroupEnds (tokens : Tokens) (place behind : Nat) (next : Token) : Prop where
  stands : tokens.toList[behind]? = some next
  read : Reader.group.runAt tokens place = .done () (tokens.body.drop behind)
  seen : ∀ start ahead, start + ahead = place →
    (Reader.lookBehindGroup ahead).runAt tokens start = .done next (tokens.body.drop start)
  passed : ∀ steps, tokens.toList.length < steps →
    ∃ remaining, Cursor.group tokens.toList place steps = .done () behind remaining
  found : ∀ start ahead steps, start + ahead = place → tokens.toList.length < steps →
    ∃ remaining, Cursor.lookBehindGroup ahead tokens.toList start steps = .done next start remaining

/-- The group that opens at a place has no end. Passing over it fails at the bracket that opens it, and
looking behind it, from any token before, finds the first end mark. Reader and cursor agree on that. -/
structure GroupUnclosed (tokens : Tokens) (place : Nat) (opener mark : Token) : Prop where
  stands : (tokens.toList.drop place).find? (·.kind == .endOfFile) = some mark
  read : Reader.group.runAt tokens place = .failed (.unclosed opener)
  seen : ∀ start ahead, start + ahead = place →
    (Reader.lookBehindGroup ahead).runAt tokens start = .done mark (tokens.body.drop start)
  passed : ∀ steps, tokens.toList.length < steps →
    Cursor.group tokens.toList place steps = .failed (.unclosed opener)
  found : ∀ start ahead steps, start + ahead = place → tokens.toList.length < steps →
    ∃ remaining, Cursor.lookBehindGroup ahead tokens.toList start steps = .done mark start remaining

section
variable {tokens : Tokens} {start ahead place : Nat} {opener : Token} {front rest behind : List Token}

theorem Reader.lookBehindGroup_runAt (there : start + ahead = place) :
    (lookBehindGroup ahead).runAt tokens start =
      .done (tokenBehindGroup tokens.final 0 (tokens.body.drop place)) (tokens.body.drop start) := by
  unfold runAt lookBehindGroup
  rw [List.drop_drop, there]

theorem Reader.group_runAt (opens : opener.opens) (left : tokens.body.drop place = opener :: rest) :
    group.runAt tokens place = closeFrom opener 0 tokens.final rest := by
  unfold runAt
  rw [left]
  change (if opener.opens then step >>= fun _ => closeGroup opener else unexpected : Reader Unit)
    tokens.final (opener :: rest) = _
  rw [if_pos opens]
  rfl

theorem Reader.group_runAt_of_group (enclosed : Group opener front)
    (inside : ∀ token ∈ front, token.kind ≠ .endOfFile)
    (left : tokens.body.drop place = front ++ behind) :
    group.runAt tokens place = .done () behind := by
  obtain ⟨rest, rfl⟩ := enclosed.first
  have found : afterGroup 0 (rest ++ behind) = some behind :=
    afterGroup_of_group enclosed fun token member => inside token (List.mem_cons_of_mem _ member)
  rw [List.cons_append] at left
  rw [group_runAt enclosed.opens left, closeFrom, found]

theorem groupEnds_of_group (enclosed : Group opener front)
    (inside : ∀ token ∈ front, token.kind ≠ .endOfFile)
    (left : tokens.body.drop place = front ++ behind) :
    tokens.body.drop (place + front.length) = behind ∧
      GroupEnds tokens place (place + front.length) (behind.headD tokens.final) := by
  have further : tokens.body.drop (place + front.length) = behind := by
    rw [← List.drop_drop, left, List.drop_left]
  have short : place + front.length ≤ tokens.body.length := by
    obtain ⟨more, same⟩ := enclosed.first
    have before : place < tokens.body.length := Tokens.lt_of_drop (by rw [left, same]; rfl)
    have size := congrArg List.length left
    rw [List.length_drop, List.length_append] at size
    omega
  have looked : tokenBehindGroup tokens.final 0 (tokens.body.drop place) = behind.headD tokens.final := by
    rw [left, tokenBehindGroup_of_group enclosed inside]
  constructor
  · exact further
  constructor
  · rw [Tokens.getElem?_toList short, further]
  · rw [further, Reader.group_runAt_of_group enclosed inside left]
  · intro start ahead there
    rw [Reader.lookBehindGroup_runAt there, looked]
  · intro steps enough
    rw [tokens.length_toList] at enough
    exact ⟨_, Cursor.group_of_group enclosed inside left (by omega)⟩
  · intro start ahead steps there enough
    rw [← looked]
    exact Cursor.lookBehindGroup_eq there enough

theorem groupUnclosed_of_afterGroup (opens : opener.opens) (left : tokens.body.drop place = opener :: rest)
    (endless : afterGroup 0 rest = none) :
    GroupUnclosed tokens place opener ((rest.find? (·.kind == .endOfFile)).getD tokens.final) := by
  have kind := Cursor.not_endOfFile_of_opens opens
  have failed : Reader.group.runAt tokens place = .failed (.unclosed opener) := by
    rw [Reader.group_runAt opens left, Reader.closeFrom, endless]
  have looked : tokenBehindGroup tokens.final 0 (tokens.body.drop place) =
      (rest.find? (·.kind == .endOfFile)).getD tokens.final := by
    rw [left, tokenBehindGroup, if_neg kind, if_pos opens, tokenBehindGroup_eq, endless]
  constructor
  · rw [Tokens.drop_toList (Nat.le_of_lt (Tokens.lt_of_drop left)), left, List.cons_append,
      List.find?_cons_of_neg (by simpa using kind), List.find?_append]
    cases rest.find? (·.kind == .endOfFile) with
    | none => simp [tokens.final_ends]
    | some mark => rfl
  · exact failed
  · intro start ahead there
    rw [Reader.lookBehindGroup_runAt there, looked]
  · intro steps enough
    exact Cursor.group_of_failed failed enough
  · intro start ahead steps there enough
    rw [← looked]
    exact Cursor.lookBehindGroup_eq there enough

/-- Seen from a place in the list, the depth returns to zero where a group ends. -/
theorem returns_drop_iff {count : Nat} (opens : opener.opens) (left : tokens.body.drop place = opener :: rest) :
    Returns (tokens.toList.drop place) count ↔
      ∃ front behind, tokens.body.drop place = front ++ behind ∧ front.length = count ∧
        Group opener front ∧ ∀ token ∈ front, token.kind ≠ .endOfFile := by
  rw [Tokens.drop_toList (Nat.le_of_lt (Tokens.lt_of_drop left)), left,
    returns_append_ending tokens.final_ends opens, returns_iff_group opens]

theorem afterGroup_eq_none (opens : opener.opens) (left : tokens.body.drop place = opener :: rest)
    (never : ∀ count, ¬Returns (tokens.toList.drop place) count) : afterGroup 0 rest = none := by
  cases found : afterGroup 0 rest with
  | none => rfl
  | some behind =>
    obtain ⟨front, rfl, enclosed, inside⟩ := group_of_afterGroup opens found
    have kinds : ∀ token ∈ opener :: front, token.kind ≠ .endOfFile :=
      List.forall_mem_cons.2 ⟨Cursor.not_endOfFile_of_opens opens, inside⟩
    have returns := (returns_drop_iff opens left).2 ⟨_, behind, left, rfl, enclosed, kinds⟩
    exact absurd returns (never _)

end

namespace Reader

open Grammar Tokens

section
variable {tokens : Tokens} {place : Nat} (proper : tokens.Proper)
include proper

/-- Type arguments are a group, and they are read to its end. -/
theorem groupEnds_of_typeArguments {type : Reader GoType} {count : Nat} {left : List Token}
    (derives : type.Derives tokens.final fun front _ made => TypeOf front made)
    (read : (typeArguments type).runAt tokens place = .done count left) :
    ∃ behind, left = tokens.body.drop behind ∧ GroupEnds tokens place behind (left.headD tokens.final) := by
  have inner := proper.inner_drop place
  have derived := derives_typeArguments proper.final derives _ _ _
    (fun token member => (inner token member).toProper) read
  obtain ⟨front, whole, opener, inside, closer, rfl, opening, arguments, closing⟩ := derived
  have enclosed : Group opener (opener :: (inside ++ [closer])) :=
    .intro (opening.opens (by decide)) (arguments.balanced fun _ _ => TypeOf.balanced)
      (closing.closes (by decide))
  have kinds : ∀ token ∈ opener :: (inside ++ [closer]), token.kind ≠ .endOfFile :=
    fun token member => (inner token (whole ▸ List.mem_append_left _ member)).inside
  obtain ⟨further, ends⟩ := groupEnds_of_group enclosed kinds whole
  exact ⟨_, further.symm, ends⟩

theorem balanced_of_type {made : GoType} {left : List Token} (read : type.runAt tokens place = .done made left) :
    ∃ front, tokens.body.drop place = front ++ left ∧ Balanced front := by
  have inner : ∀ token ∈ tokens.body.drop place, token.Proper :=
    fun token member => (proper.inner_drop place token member).toProper
  obtain ⟨front, whole, derived⟩ := derives_type proper.final _ _ _ inner read
  exact ⟨front, whole, derived.balanced⟩

/-- Where a name and a bracket start a type, the field is taken as embedded exactly if what stands behind
that type ends a field. -/
theorem startsEmbedded_of_type {first opener : Token} {rest left : List Token} {made : GoType}
    (whole : tokens.body.drop place = first :: opener :: rest) (identifier : first.kind = .identifier)
    (opens : opener.IsOperator "[") (read : type.runAt tokens place = .done made left) :
    startsEmbedded.runAt tokens place =
      .done (left.headD tokens.final).endsField (tokens.body.drop place) := by
  have next : tokens.body.drop (place + 1) = opener :: rest := by
    rw [← List.drop_drop, whole]
    rfl
  have readable : ∀ token ∈ [first] ++ opener :: rest, token.Readable := by
    intro token member
    exact (proper.inner_drop place token (by simpa [whole] using member)).readable
  have spelled := @type_of_name tokens.final opener [first] rest _ (.plain identifier) opens readable
  rw [runAt, whole] at read
  obtain ⟨count, between, counted, same⟩ := bind_eq_done.1 (spelled.symm.trans read)
  cases same
  have arguments : (typeArguments (typeWithin ([first] ++ opener :: rest))).runAt tokens (place + 1) =
      .done count left := by
    rw [runAt, next, counted]
  obtain ⟨behind, -, ends⟩ :=
    groupEnds_of_typeArguments proper (derives_typeWithin proper.final _) arguments
  have undotted : opener.is "." = false := opens.is_eq_false (by decide)
  have starts : TypeHead.Starts .bracket opener := opens
  have inside : opener.endsField = false := starts.endsField_eq_false (readable opener (by simp)).toClear
  calc startsEmbedded.runAt tokens place
      = (lookBehindGroup 1 >>= fun behind => pure behind.endsField).runAt tokens place := by
        unfold runAt startsEmbedded
        rw [whole, bind_apply]
        simp only [lookahead, List.drop_succ_cons, List.drop_zero, List.headD_cons, undotted, inside,
          Bool.or_self, Bool.false_eq_true, if_false, opens.is, if_true]
    _ = .done (left.headD tokens.final).endsField (tokens.body.drop place) := by
        have looked := ends.seen place 1 rfl
        rw [runAt] at looked ⊢
        rw [bind_of_done looked]
        rfl

end

end Reader

namespace Tokens

open Reader

/-- From an opening bracket on, the depth returns to zero, and there the group ends, or it does not before
the first end mark, and the group has no end. Type arguments are read up to the end of their group, however
deep types may be nested in them, and a type takes as many closing brackets as opening ones. -/
theorem groups_agree (tokens : Tokens) :
    (∀ place opener, tokens.toList[place]? = some opener → opener.opens →
      ((∃ left, group.runAt tokens place = .done () left) ↔
        ∃ count, Returns (tokens.toList.drop place) count) ∧
      (∀ count, Returns (tokens.toList.drop place) count →
        ∃ next, GroupEnds tokens place (place + count) next) ∧
      ((∀ count, ¬Returns (tokens.toList.drop place) count) →
        ∃ mark, GroupUnclosed tokens place opener mark)) ∧
    (tokens.Proper → ∀ place,
      (∀ inner count left, (inner = type ∨ ∃ limit, inner = typeWithin limit) →
        (typeArguments inner).runAt tokens place = .done count left →
        ∃ behind next, left = tokens.body.drop behind ∧ GroupEnds tokens place behind next) ∧
      ∀ made left, type.runAt tokens place = .done made left →
        ∃ front, tokens.body.drop place = front ++ left ∧ Balanced front) := by
  constructor
  · intro place opener stands opens
    obtain ⟨rest, left⟩ := drop_of_opens stands opens
    have ends (count : Nat) (returns : Returns (tokens.toList.drop place) count) :
        ∃ next, GroupEnds tokens place (place + count) next := by
      obtain ⟨front, behind, whole, rfl, enclosed, inside⟩ := (returns_drop_iff opens left).1 returns
      exact ⟨_, (groupEnds_of_group enclosed inside whole).2⟩
    have unclosed (never : ∀ count, ¬Returns (tokens.toList.drop place) count) :
        ∃ mark, GroupUnclosed tokens place opener mark :=
      ⟨_, groupUnclosed_of_afterGroup opens left (afterGroup_eq_none opens left never)⟩
    refine ⟨?_, ends, unclosed⟩
    constructor
    · intro ⟨left, read⟩
      by_cases returns : ∃ count, Returns (tokens.toList.drop place) count
      · exact returns
      · obtain ⟨mark, endless⟩ := unclosed fun count returned => returns ⟨count, returned⟩
        rw [endless.read] at read
        cases read
    · intro ⟨count, returns⟩
      obtain ⟨next, ended⟩ := ends count returns
      exact ⟨_, ended.read⟩
  · intro proper place
    constructor
    · intro inner count left kind read
      have derives : inner.Derives tokens.final fun front _ made => Grammar.TypeOf front made := by
        rcases kind with rfl | ⟨limit, rfl⟩
        · exact derives_type proper.final
        · exact derives_typeWithin proper.final limit
      obtain ⟨behind, same, ends⟩ := groupEnds_of_typeArguments proper derives read
      exact ⟨behind, _, same, ends⟩
    · intro made left read
      exact balanced_of_type proper read

/-- `Pair[[(]]int, string]`, where a parenthesis is closed by a bracket, and a parenthesis that is closed
only behind an end mark -/
theorem groups_agree_mixed : ∃ (tokens others : Tokens) (opener next mark : Token),
    tokens.Proper ∧
      tokens.toList.map Token.text =
        ["Pair", "[", "[", "(", "]", "]", "int", ",", "string", "]", "\n", ""] ∧
      GroupEnds tokens 1 10 next ∧ next.text = "\n" ∧
      (typeArguments type).runAt tokens 1 = .done 2 [next] ∧
      (∃ behind other, [next] = tokens.body.drop behind ∧ GroupEnds tokens 1 behind other) ∧
      (∃ front, tokens.body = front ++ [next] ∧ Balanced front) ∧
      others.toList.map Token.text = ["(", "", ")", ""] ∧
      GroupUnclosed others 0 opener mark ∧ others.toList[1]? = some mark ∧ mark ≠ others.final := by
  let word (text : String) : Token := ⟨.identifier, text, .start⟩
  let mark (text : String) : Token := ⟨.operator, text, .start⟩
  let line : Token := .lineEnd .start
  let tokens : Tokens := ⟨[word "Pair", mark "[", mark "[", mark "(", mark "]", mark "]", word "int", mark ",",
    word "string", mark "]", line], .fileEnd .start, rfl⟩
  let others : Tokens := ⟨[mark "(", .fileEnd .start, mark ")"], .fileEnd ⟨1, 3⟩, rfl⟩
  have proper : tokens.Proper := by decide
  have returns : Returns (tokens.toList.drop 1) 9 := by decide
  have never : ∀ count, ¬Returns (others.toList.drop 0) count := by
    intro count returns
    match count with
    | 0 => exact absurd returns.positive (by decide)
    | 1 => exact absurd returns.closed (by decide)
    | count + 2 => exact returns.inside (.fileEnd .start) (by simp [others, Tokens.toList]) rfl
  obtain ⟨next, ends⟩ := ((groups_agree tokens).1 1 (mark "[") rfl rfl).2.1 9 returns
  obtain ⟨first, unclosed⟩ := ((groups_agree others).1 0 (mark "(") rfl rfl).2.2 never
  obtain rfl : line = next := Option.some_inj.1 ends.stands
  obtain rfl : .fileEnd .start = first := Option.some_inj.1 unclosed.stands
  have read : (typeArguments type).runAt tokens 1 = .done 2 [line] := rfl
  have arguments := ((groups_agree tokens).2 proper 1).1 type 2 [line] (.inl rfl) read
  have balanced := ((groups_agree tokens).2 proper 0).2 (.outline .instanceOfMany) [line] rfl
  exact ⟨tokens, others, _, line, _, proper, rfl, ends, rfl, read, arguments, balanced, rfl, unclosed, rfl,
    by decide⟩

end Tokens

end GoDto
