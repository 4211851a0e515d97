import GoDto.Proofs.Acceptance
import GoDto.Proofs.Forms
import Mathlib.Data.List.GetD
import Mathlib.Data.Set.Finite.Lemmas

/-!
Tokens in the place of others. Names and literals may be spelled anew and every token may stand
elsewhere. What is read then is of the same form: a tree with the new spellings and places where the
old ones were, or the same error about the token in the same place of the list.
-/

namespace GoDto

namespace Token

/-- Kinds of tokens that keep their spelling -/
def Kind.kept : List Kind := [.operator, .keyword, .semicolon, .endOfFile]

/-- Kinds of tokens that are spelled in any way but like an operator or a keyword -/
def Kind.plain : List Kind := [.identifier, .number, .rune]

/-- A token that may stand for another one. A string literal may hold anything, and nothing is said
about the places of the two. -/
structure Relabels (token other : Token) : Prop where
  kind : other.kind = token.kind
  kept : token.kind ∈ Kind.kept → other.text = token.text
  plain : token.kind ∈ Kind.plain → other.text ∉ spellings

instance (token other : Token) : Decidable (token.Relabels other) :=
  decidable_of_iff (other.kind = token.kind ∧ (token.kind ∈ Kind.kept → other.text = token.text) ∧
      (token.kind ∈ Kind.plain → other.text ∉ spellings))
    ⟨fun ⟨kind, kept, plain⟩ => ⟨kind, kept, plain⟩, fun ⟨kind, kept, plain⟩ => ⟨kind, kept, plain⟩⟩

variable {token other another : Token}

theorem Proper.relabels (proper : token.Proper) : token.Relabels token where
  kind := rfl
  kept _ := rfl
  plain plain listed := by
    rcases List.mem_append.1 listed with operator | keyword
    · obtain ⟨operator, written⟩ := List.mem_filter.1 operator
      rw [proper.operator operator (by simpa using written)] at plain
      exact absurd plain (by decide)
    · rw [proper.keyword keyword] at plain
      exact absurd plain (by decide)

theorem is_eq_false_of_notMem (apart : token.text ∉ spellings) {text : String}
    (listed : text ∈ spellings) : token.is text = false := by
  rw [Bool.eq_false_iff]
  intro spelled
  exact apart (text_of_is spelled ▸ listed)

/-- The tokens that may stand for one and the same token are alike. -/
theorem Relabels.alike (relabels : token.Relabels other) (relabels' : token.Relabels another) :
    other.Alike another where
  kind := relabels.kind.trans relabels'.kind.symm
  text operator := by
    have kept : token.kind ∈ Kind.kept := by
      rw [← relabels.kind]
      rcases operator with kind | kind <;> simp [kind, Kind.kept]
    rw [relabels.kept kept, relabels'.kept kept]
  spelled text listed := by
    by_cases kept : token.kind ∈ Kind.kept
    · rw [is, is, relabels.kind, relabels'.kind, relabels.kept kept, relabels'.kept kept]
    by_cases plain : token.kind ∈ Kind.plain
    · rw [is_eq_false_of_notMem (relabels.plain plain) listed,
        is_eq_false_of_notMem (relabels'.plain plain) listed]
    · have literal : token.kind = .string ∨ token.kind = .rawString := by
        cases kind : token.kind <;> simp [kind, Kind.kept, Kind.plain] at kept plain ⊢
      rcases literal with kind | kind <;> simp [is, relabels.kind, relabels'.kind, kind]

end Token

namespace Tokens

/-- Token for token, the one list may stand for the other. -/
structure Relabels (tokens others : Tokens) : Prop where
  body : List.Forall₂ Token.Relabels tokens.body others.body
  final : tokens.final.Relabels others.final

/-- The token with that number, and behind the last one the end of the file -/
def tokenAt (tokens : Tokens) (index : Nat) : Token := tokens.body.getD index tokens.final

/-- Two tokens with one number -/
def Paired (tokens others : Tokens) (token other : Token) : Prop :=
  ∃ index ≤ tokens.body.length, token = tokens.tokenAt index ∧ other = others.tokenAt index

variable {tokens others : Tokens}

theorem Proper.relabels (proper : tokens.Proper) : tokens.Relabels tokens where
  body := List.forall₂_same.2 fun token member => (proper.body token member).toProper.relabels
  final := proper.final.proper.relabels

theorem tokenAt_of_lt {index : Nat} (inside : index < tokens.body.length) :
    tokens.tokenAt index = tokens.body[index] := by
  rw [tokenAt, List.getD_eq_getElem _ _ inside]

theorem tokenAt_mem (tokens : Tokens) (index : Nat) : tokens.tokenAt index ∈ tokens.toList := by
  rw [tokenAt, toList, List.mem_append, List.mem_singleton]
  by_cases inside : index < tokens.body.length
  · exact .inl (List.getD_eq_getElem _ _ inside ▸ List.getElem_mem inside)
  · exact .inr (List.getD_eq_default _ _ (Nat.le_of_not_lt inside))

theorem tokenAt_length : tokens.tokenAt tokens.body.length = tokens.final := by
  rw [tokenAt, List.getD_eq_default _ _ (Nat.le_refl _)]

theorem Relabels.tokenAt (relabels : tokens.Relabels others) {index : Nat}
    (bounded : index ≤ tokens.body.length) :
    (tokens.tokenAt index).Relabels (others.tokenAt index) := by
  obtain ⟨lengths, related⟩ := List.forall₂_iff_get.1 relabels.body
  rcases Nat.lt_or_eq_of_le bounded with inside | rfl
  · rw [tokenAt_of_lt inside, tokenAt_of_lt (lengths ▸ inside)]
    exact related index inside (lengths ▸ inside)
  · have final := others.tokenAt_length
    rw [← lengths] at final
    rw [tokenAt_length, final]
    exact relabels.final

theorem paired_body (lengths : tokens.body.length = others.body.length) :
    List.Forall₂ (tokens.Paired others) tokens.body others.body := by
  refine List.forall₂_iff_get.2 ⟨lengths, fun index inside inside' => ?_⟩
  exact ⟨index, inside.le, (tokenAt_of_lt inside).symm, (tokenAt_of_lt inside').symm⟩

theorem paired_final (lengths : tokens.body.length = others.body.length) :
    tokens.Paired others tokens.final others.final :=
  ⟨_, Nat.le_refl _, tokenAt_length.symm, lengths ▸ tokenAt_length.symm⟩

end Tokens

namespace SourceFile

variable {R : Token → Token → Prop} {tokens others : Tokens}

/-- Two lists of corresponding tokens are read as corresponding files, or end in corresponding errors. -/
theorem ofTokens_corresponds (alike : ∀ token other, R token other → token.Alike other)
    (final : R tokens.final others.final) (body : List.Forall₂ R tokens.body others.body) :
    (∃ file other, ofTokens tokens = .ok file ∧ ofTokens others = .ok other ∧
      file.Corresponds R other) ∨
    ∃ error other, ofTokens tokens = .error error ∧ ofTokens others = .error other ∧
      error.Corresponds R other := by
  have ends := Reader.corresponds_file alike _ _ _ _ final body
  have settled := Reader.file_ne_exhausted tokens.final_ends tokens.body
  generalize read : Reader.file tokens.final tokens.body = outcome at ends settled
  generalize otherRead : Reader.file others.final others.body = outcome' at ends
  cases ends with
  | done files _ => exact .inl ⟨_, _, ofTokens_of_done read, ofTokens_of_done otherRead, files⟩
  | failed errors => exact .inr ⟨_, _, ofTokens_of_failed read, ofTokens_of_failed otherRead, errors⟩
  | exhausted => exact absurd rfl settled

end SourceFile

namespace SyntaxError

/-- The same error about another token -/
def about : SyntaxError → Token → SyntaxError
  | expected what _, token => expected what token
  | unexpected _, token => unexpected token
  | unclosed _, token => unclosed token

/-- The message up to where it names the token -/
def lead : SyntaxError → String
  | expected what _ => "Expected " ++ what.display ++ " but found "
  | unexpected _ => "Unexpected token "
  | unclosed _ => "Unclosed "

/-- How the error names a token -/
def named : SyntaxError → Token → String
  | expected _ _, token => token.display
  | unexpected _, token => token.display
  | unclosed _, token => Text.quoted token.text

/-- Where the error is and what it says, but for the name of the token, is told without the token. -/
theorem diagnostic_about (error : SyntaxError) (token : Token) :
    (error.about token).diagnostic = ⟨token.position, error.lead ++ error.named token⟩ := by
  cases error <;> rfl

theorem Corresponds.about {R : Token → Token → Prop} {error other : SyntaxError}
    (corresponds : error.Corresponds R other) :
    ∃ token, R error.token token ∧ other = error.about token := by
  cases corresponds with
  | expected what related => exact ⟨_, related, rfl⟩
  | unexpected related => exact ⟨_, related, rfl⟩
  | unclosed related => exact ⟨_, related, rfl⟩

end SyntaxError

/-!
A list whose spellings and places tell the numbers of its tokens. What it is read as shows where each
name and each place in a tree comes from.
-/

/-- Texts that all differ, and neither are in the list nor spelled like an operator or a keyword -/
structure Tokens.Fresh (tokens : Tokens) (fresh : Nat → String) : Prop where
  injective : Function.Injective fresh
  unused : ∀ index, ∀ token ∈ tokens.toList, fresh index ≠ token.text
  free : ∀ index, fresh index ∉ Token.spellings

theorem Tokens.exists_fresh (tokens : Tokens) : ∃ fresh, tokens.Fresh fresh := by
  have endless : Infinite String := by
    apply Infinite.of_injective fun count : Nat => String.ofList (List.replicate count 'x')
    intro count other same
    simpa using congrArg String.length same
  let used := tokens.toList.map Token.text ++ Token.spellings
  have others := used.toFinset.finite_toSet.infinite_compl.natEmbedding
  have apart (index : Nat) : (others index).1 ∉ used := by
    simpa using (others index).2
  refine ⟨fun index => (others index).1, ⟨fun index index' same => ?_, ?_, ?_⟩⟩
  · exact others.injective (Subtype.ext same)
  · intro index token member same
    apply apart index
    rw [same]
    exact List.mem_append_left _ (List.mem_map_of_mem member)
  · exact fun index listed => apart index (List.mem_append_right _ listed)

section
variable (fresh : Nat → String)

/-- The token with a place and, if it does not keep its spelling, a text made from its number -/
def Token.numbered (index : Nat) (token : Token) : Token :=
  ⟨token.kind, if token.kind ∈ Kind.kept then token.text else fresh index, ⟨index, index⟩⟩

def Tokens.numbered (tokens : Tokens) : Tokens :=
  ⟨tokens.body.mapIdx (Token.numbered fresh), tokens.final.numbered fresh tokens.body.length,
    tokens.final_ends⟩

end

section
variable {fresh : Nat → String} {index other : Nat}

theorem Token.text_numbered_of_kept {token : Token} (kept : token.kind ∈ Kind.kept) :
    (token.numbered fresh index).text = token.text :=
  if_pos kept

theorem Token.text_numbered_of_free {token : Token} (free : token.kind ∉ Kind.kept) :
    (token.numbered fresh index).text = fresh index :=
  if_neg free

namespace Tokens

variable {tokens others : Tokens}

theorem length_numbered : (tokens.numbered fresh).body.length = tokens.body.length :=
  List.length_mapIdx

theorem tokenAt_numbered (bounded : index ≤ tokens.body.length) :
    (tokens.numbered fresh).tokenAt index = (tokens.tokenAt index).numbered fresh index := by
  rcases Nat.lt_or_eq_of_le bounded with inside | rfl
  · have inside' : index < (tokens.numbered fresh).body.length := length_numbered.symm ▸ inside
    rw [tokenAt_of_lt inside, tokenAt_of_lt inside']
    exact List.getElem_mapIdx ..
  · have final := (tokens.numbered fresh).tokenAt_length
    rw [length_numbered] at final
    rw [final, tokenAt_length]
    rfl

section
variable (unlike : tokens.Fresh fresh)
include unlike

theorem Fresh.relabels (token : Token) : token.Relabels (token.numbered fresh index) where
  kind := rfl
  kept := Token.text_numbered_of_kept
  plain plain := by
    have free : token.kind ∉ Token.Kind.kept := by
      intro kept
      cases kind : token.kind <;> simp [kind, Token.Kind.kept, Token.Kind.plain] at kept plain
    rw [Token.text_numbered_of_free free]
    exact unlike.free index

theorem Fresh.text_ne (kept : (tokens.tokenAt index).kind ∈ Token.Kind.kept)
    (free : (tokens.tokenAt other).kind ∉ Token.Kind.kept) :
    ((tokens.tokenAt index).numbered fresh index).text ≠
      ((tokens.tokenAt other).numbered fresh other).text := by
  rw [Token.text_numbered_of_kept kept, Token.text_numbered_of_free free]
  exact (unlike.unused other _ (tokens.tokenAt_mem index)).symm

/-- A text in the numbered list tells what text is in its place in any list that may stand for it. -/
theorem Fresh.text_eq (relabels : tokens.Relabels others) (bounded : index ≤ tokens.body.length)
    (bounded' : other ≤ tokens.body.length)
    (same : ((tokens.tokenAt index).numbered fresh index).text =
      ((tokens.tokenAt other).numbered fresh other).text) :
    (others.tokenAt index).text = (others.tokenAt other).text := by
  by_cases kept : (tokens.tokenAt index).kind ∈ Token.Kind.kept <;>
    by_cases kept' : (tokens.tokenAt other).kind ∈ Token.Kind.kept
  · rw [(relabels.tokenAt bounded).kept kept, (relabels.tokenAt bounded').kept kept']
    rwa [Token.text_numbered_of_kept kept, Token.text_numbered_of_kept kept'] at same
  · exact absurd same (unlike.text_ne kept kept')
  · exact absurd same.symm (unlike.text_ne kept' kept)
  · rw [Token.text_numbered_of_free kept, Token.text_numbered_of_free kept'] at same
    rw [unlike.injective same]

/-- The texts and places in the numbered list tell the tokens in any list that may stand for it. -/
theorem Fresh.traces : ∃ spelled : String → Nat, ∀ others, tokens.Relabels others →
    Traces ((tokens.numbered fresh).Paired others) others.tokenAt spelled Position.line := by
  have choice (text : String) : ∃ index, ∀ other ≤ tokens.body.length,
      ((tokens.tokenAt other).numbered fresh other).text = text → index ≤ tokens.body.length ∧
        ((tokens.tokenAt index).numbered fresh index).text = text := by
    by_cases found : ∃ index ≤ tokens.body.length,
        ((tokens.tokenAt index).numbered fresh index).text = text
    · obtain ⟨index, bounded, same⟩ := found
      exact ⟨index, fun _ _ _ => ⟨bounded, same⟩⟩
    · exact ⟨0, fun other bounded same => absurd ⟨other, bounded, same⟩ found⟩
  choose spelled told using choice
  refine ⟨spelled, fun others relabels => ⟨?_, ?_⟩⟩
  · rintro _ _ ⟨_, _, ⟨index, bounded, rfl, rfl⟩, rfl, rfl⟩
    rw [length_numbered] at bounded
    obtain ⟨bounded', same⟩ := told _ index bounded rfl
    rw [tokenAt_numbered bounded]
    exact unlike.text_eq relabels bounded bounded' same.symm
  · rintro _ _ ⟨_, _, ⟨index, bounded, rfl, rfl⟩, rfl, rfl⟩
    rw [length_numbered] at bounded
    rw [tokenAt_numbered bounded]
    rfl

/-- The numbered list and any list that may stand for the tokens are read alike. -/
theorem Fresh.ofTokens_corresponds (relabels : tokens.Relabels others) :
    (∃ file other, SourceFile.ofTokens (tokens.numbered fresh) = .ok file ∧
      SourceFile.ofTokens others = .ok other ∧
      file.Corresponds ((tokens.numbered fresh).Paired others) other) ∨
    ∃ error other, SourceFile.ofTokens (tokens.numbered fresh) = .error error ∧
      SourceFile.ofTokens others = .error other ∧
      error.Corresponds ((tokens.numbered fresh).Paired others) other := by
  have lengths : (tokens.numbered fresh).body.length = others.body.length :=
    length_numbered.trans relabels.body.length_eq
  refine SourceFile.ofTokens_corresponds ?_ (paired_final lengths) (paired_body lengths)
  rintro _ _ ⟨index, bounded, rfl, rfl⟩
  rw [length_numbered] at bounded
  rw [tokenAt_numbered bounded]
  exact (unlike.relabels _).alike (relabels.tokenAt bounded)

end

end Tokens

end

namespace SourceFile

variable {tokens : Tokens}

/-- All the lists that may stand for a list of proper tokens, itself among them, are read in one way:
as trees of one form, with the texts and the places of the same tokens each, or to one error about the
token with the same number. Only the place and the name of that token differ then in what is reported. -/
theorem ofTokens_relabelled (proper : tokens.Proper) :
    (∃ form : FileForm, ofTokens tokens = .ok (form.fill tokens.tokenAt) ∧
      ∀ others, tokens.Relabels others → ofTokens others = .ok (form.fill others.tokenAt)) ∨
    ∃ error : SyntaxError, ∃ index ≤ tokens.body.length,
      (∀ token, (error.about token).diagnostic =
        ⟨token.position, error.lead ++ error.named token⟩) ∧
      ofTokens tokens = .error (error.about (tokens.tokenAt index)) ∧
      ∀ others, tokens.Relabels others →
        ofTokens others = .error (error.about (others.tokenAt index)) := by
  -- The numbered list is one of those lists, and what it is read as shows the form.
  obtain ⟨fresh, unlike⟩ := tokens.exists_fresh
  obtain ⟨spelled, traces⟩ := unlike.traces
  cases read : ofTokens (tokens.numbered fresh) with
  | ok file =>
    have alike (others : Tokens) (relabels : tokens.Relabels others) :
        ofTokens others = .ok ((file.form spelled Position.line).fill others.tokenAt) := by
      rcases unlike.ofTokens_corresponds relabels with ⟨_, other, same, found, files⟩ | ⟨_, _, same, -⟩
      · rw [read] at same
        cases same
        rw [found, files.eq_fill (traces others relabels)]
      · simp [read] at same
    exact .inl ⟨_, alike tokens proper.relabels, alike⟩
  | error error =>
    have alike (others : Tokens) (relabels : tokens.Relabels others) :
        error.token.position.line ≤ tokens.body.length ∧
          ofTokens others = .error (error.about (others.tokenAt error.token.position.line)) := by
      rcases unlike.ofTokens_corresponds relabels with ⟨_, _, same, -⟩ | ⟨_, other, same, found, errors⟩
      · simp [read] at same
      · rw [read] at same
        cases same
        obtain ⟨_, ⟨index, bounded, named, rfl⟩, rfl⟩ := errors.about
        rw [Tokens.length_numbered] at bounded
        rw [named, Tokens.tokenAt_numbered bounded]
        exact ⟨bounded, found⟩
    have own := alike tokens proper.relabels
    exact .inr ⟨error, _, own.1, error.diagnostic_about, own.2,
      fun others relabels => (alike others relabels).2⟩

/-- A struct with a field of its own type, renamed and put elsewhere -/
theorem ofTokens_relabelled_struct : ∃ (tokens others : Tokens) (form : FileForm),
    tokens.Proper ∧ tokens.Relabels others ∧
      ofTokens tokens = .ok (form.fill tokens.tokenAt) ∧
      ofTokens others = .ok (form.fill others.tokenAt) ∧
      form.fill tokens.tokenAt =
        ⟨"p", [⟨"A", .start, false, .struct [⟨["B"], .start, .name "A", some "``"⟩]⟩]⟩ ∧
      form.fill others.tokenAt =
        ⟨"q", [⟨"T", ⟨7, 3⟩, false, .struct [⟨["U"], ⟨7, 3⟩, .name "T", some "struct"⟩]⟩]⟩ := by
  let list (package type field tag : String) (place : Position) : Tokens :=
    ⟨[⟨.keyword, "package", place⟩, ⟨.identifier, package, place⟩, .lineEnd place,
      ⟨.keyword, "type", place⟩, ⟨.identifier, type, place⟩, ⟨.keyword, "struct", place⟩,
      ⟨.operator, Token.leftBrace, place⟩, ⟨.identifier, field, place⟩, ⟨.identifier, type, place⟩,
      ⟨.rawString, tag, place⟩, ⟨.operator, Token.rightBrace, place⟩, .lineEnd place],
      .fileEnd place, rfl⟩
  let tokens := list "p" "A" "B" "``" .start
  let others := list "q" "T" "U" "struct" ⟨7, 3⟩
  have proper : tokens.Proper := by decide
  have relabels : tokens.Relabels others := ⟨by decide, by decide⟩
  have read : ofTokens tokens =
      .ok ⟨"p", [⟨"A", .start, false, .struct [⟨["B"], .start, .name "A", some "``"⟩]⟩]⟩ := rfl
  have otherRead : ofTokens others =
      .ok ⟨"q", [⟨"T", ⟨7, 3⟩, false, .struct [⟨["U"], ⟨7, 3⟩, .name "T", some "struct"⟩]⟩]⟩ := rfl
  rcases ofTokens_relabelled proper with ⟨form, same, alike⟩ | ⟨_, _, _, _, failed, -⟩
  · have filled := same.symm.trans read
    have otherFilled := (alike others relabels).symm.trans otherRead
    exact ⟨tokens, others, form, proper, relabels, same, alike others relabels,
      Except.ok.inj filled, Except.ok.inj otherFilled⟩
  · rw [read] at failed
    cases failed

end SourceFile

end GoDto
