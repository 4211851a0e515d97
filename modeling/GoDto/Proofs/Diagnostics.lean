import GoDto.Proofs.Continuation
import GoDto.Proofs.Lossless
import GoDto.Proofs.Relabelling

/-!
What is reported of a fault. A report is one line without control characters, whatever the source holds,
and its place is that of a token, and so one in the text.
-/

namespace GoDto

namespace Text

/-- Whether a text holds no control characters, and so no line break -/
def Printable (text : String) : Prop := ∀ c ∈ text.toList, 32 ≤ c.toNat

instance (text : String) : Decidable (Printable text) :=
  List.decidableBAll (fun c : Char => 32 ≤ c.toNat) text.toList

theorem Printable.append {first second : String} (front : Printable first) (back : Printable second) :
    Printable (first ++ second) := by
  intro c member
  rw [String.toList_append, List.mem_append] at member
  exact member.elim (front c) (back c)

theorem printable_hexDigit : ∀ value < 16, 32 ≤ (hexDigit value).toNat := by
  decide

/-- Control characters are written by others. -/
theorem printable_escape (c : Char) : ∀ written ∈ escape c, 32 ≤ written.toNat := by
  unfold escape
  split
  case h_8 =>
    split
    · next control =>
      have high := printable_hexDigit (c.toNat / 16) (by omega)
      have low := printable_hexDigit (c.toNat % 16) (by omega)
      simp [high, low]
    · next visible => simpa using visible
  all_goals simp

theorem printable_quoted (text : String) : Printable (quoted text) := by
  intro c member
  rw [quoted, String.toList_ofList, quotedChars] at member
  simp only [List.mem_append, List.mem_cons, List.mem_flatMap, List.not_mem_nil, or_false] at member
  rcases member with (rfl | ⟨source, -, written⟩) | rfl
  · decide
  · exact printable_escape source c written
  · decide

theorem printable_toString (number : Nat) : Printable (toString number) := by
  intro c member
  change c ∈ (Nat.repr number).toList at member
  rw [Nat.toList_repr] at member
  have digit := Nat.isDigit_of_mem_toDigits (by decide) (by decide) member
  simp only [Char.isDigit, Bool.and_eq_true, decide_eq_true_eq] at digit
  have lower : 48 ≤ c.toNat := digit.1
  omega

end Text

open Text (Printable)

theorem Token.printable_display (token : Token) : Printable token.display := by
  unfold display
  split
  · decide
  · split
    · decide
    · exact Text.printable_quoted _
  · exact Text.printable_quoted _

theorem Expectation.printable_display (what : Expectation) : Printable what.display := by
  cases what with
  | text spelling => exact Text.printable_quoted spelling
  | either first second =>
    have between : Printable " or " := by decide
    exact ((Text.printable_quoted first).append between).append (Text.printable_quoted second)
  | identifier => decide
  | type => decide
  | fieldName => decide

theorem SyntaxError.printable_message (error : SyntaxError) : Printable error.message := by
  cases error with
  | expected what found =>
    have before : Printable "Expected " := by decide
    have between : Printable " but found " := by decide
    exact ((before.append what.printable_display).append between).append found.printable_display
  | unexpected found =>
    have before : Printable "Unexpected token " := by decide +kernel
    exact before.append found.printable_display
  | unclosed opener =>
    have before : Printable "Unclosed " := by decide
    exact before.append (Text.printable_quoted opener.text)

theorem LexicalFault.printable_message (fault : LexicalFault) : Printable fault.message := by
  cases fault with
  | unreadable text =>
    have before : Printable "Syntax error: " := by decide
    exact before.append (Text.printable_quoted text)
  | _ => decide +kernel

/-- Whether a report is one line, and its message too -/
structure Diagnostic.OnOneLine (diagnostic : Diagnostic) : Prop where
  message : Printable diagnostic.message
  text : Printable diagnostic.text

theorem Diagnostic.onOneLine {diagnostic : Diagnostic} (message : Printable diagnostic.message) :
    diagnostic.OnOneLine := by
  refine ⟨message, ?_⟩
  have before : Printable "Parse error at line " := by decide +kernel
  have between : Printable ", column " := by decide
  have colon : Printable ": " := by decide
  have place := ((before.append (Text.printable_toString diagnostic.position.line)).append between).append
    (Text.printable_toString diagnostic.position.column)
  exact (place.append colon).append message

/-- The token that an error is about is one of those read. -/
theorem SourceFile.token_mem_of_ofTokens {tokens : Tokens} {error : SyntaxError}
    (failed : ofTokens tokens = .error error) : error.token ∈ tokens.toList := by
  let Same (token other : Token) : Prop := token = other ∧ token ∈ tokens.toList
  have alike (token other : Token) (same : Same token other) : token.Alike other := by
    obtain ⟨rfl, -⟩ := same
    exact ⟨rfl, fun _ => rfl, fun _ _ => rfl⟩
  have final : Same tokens.final tokens.final := ⟨rfl, by simp [Tokens.toList]⟩
  have body : List.Forall₂ Same tokens.body tokens.body :=
    List.forall₂_same.2 fun token member => ⟨rfl, by simp [Tokens.toList, member]⟩
  rcases ofTokens_corresponds alike final body with ⟨file, _, read, -⟩ | ⟨same, _, own, -, corresponds⟩
  · rw [failed] at read
    cases read
  · obtain rfl := Except.error.inj (failed.symm.trans own)
    obtain ⟨_, ⟨-, member⟩, -⟩ := corresponds.about
    exact member

/-- Every token stands behind the characters of some of the lexemes. -/
theorem Lexeme.position_of_layOut {lexemes : List Lexeme} {ends : Bool} {position : Position} {token : Token}
    (member : token ∈ layOut ends position lexemes) :
    ∃ front rest, lexemes.flatMap Lexeme.text = front ++ rest ∧ token.position = position.after front := by
  induction lexemes generalizing ends position with
  | nil =>
    unfold layOut at member
    split at member
    · obtain rfl := List.mem_singleton.1 member
      exact ⟨[], _, rfl, rfl⟩
    · cases member
  | cons lexeme lexemes ih =>
    have later {ends : Bool} (inside : token ∈ layOut ends (position.after lexeme.text) lexemes) :
        ∃ front rest, (lexeme :: lexemes).flatMap Lexeme.text = front ++ rest ∧
          token.position = position.after front := by
      obtain ⟨front, rest, whole, place⟩ := ih inside
      refine ⟨lexeme.text ++ front, rest, ?_, ?_⟩
      · rw [List.flatMap_cons, whole, List.append_assoc]
      · rw [place, Position.after_append]
    unfold layOut at member
    cases stands : lexeme.kind? with
    | none =>
      simp only [stands] at member
      split at member
      · rcases List.mem_cons.1 member with rfl | inside
        · exact ⟨[], _, rfl, rfl⟩
        · exact later inside
      · exact later member
    | some kind =>
      simp only [stands] at member
      rcases List.mem_cons.1 member with rfl | inside
      · exact ⟨[], _, rfl, rfl⟩
      · exact later inside

theorem Tokens.denotes_of_ofText {text : String} {tokens : Tokens} (read : ofText text = .ok tokens)
    {token : Token} (member : token ∈ tokens.toList) : ∃ offset, token.position.Denotes text offset := by
  obtain ⟨lexemes, whole, rfl⟩ := ofText_eq_ok_iff.1 read
  have all := Lexeme.flatMap_all text.toList
  rw [whole, List.append_nil] at all
  rcases List.mem_append.1 member with inside | last
  · obtain ⟨front, rest, split, place⟩ := Lexeme.position_of_layOut inside
    rw [place]
    exact ⟨_, Position.denotes_of_append (all.symm.trans split)⟩
  · obtain rfl := List.mem_singleton.1 last
    exact ⟨_, Position.denotes_of_append (List.append_nil text.toList).symm⟩

namespace SourceFile

theorem diagnostic_of_ofText {text : String} {error : SourceError} (failed : ofText text = .error error) :
    error.diagnostic.OnOneLine ∧ ∃ offset, error.diagnostic.position.Denotes text offset := by
  cases lexed : Tokens.ofText text with
  | error fault =>
    rw [ofText_of_lexical lexed] at failed
    cases failed
    refine ⟨Diagnostic.onOneLine fault.fault.printable_message, ?_⟩
    rw [Tokens.ofText_eq] at lexed
    split at lexed
    · cases lexed
    · cases lexed
      exact ⟨_, Position.denotes_of_append (Lexeme.flatMap_all text.toList).symm⟩
  | ok tokens =>
    rw [ofText_of_tokens lexed] at failed
    cases parsed : ofTokens tokens with
    | ok file =>
      rw [parsed] at failed
      cases failed
    | error fault =>
      rw [parsed] at failed
      cases failed
      exact ⟨Diagnostic.onOneLine fault.printable_message,
        Tokens.denotes_of_ofText lexed (token_mem_of_ofTokens parsed)⟩

/-- Tokens of any kinds and spellings are read to a file or to a report about one of them. -/
theorem diagnostic_of_ofList {list : List Token} (closed : ∀ last ∈ list.getLast?, last.kind = .endOfFile) :
    ∃ tokens, Tokens.ofList? list = some tokens ∧ ∀ error, ofTokens tokens = .error error →
      error.diagnostic.OnOneLine ∧
        ((∃ token ∈ list, error.diagnostic.position = token.position) ∨
          list = [] ∧ error.diagnostic.position = ⟨1, 1⟩) := by
  cases list with
  | nil =>
    refine ⟨_, rfl, fun error failed => ⟨Diagnostic.onOneLine error.printable_message, .inr ⟨rfl, ?_⟩⟩⟩
    have last := List.mem_singleton.1 (token_mem_of_ofTokens failed)
    rw [SyntaxError.diagnostic, last]
    rfl
  | cons first rest =>
    have ends : ((first :: rest).getLast (by simp)).kind = .endOfFile :=
      closed _ (List.getLast?_eq_some_getLast _)
    refine ⟨_, dif_pos ends, fun error failed => ⟨Diagnostic.onOneLine error.printable_message, .inl ?_⟩⟩
    have member := token_mem_of_ofTokens failed
    rw [Tokens.toList, List.dropLast_concat_getLast] at member
    exact ⟨error.token, member, rfl⟩

/-- Whatever is refused is reported in one line, without control characters, and at a place in it. -/
theorem diagnostic_in_source :
    (∀ list : List Token, (∀ last ∈ list.getLast?, last.kind = .endOfFile) →
      ∃ tokens, Tokens.ofList? list = some tokens ∧ ∀ error, ofTokens tokens = .error error →
        error.diagnostic.OnOneLine ∧
          ((∃ token ∈ list, error.diagnostic.position = token.position) ∨
            list = [] ∧ error.diagnostic.position = ⟨1, 1⟩)) ∧
    ∀ text error, ofText text = .error error →
      error.diagnostic.OnOneLine ∧ ∃ offset, error.diagnostic.position.Denotes text offset :=
  ⟨fun _ => diagnostic_of_ofList, fun _ _ => diagnostic_of_ofText⟩

/-- A literal over two lines in the place of a type, which no text falls into there, and a control character
behind letters of two bytes -/
theorem diagnostic_in_source_controls :
    (∃ tokens error, Tokens.ofList? [⟨.keyword, "package", .start⟩, ⟨.identifier, "(", ⟨1, 9⟩⟩,
        ⟨.semicolon, "", ⟨1, 10⟩⟩, ⟨.keyword, "type", ⟨2, 1⟩⟩, ⟨.identifier, "\n", ⟨7, 9⟩⟩,
        ⟨.rawString, "\x60a\n\x08", ⟨3, 1⟩⟩, ⟨.endOfFile, Token.rightBrace, ⟨4, 1⟩⟩] = some tokens ∧
      ofTokens tokens = .error error ∧
      error.diagnostic = ⟨⟨3, 1⟩, "Expected type but found \"\x60a\\n\\b\""⟩ ∧
      error.diagnostic.OnOneLine) ∧
    ∃ error, ofText "package é\n/* é */ \x08é" = .error error ∧
      error.diagnostic = ⟨⟨2, 10⟩, "Syntax error: \"\\b\""⟩ ∧
      error.diagnostic.OnOneLine ∧ ∃ offset, error.diagnostic.position.Denotes "package é\n/* é */ \x08é" offset := by
  obtain ⟨fromList, fromText⟩ := diagnostic_in_source
  constructor
  · obtain ⟨tokens, listed, reported⟩ := fromList [⟨.keyword, "package", .start⟩, ⟨.identifier, "(", ⟨1, 9⟩⟩,
      ⟨.semicolon, "", ⟨1, 10⟩⟩, ⟨.keyword, "type", ⟨2, 1⟩⟩, ⟨.identifier, "\n", ⟨7, 9⟩⟩,
      ⟨.rawString, "\x60a\n\x08", ⟨3, 1⟩⟩, ⟨.endOfFile, Token.rightBrace, ⟨4, 1⟩⟩] (by simp)
    cases listed
    exact ⟨_, _, rfl, rfl, by decide +kernel, (reported _ rfl).1⟩
  · have failed : ofText "package é\n/* é */ \x08é" = .error (.lexical ⟨⟨2, 10⟩, .unreadable "\x08"⟩) := by
      decide +kernel
    exact ⟨_, failed, by decide +kernel, fromText _ _ failed⟩

end SourceFile

end GoDto
