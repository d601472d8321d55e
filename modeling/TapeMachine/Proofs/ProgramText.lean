import Mathlib.Logic.Relation
import TapeMachine.Interpreter

/-! Programs as texts and as tokens. The tokens keep all of a text but its blanks, in order. Written out
they give the text without blanks, and two texts have the same tokens exactly if one becomes the other by
putting in blanks and taking out blanks, so blanks have no part in what a program does. -/
namespace TapeMachine

/-- A token that some text has: what is undefined is neither blank nor a command. -/
def Token.Written : Token → Prop
  | .undefined c => isBlank c = false ∧ c ∉ "+-><,.[]".toList
  | _ => True

/-- The tokens written out without blanks. -/
def written (tokens : List Token) : String :=
  .ofList (tokens.map Token.toChar)

def withoutBlanks (text : String) : String :=
  .ofList (text.toList.filter fun c => !isBlank c)

/-- The second text has one blank more, somewhere. -/
inductive BlankInserted : String → String → Prop
  | intro (before behind : String) {c : Char} : isBlank c = true →
      BlankInserted (before ++ behind) (before ++ String.singleton c ++ behind)

/-- The second text is the first with any blanks put in. -/
def SpacedOut : String → String → Prop :=
  Relation.ReflTransGen BlankInserted

/-- The one becomes the other by putting in and taking out blanks. -/
def DifferInBlanks : String → String → Prop :=
  Relation.EqvGen BlankInserted

/-- The next token, and the characters behind it. Blanks are passed over in front of a token, not
behind it. -/
def nextToken (chars : List Char) : Option (Token × List Char) :=
  match chars.dropWhile isBlank with
  | [] => none
  | c :: rest => some (.ofChar c, rest)

/-- The tokens taken one after another, until there is none. -/
inductive Reads : List Char → List Token → Prop
  | done {chars} : nextToken chars = none → Reads chars []
  | next {chars token rest tokens} : nextToken chars = some (token, rest) → Reads rest tokens →
      Reads chars (token :: tokens)

/-! ## Single tokens -/

section Token

variable {token : Token} {c : Char}

theorem Token.ofChar_eq_undefined_iff {d : Char} :
    Token.ofChar d = .undefined c ↔ d = c ∧ c ∉ "+-><,.[]".toList := by
  unfold Token.ofChar
  constructor
  · intro same
    split at same <;> cases same
    refine ⟨rfl, ?_⟩
    simp_all
  · rintro ⟨rfl, other⟩
    split <;> simp_all

theorem Token.written_ofChar (visible : isBlank c = false) : (Token.ofChar c).Written := by
  cases same : Token.ofChar c with
  | undefined d =>
    obtain ⟨rfl, other⟩ := Token.ofChar_eq_undefined_iff.1 same
    exact ⟨visible, other⟩
  | _ => trivial

theorem Token.Written.ofChar_toChar (written : token.Written) : Token.ofChar token.toChar = token := by
  cases token with
  | undefined c => exact Token.ofChar_eq_undefined_iff.2 ⟨rfl, written.2⟩
  | _ => rfl

theorem Token.Written.visible (written : token.Written) : isBlank token.toChar = false := by
  cases token with
  | undefined c => exact written.1
  | _ => decide

end Token

/-! ## Texts -/

section Text

variable {p q text : String} {tokens : List Token}

theorem written_of_mem_tokenize {token : Token} (listed : token ∈ tokenize text) : token.Written := by
  obtain ⟨c, kept, rfl⟩ := List.mem_map.1 listed
  obtain ⟨-, visible⟩ := List.mem_filter.1 kept
  exact Token.written_ofChar (by simpa using visible)

theorem undefined_mem_tokenize {c : Char} (listed : .undefined c ∈ tokenize text) :
    c ∈ text.toList ∧ isBlank c = false ∧ c ∉ "+-><,.[]".toList := by
  obtain ⟨d, kept, same⟩ := List.mem_map.1 listed
  obtain ⟨rfl, -⟩ := Token.ofChar_eq_undefined_iff.1 same
  exact ⟨(List.mem_filter.1 kept).1, written_of_mem_tokenize listed⟩

theorem written_tokenize (text : String) : written (tokenize text) = withoutBlanks text := by
  rw [written, withoutBlanks, tokenize_chars]

theorem tokenize_written (each : ∀ token ∈ tokens, token.Written) : tokenize (written tokens) = tokens := by
  induction tokens with
  | nil => rfl
  | cons token tokens ih =>
    obtain ⟨first, later⟩ := List.forall_mem_cons.1 each
    have rest := ih later
    rw [tokenize, written, String.toList_ofList] at rest ⊢
    rw [List.map_cons, List.filter_cons_of_pos (by simp [first.visible]), List.map_cons,
      first.ofChar_toChar, rest]

theorem tokenize_singleton_blank {c : Char} (blank : isBlank c = true) :
    tokenize (String.singleton c) = [] := by
  simp [tokenize, blank]

theorem BlankInserted.tokenize_eq (inserted : BlankInserted p q) : tokenize p = tokenize q := by
  obtain ⟨before, behind, blank⟩ := inserted
  rw [tokenize_append, tokenize_append, tokenize_append, tokenize_singleton_blank blank,
    List.append_nil]

theorem DifferInBlanks.tokenize_eq (differ : DifferInBlanks p q) : tokenize p = tokenize q := by
  induction differ with
  | rel _ _ inserted => exact inserted.tokenize_eq
  | refl _ => rfl
  | symm _ _ _ ih => exact ih.symm
  | trans _ _ _ _ _ ih ih' => exact ih.trans ih'

theorem SpacedOut.differInBlanks (spaced : SpacedOut p q) : DifferInBlanks p q :=
  Relation.EqvGen.reflTransGen_le_eqvGen _ _ _ spaced

/-- Behind any beginning, the blanks are put in from the last to the first. -/
theorem spacedOut_of_filter (before : String) (chars : List Char) :
    SpacedOut (before ++ .ofList (chars.filter fun c => !isBlank c)) (before ++ .ofList chars) := by
  induction chars generalizing before with
  | nil => exact .refl
  | cons c chars ih =>
    have later := ih (before ++ String.singleton c)
    rw [String.append_assoc, String.append_assoc, ← String.ofList_cons, ← String.ofList_cons] at later
    cases visible : isBlank c with
    | false => rwa [List.filter_cons_of_pos (by simp [visible])]
    | true =>
      have inserted := BlankInserted.intro before (.ofList (chars.filter fun c => !isBlank c)) visible
      rw [String.append_assoc, ← String.ofList_cons] at inserted
      rw [List.filter_cons_of_neg (by simp [visible])]
      exact .head inserted later

theorem spacedOut_withoutBlanks (text : String) : SpacedOut (withoutBlanks text) text := by
  have spaced := spacedOut_of_filter "" text.toList
  rwa [String.empty_append, String.empty_append, String.ofList_toList] at spaced

/-- Both texts are their common tokens, spaced out. -/
theorem tokenize_eq_iff : tokenize p = tokenize q ↔ DifferInBlanks p q := by
  constructor
  · intro same
    have first := (spacedOut_withoutBlanks p).differInBlanks
    have second := (spacedOut_withoutBlanks q).differInBlanks
    rw [← written_tokenize, same, written_tokenize] at first
    exact .trans _ _ _ (.symm _ _ first) second
  · exact DifferInBlanks.tokenize_eq

end Text

/-! ## Token by token -/

section Reads

variable {chars rest : List Char} {tokens tokens' : List Token} {c : Char}

theorem nextToken_blank (blank : isBlank c = true) (rest : List Char) :
    nextToken (c :: rest) = nextToken rest := by
  rw [nextToken, List.dropWhile_cons_of_pos blank, nextToken]

theorem nextToken_visible (visible : isBlank c = false) (rest : List Char) :
    nextToken (c :: rest) = some (.ofChar c, rest) := by
  rw [nextToken, List.dropWhile_cons_of_neg (by simp [visible])]

theorem Reads.blank (reads : Reads rest tokens) (blank : isBlank c = true) :
    Reads (c :: rest) tokens := by
  cases reads with
  | done ended => exact .done ((nextToken_blank blank rest).trans ended)
  | next found later => exact .next ((nextToken_blank blank rest).trans found) later

theorem reads_filter (chars : List Char) :
    Reads chars ((chars.filter fun c => !isBlank c).map .ofChar) := by
  induction chars with
  | nil => exact .done rfl
  | cons c rest ih =>
    cases visible : isBlank c with
    | true =>
      rw [List.filter_cons_of_neg (by simp [visible])]
      exact ih.blank visible
    | false =>
      rw [List.filter_cons_of_pos (by simp [visible]), List.map_cons]
      exact .next (nextToken_visible visible rest) ih

theorem Reads.unique (reads : Reads chars tokens) (reads' : Reads chars tokens') :
    tokens = tokens' := by
  induction reads generalizing tokens' with
  | done ended =>
    cases reads' with
    | done _ => rfl
    | next found _ => simp [ended] at found
  | next found _ ih =>
    cases reads' with
    | done ended => simp [found] at ended
    | next found' later =>
      rw [found, Option.some.injEq, Prod.mk.injEq] at found'
      obtain ⟨rfl, rfl⟩ := found'
      rw [ih later]

theorem reads_iff {text : String} : Reads text.toList tokens ↔ tokens = tokenize text := by
  constructor
  · intro reads
    exact reads.unique (reads_filter text.toList)
  · rintro rfl
    exact reads_filter text.toList

end Reads

theorem interpret_congr {p q : String} (same : tokenize p = tokenize q) (interpreter : Interpreter)
    (fuel : Nat) (input : String) :
    interpreter.interpret fuel p input = interpreter.interpret fuel q input := by
  simp only [Interpreter.interpret, Machine.start, Machine.startEvent, same]

/-- Taking one token after another gives the tokens of a text and nothing else. Written out they are the
text without its blanks; and any tokens that a text can have are had by every text that spaces them out. So
texts have the same tokens exactly if they differ in blanks, and then they are interpreted alike, whatever
the settings and the input. -/
theorem tokens_tell_texts_up_to_blanks :
    (∀ text tokens, Reads text.toList tokens ↔ tokens = tokenize text) ∧
    (∀ text, written (tokenize text) = withoutBlanks text ∧
      ∀ token ∈ tokenize text, token.Written) ∧
    (∀ tokens : List Token, (∀ token ∈ tokens, token.Written) →
      ∀ text, SpacedOut (written tokens) text → tokenize text = tokens) ∧
    (∀ p q, tokenize p = tokenize q ↔ DifferInBlanks p q) ∧
    (∀ p q, tokenize (p ++ q) = tokenize p ++ tokenize q) ∧
    ∀ p q, DifferInBlanks p q → ∀ (interpreter : Interpreter) (fuel : Nat) (input : String),
      interpreter.interpret fuel p input = interpreter.interpret fuel q input := by
  refine ⟨fun _ _ => reads_iff, fun text => ⟨written_tokenize text, fun _ => written_of_mem_tokenize⟩,
    ?_, fun _ _ => tokenize_eq_iff, tokenize_append, ?_⟩
  · intro tokens each text spaced
    rw [← spaced.differInBlanks.tokenize_eq, tokenize_written each]
  · intro p q differ
    exact interpret_congr differ.tokenize_eq

/-- A loop with an unknown character, spaced out by a blank inside and a line end behind; and blanks of
three kinds in a program with output. -/
theorem spaced_texts_keep_tokens :
    let tokens : List Token := [.loopStart, .undefined 'x', .loopEnd]
    let p := "++[.-]"
    let q := "\t+ +[\u2003.\n-]\u00A0"
    (∀ token ∈ tokens, token.Written) ∧ SpacedOut (written tokens) "[ x]\n" ∧
      tokenize "[ x]\n" = tokens ∧ DifferInBlanks p q ∧
      ∃ r, Interpreter.standard.interpret 20 q "" = some r ∧ r.answer = .ok "\x02\x01" := by
  intro tokens p q
  obtain ⟨-, -, respaced, same, -, alike⟩ := tokens_tell_texts_up_to_blanks
  have each : ∀ token ∈ tokens, token.Written := by
    simp [tokens, Token.Written]
    decide
  have inside := BlankInserted.intro "[" "x]" (by decide : isBlank ' ' = true)
  have behind := BlankInserted.intro "[ x]" "" (by decide : isBlank '\n' = true)
  have spaced : SpacedOut (written tokens) "[ x]\n" := .tail (.single inside) behind
  have differ : DifferInBlanks p q := (same p q).1 (by decide)
  have ended : (Interpreter.standard.interpret 20 "++[.-]" "").map Run.answer =
      some (.ok "\x02\x01") := rfl
  rw [alike p q differ] at ended
  obtain ⟨r, ran, answer⟩ := Option.map_eq_some_iff.1 ended
  exact ⟨each, spaced, respaced tokens each _ spaced, differ, r, ran, answer⟩

end TapeMachine
