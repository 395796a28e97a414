import CommandConsole.SyntaxError
import CommandConsole.Text.Blank
import CommandConsole.Token

/-!
# From lines to tokens

Reading a line goes token by token. Blanks between tokens are skipped. A `;` or `&` is a
token of its own. A `"` opens a quoted string, which its closing quote ends; everything
else opens a word, which the next blank, `;` or `&` ends, so that a quote inside a word is
an ordinary character.

Inside quotes a backslash takes the next character with it, whichever it is. `closeQuote`
finds the closing quote; where there is none, reading the line ends there.

* `Token.lex` reads a whole line and says which tokens there are and whether a quote was
  left open;
* `Token.tokenize` is the strict reading, for lines that are to be run: an open quote is an
  error;
* `Token.tokenizeLossy` is the forgiving reading, for lines still being typed: an open quote
  becomes one last token to the end of the line.

Every call of `lexFrom` is on a shorter text: what a closing quote leaves is shorter
(`closeQuote_length`), and a word has at least one character.
-/

namespace CommandConsole.Token

/-- Whether a character can stand in a word. -/
def isWordChar (c : Char) : Bool :=
  !(isBlank c || c == ';' || c == '&')

/-- Looks for the closing quote. The first part is the text before it, the second the text
after it. -/
def closeQuote : Text → Option (Text × Text)
  | [] => none
  | '"' :: rest => some ([], rest)
  | '\\' :: c :: rest => (closeQuote rest).map fun (text, after) => ('\\' :: c :: text, after)
  | c :: rest => (closeQuote rest).map fun (text, after) => (c :: text, after)

/-- The text between the quotes, its closing quote and the text after it make up the text
that was searched. -/
theorem eq_of_closeQuote {rest text after : Text} (h : closeQuote rest = some (text, after)) :
    rest = text ++ '"' :: after := by
  fun_induction closeQuote rest generalizing text with
  | case1 => simp at h
  | case2 rest => simp_all
  | case3 c rest ih =>
    obtain ⟨⟨t, a⟩, ht, heq⟩ := Option.map_eq_some_iff.1 h
    simp only [Prod.mk.injEq] at heq
    obtain ⟨rfl, rfl⟩ := heq
    simp [ih ht]
  | case4 c rest _ _ ih =>
    obtain ⟨⟨t, a⟩, ht, heq⟩ := Option.map_eq_some_iff.1 h
    simp only [Prod.mk.injEq] at heq
    obtain ⟨rfl, rfl⟩ := heq
    simp [ih ht]

/-- What a closing quote leaves is shorter than the text that was searched. -/
theorem closeQuote_length {rest text after : Text} (h : closeQuote rest = some (text, after)) :
    after.length < rest.length := by
  rw [eq_of_closeQuote h]
  simp only [List.length_append, List.length_cons]
  omega

/-- A quote that is left open: where it stands, and the text after it. -/
structure OpenQuote where
  span : Span
  text : Text
  deriving DecidableEq, Repr

/-- All that is read from a line. -/
structure Lexed where
  tokens : List Token
  openQuote? : Option OpenQuote
  deriving DecidableEq, Repr

/-- With one more token in front. -/
def Lexed.cons (t : Token) (l : Lexed) : Lexed := { l with tokens := t :: l.tokens }

/-- Reads the text that starts at byte `pos` of the line. -/
def lexFrom (pos : Nat) (text : Text) : Lexed :=
  match text with
  | [] => ⟨[], none⟩
  | c :: rest =>
    if isBlank c then lexFrom (pos + c.utf8Size) rest
    else if c = ';' then .cons ⟨.separator .always, ⟨pos, pos + 1⟩⟩ (lexFrom (pos + 1) rest)
    else if c = '&' then .cons ⟨.separator .onSuccess, ⟨pos, pos + 1⟩⟩ (lexFrom (pos + 1) rest)
    else if c = '"' then
      match _hclose : closeQuote rest with
      | none => ⟨[], some ⟨⟨pos, pos + 1 + Text.byteLength rest⟩, rest⟩⟩
      | some (quotedText, after) =>
        let stop := pos + Text.byteLength quotedText + 2
        .cons ⟨.quoted quotedText, ⟨pos, stop⟩⟩ (lexFrom stop after)
    else
      -- `c` is no blank, separator or quote; a quote further on in the word is ordinary
      let word := c :: rest.takeWhile isWordChar
      let stop := pos + Text.byteLength word
      .cons ⟨.word word, ⟨pos, stop⟩⟩ (lexFrom stop (rest.dropWhile isWordChar))
termination_by text.length
decreasing_by
  -- a blank, and either separator
  · simp
  · simp
  · simp
  -- a quoted string
  · have := closeQuote_length _hclose
    simp only [List.length_cons]
    omega
  -- a word
  · have := (List.dropWhile_sublist isWordChar (l := rest)).length_le
    simp only [List.length_cons]
    omega

/-- Reads a line. -/
def lex (line : Text) : Lexed := lexFrom 0 line

/-- The tokens of a line that is to be run. -/
def tokenize (line : Text) : Except SyntaxError (List Token) :=
  match lex line with
  | ⟨tokens, none⟩ => .ok tokens
  | ⟨_, some quote⟩ => .error (.unclosedQuote quote.span)

/-- The tokens of a line as it is shown, with an open quote as the last of them. -/
def tokenizeLossy (line : Text) : List Token :=
  match lex line with
  | ⟨tokens, none⟩ => tokens
  | ⟨tokens, some quote⟩ => tokens ++ [⟨.unterminated quote.text, quote.span⟩]

end CommandConsole.Token
