import ContextStream.Json.Literal
import ContextStream.Json.Numeral

/-!
# Cutting a text into tokens

The text is read once, from left to right. After a stretch that cannot be completed
there are no more tokens.
-/

namespace ContextStream.Json

namespace Lexer

/-- What the next character is part of. The numbers are the offsets at which a word, a
numeral or a string began. -/
inductive Mode where
  | between
  | word (start : Nat) (rest : List Char) (lexeme : Lexeme)
  | numeral (start : Nat) (numeral : Numeral)
  | literal (start : Nat) (literal : Literal)
  | stopped

end Lexer

/-- The part of a text that has been read. -/
structure Lexer where
  offset : Nat
  /-- The tokens, the last one first. -/
  tokens : List Token
  mode : Lexer.Mode

namespace Lexer

/-- Nothing has been read. -/
def start : Lexer := ⟨0, [], .between⟩

/-- Adds a token that ends at an offset. -/
def emit (lexer : Lexer) (lexeme : Lexeme) (start stop : Nat) : Lexer :=
  { lexer with tokens := ⟨lexeme, start, stop⟩ :: lexer.tokens, mode := .between }

/-- Adds a last token. -/
def stop (lexer : Lexer) (lexeme : Lexeme) (start : Nat) : Lexer :=
  { lexer.emit lexeme start (lexer.offset + 1) with mode := .stopped }

/-- The word that a character begins: its other characters, and what it means. -/
def word? : Char → Option (List Char × Lexeme)
  | 'n' => some (['u', 'l', 'l'], .null)
  | 't' => some (['r', 'u', 'e'], .bool true)
  | 'f' => some (['a', 'l', 's', 'e'], .bool false)
  | _ => none

/-- Begins a token with a character. -/
def begin (lexer : Lexer) (c : Char) : Lexer :=
  if isBlank c then { lexer with mode := .between }
  else
    match Symbol.ofChar? c, word? c, Numeral.ofChar? c with
    | some symbol, _, _ => lexer.emit (.symbol symbol) lexer.offset (lexer.offset + 1)
    | none, some (rest, lexeme), _ => { lexer with mode := .word lexer.offset rest lexeme }
    | none, none, some numeral => { lexer with mode := .numeral lexer.offset numeral }
    | none, none, none =>
        if c = '"' then { lexer with mode := .literal lexer.offset .start }
        else lexer.stop .stray lexer.offset

/-- What a character does, apart from the count of bytes. -/
def consume (lexer : Lexer) (c : Char) : Lexer :=
  match lexer.mode with
  | .between => lexer.begin c
  | .word start (d :: rest) lexeme =>
      if c = d then
        if rest.isEmpty then lexer.emit lexeme start (lexer.offset + 1)
        else { lexer with mode := .word start rest lexeme }
      else
        let fault : Fault := ⟨.expectedWord, lexer.offset + 1⟩
        lexer.stop (.malformed false fault (some fault)) start
  | .word start [] lexeme => (lexer.emit lexeme start lexer.offset).begin c
  | .numeral start numeral =>
      match numeral.step lexer.offset c with
      | .more numeral => { lexer with mode := .numeral start numeral }
      | .ended => (lexer.emit (numeral.lexeme lexer.offset) start lexer.offset).begin c
      | .refused =>
          let fault : Fault := ⟨.invalidNumber, lexer.offset + 1⟩
          lexer.stop (.malformed false fault (some fault)) start
  | .literal start literal =>
      match literal.step lexer.offset c with
      | .more literal => { lexer with mode := .literal start literal }
      | .ended lexeme => lexer.emit lexeme start (lexer.offset + 1)
      | .refused lexeme => lexer.stop lexeme start
  | .stopped => lexer

/-- Reads a character. -/
def step (lexer : Lexer) (c : Char) : Lexer :=
  let lexer := lexer.consume c
  { lexer with offset := lexer.offset + c.utf8Size }

/-- The end of the text completes the last token. -/
def finish (lexer : Lexer) : Lexer :=
  match lexer.mode with
  | .between | .stopped => lexer
  | .word start _ _ =>
      let fault : Fault := ⟨.endInValue, lexer.offset⟩
      lexer.emit (.malformed false fault (some fault)) start lexer.offset
  | .numeral start numeral => lexer.emit (numeral.lexeme lexer.offset) start lexer.offset
  | .literal start literal => lexer.emit (literal.unfinished lexer.offset) start lexer.offset

end Lexer

/-- The tokens of a text and the number of its bytes. -/
structure Tokens where
  tokens : List Token
  size : Nat

/-- Cuts a text into tokens. -/
def tokenize (text : List Char) : Tokens :=
  let lexer := (text.foldl Lexer.step Lexer.start).finish
  ⟨lexer.tokens.reverse, lexer.offset⟩

end ContextStream.Json
