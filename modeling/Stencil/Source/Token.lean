import Stencil.Source.Delimiters
import Stencil.Source.Keyword
import Stencil.Text.Bytes

/-!
# Tokens

- `TokenKind`: the kinds of tokens.
- `Token`: a token with its place in the source and its text.
- `TokenKind.word`: the word for a kind of token in messages.

Specification: section E1; `Token` and `Token.human`.
-/

namespace Stencil

/-- The kinds of tokens. -/
inductive TokenKind where
  /-- Text outside of tags, or the inside of a comment. -/
  | raw
  | opening (tag : TagKind)
  | closing (tag : TagKind)
  | dot
  | questionDot
  | pipe
  | comma
  | colon
  | equals
  | plus
  | minus
  | leftBracket
  | rightBracket
  | leftBrace
  | rightBrace
  | whitespace
  | keyword
  | identifier
  /-- Digits right after a member access. -/
  | index
  | number
  | string
deriving DecidableEq

/-- The word for a kind of token in messages. -/
def TokenKind.word : TokenKind → String
  | .raw => "raw template"
  | .opening tag => "begin " ++ tag.word
  | .closing tag => "end " ++ tag.word
  | .dot => "member access operator"
  | .questionDot => "optional member access operator"
  | .pipe => "pipe"
  | .comma => "comma"
  | .colon => "colon"
  | .equals => "equals"
  | .plus => "plus"
  | .minus => "minus"
  | .leftBracket => "left bracket"
  | .rightBracket => "right bracket"
  | .leftBrace => "left brace"
  | .rightBrace => "right brace"
  | .whitespace => "whitespace"
  | .keyword => "keyword"
  | .identifier => "identifier"
  | .index => "index"
  | .number => "number"
  | .string => "string"

/-- A token: its kind, its place in the source and the text there. -/
structure Token where
  kind : TokenKind
  span : Span
  text : String
deriving DecidableEq

end Stencil
