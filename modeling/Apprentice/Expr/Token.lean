import Apprentice.Expr.Basic

/-!
# Tokens of meaning expressions

A lexeme is a smallest unit of an expression; a token is a lexeme with its place in the source.
-/

namespace Apprentice.Expr

inductive Lexeme where
  | ident (name : String)
  | int (value : Int64)
  | str (text : String)
  | dot
  | comma
  | openParen
  | closeParen
  | openBracket
  | closeBracket
  | eqEq
  | notEq
  | lt
  | le
  | gt
  | ge
  | plus
  | minus
  | star
  | slash
  | percent
  | andAnd
  | orOr
  | bang
  deriving DecidableEq, Repr

/-- A lexeme as a message names it. -/
def Lexeme.describe : Lexeme → String
  | ident name => "`" ++ name ++ "`"
  | int value => toString value
  | str text => "'" ++ text ++ "'"
  | dot => "`.`"
  | comma => "`,`"
  | openParen => "`(`"
  | closeParen => "`)`"
  | openBracket => "`[`"
  | closeBracket => "`]`"
  | eqEq => "`==`"
  | notEq => "`!=`"
  | lt => "`<`"
  | le => "`<=`"
  | gt => "`>`"
  | ge => "`>=`"
  | plus => "`+`"
  | minus => "`-`"
  | star => "`*`"
  | slash => "`/`"
  | percent => "`%`"
  | andAnd => "`&&`"
  | orOr => "`||`"
  | bang => "`!`"

structure Token where
  lexeme : Lexeme
  /-- The place of its first character, in bytes from the start of the source. -/
  offset : Nat
  deriving DecidableEq, Repr

end Apprentice.Expr
