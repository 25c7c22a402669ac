/-!
# Terminals

The kinds of token of the language. A terminal with a fixed spelling is a keyword or punctuation;
names, whole numbers and texts have none. `Follow` collects, for each place of the grammar behind a
token, the terminals that are looked for there. What a word or a sign is depends on its place: a
keyword is just a name where only a name is looked for.
-/

namespace Throws.Surface

/-- The kinds of token. -/
inductive Terminal where
  | name | int | string
  | kwException | kwUsing | kwThrows | kwNoexcept | kwConst | kwVolatile | kwFn | kwReturn
  | kwThrow | kwTry | kwIf | kwElse | kwWhile | kwDo | kwFor | kwBreak | kwContinue | kwCatch
  | kwTrue | kwFalse
  | semicolon | comma | equal | lpar | rpar | lbrace | rbrace | amp | ellipsis
  | orOp | andOp | eqOp | cmpOp | plus | minus | star | slash | percent | bang | tilde
  | endOfText
deriving DecidableEq, Inhabited

namespace Terminal

/-- The label of a terminal in reports. -/
def label : Terminal → String
  | .name => "NAME"
  | .int => "INT"
  | .string => "STRING"
  | .kwException => "EXCEPTION"
  | .kwUsing => "USING"
  | .kwThrows => "THROWS"
  | .kwNoexcept => "NOEXCEPT"
  | .kwConst => "CONST"
  | .kwVolatile => "VOLATILE"
  | .kwFn => "FN"
  | .kwReturn => "RETURN"
  | .kwThrow => "THROW"
  | .kwTry => "TRY"
  | .kwIf => "IF"
  | .kwElse => "ELSE"
  | .kwWhile => "WHILE"
  | .kwDo => "DO"
  | .kwFor => "FOR"
  | .kwBreak => "BREAK"
  | .kwContinue => "CONTINUE"
  | .kwCatch => "CATCH"
  | .kwTrue => "TRUE"
  | .kwFalse => "FALSE"
  | .semicolon => "SEMICOLON"
  | .comma => "COMMA"
  | .equal => "EQUAL"
  | .lpar => "LPAR"
  | .rpar => "RPAR"
  | .lbrace => "LBRACE"
  | .rbrace => "RBRACE"
  | .amp => "AMP"
  | .ellipsis => "ELLIPSIS"
  | .orOp => "OR_OP"
  | .andOp => "AND_OP"
  | .eqOp => "EQ_OP"
  | .cmpOp => "CMP_OP"
  | .plus => "PLUS"
  | .minus => "MINUS"
  | .star => "STAR"
  | .slash => "SLASH"
  | .percent => "PERCENT"
  | .bang => "BANG"
  | .tilde => "TILDE"
  | .endOfText => "$END"

/-- The keywords with their spellings, longer ones first. -/
def keywords : List (Terminal × String) :=
  [(.kwException, "exception"), (.kwNoexcept, "noexcept"), (.kwVolatile, "volatile"),
    (.kwContinue, "continue"), (.kwThrows, "throws"), (.kwReturn, "return"), (.kwUsing, "using"),
    (.kwConst, "const"), (.kwThrow, "throw"), (.kwWhile, "while"), (.kwBreak, "break"),
    (.kwCatch, "catch"), (.kwFalse, "false"), (.kwElse, "else"), (.kwTrue, "true"),
    (.kwTry, "try"), (.kwFor, "for"), (.kwFn, "fn"), (.kwIf, "if"), (.kwDo, "do")]

/-- Punctuation with its spellings, longer ones first. -/
def punctuation : List (Terminal × String) :=
  [(.ellipsis, "..."), (.orOp, "||"), (.andOp, "&&"), (.eqOp, "=="), (.eqOp, "!="),
    (.cmpOp, "<="), (.cmpOp, ">="), (.cmpOp, "<"), (.cmpOp, ">"), (.semicolon, ";"),
    (.comma, ","), (.equal, "="), (.lpar, "("), (.rpar, ")"), (.lbrace, "\x7b"),
    (.rbrace, "\x7d"), (.amp, "&"), (.plus, "+"), (.minus, "-"), (.star, "*"), (.slash, "/"),
    (.percent, "%"), (.bang, "!"), (.tilde, "~")]

/-- Every terminal that a text can show. -/
def all : List Terminal :=
  [.name, .int, .string] ++ keywords.map (·.1) ++ punctuation.map (·.1)

end Terminal

namespace Follow

open Terminal

/-- The beginning of a type. -/
def type : List Terminal := [.name, .kwConst, .kwVolatile, .kwFn]

/-- Behind a qualifier: another one, or the name that is qualified. -/
def qualified : List Terminal := [.name, .kwConst, .kwVolatile]

/-- The beginning of a declaration. -/
def item : List Terminal := [.kwException, .kwUsing] ++ type

/-- The beginning of an operand. -/
def operand : List Terminal :=
  [.name, .int, .string, .kwTrue, .kwFalse, .lpar, .minus, .bang, .tilde]

/-- An operand, or the end of a statement. -/
def operandOrSemicolon : List Terminal := .semicolon :: operand

/-- An operand, or the end of a list. -/
def operandOrClose : List Terminal := .rpar :: operand

/-- What continues an expression behind an operand. -/
def operator : List Terminal :=
  [.lpar, .equal, .orOp, .andOp, .eqOp, .cmpOp, .plus, .minus, .star, .slash, .percent]

/-- Behind an operand: more of the expression, or the end of what encloses it. -/
def afterOperand : List Terminal := [.comma, .rpar, .semicolon] ++ operator

/-- Behind a name at the beginning of a statement, which may turn out to be a type. -/
def leadingName : List Terminal := [.name, .amp, .semicolon] ++ operator

/-- The beginning of a statement, or the end of a block. -/
def statement : List Terminal :=
  [.lbrace, .rbrace, .semicolon, .kwReturn, .kwThrow, .kwTry, .kwIf, .kwWhile, .kwDo, .kwFor,
    .kwBreak, .kwContinue] ++ type ++ operand

/-- Behind a block, wherever it stands. -/
def afterBlock : List Terminal := [.kwCatch, .kwElse] ++ statement ++ item

/-- The first part of a `for`. -/
def forInit : List Terminal := .semicolon :: (type ++ operand)

/-- Behind the name of a type. -/
def typeName : List Terminal := [.name, .amp, .comma, .rpar, .semicolon]

/-- Behind a whole type. -/
def afterType : List Terminal := [.name, .comma, .rpar, .semicolon]

/-- A type, or the end of a list. -/
def typeOrClose : List Terminal := .rpar :: type

/-- Behind the parameters of a function. -/
def afterParams : List Terminal := [.kwThrows, .kwNoexcept, .semicolon, .lbrace]

/-- Behind the parameters of a function type. -/
def afterFunctionType : List Terminal := [.kwThrows, .kwNoexcept] ++ afterType

/-- Behind an exception clause. -/
def afterClause : List Terminal := [.kwThrows, .kwNoexcept, .lbrace] ++ afterType

/-- What a `throws` clause lists. -/
def thrown : List Terminal := [.name, .ellipsis]

/-- What a `throws` clause lists, or its end. -/
def thrownOrClose : List Terminal := .rpar :: thrown

/-- What a `catch` names. -/
def caught : List Terminal := .ellipsis :: type

/-- Behind an item of a list. -/
def commaOrClose : List Terminal := [.comma, .rpar]

/-- Behind the name of a local variable. -/
def initializer : List Terminal := [.equal, .semicolon]

/-- Behind `else`. -/
def otherwise : List Terminal := [.lbrace, .kwIf]

end Follow

end Throws.Surface
