import Backtest.Language.Expr

/-!
# Failures of the language

Why a text is no expression, why an expression has no value, and where in a script that happened.
The causes are data; each has its wording in one function.
-/

namespace Backtest.Language

/-- Why a text is no expression. -/
inductive SyntaxFault where
  | expectedChar (wanted : Char) (found : Option Char)
  /-- Carries the word or character found, or nothing at the end of the text. -/
  | expectedExpression (found : Option String)
  | expectedNumber
  | expectedExponentDigits
  | invalidNumber (digits : String)
  | unterminatedString
  | chainedComparison
  /-- Carries what was left over. -/
  | unexpectedInput (rest : String)
  deriving DecidableEq, Repr

/-- The wording of a syntax fault. -/
def SyntaxFault.message : SyntaxFault → String
  | .expectedChar wanted (some found) =>
    "expected '" ++ wanted.toString ++ "', found '" ++ found.toString ++ "'"
  | .expectedChar wanted none => "expected '" ++ wanted.toString ++ "', found end of input"
  | .expectedExpression (some found) => "expected expression, found '" ++ found ++ "'"
  | .expectedExpression none => "expected expression, found 'end of input'"
  | .expectedNumber => "expected number"
  | .expectedExponentDigits => "expected exponent digits"
  | .invalidNumber digits => "invalid number: " ++ digits
  | .unterminatedString => "unterminated string literal"
  | .chainedComparison => "chained comparisons are not supported"
  | .unexpectedInput rest => "unexpected input after expression: '" ++ rest ++ "'"

/-- A syntax fault and the number of bytes of the text that stand before it. -/
structure ParseError where
  fault : SyntaxFault
  position : Nat
  deriving DecidableEq, Repr

/-- The wording of a parse error. -/
def ParseError.message (e : ParseError) : String :=
  "parse error at position " ++ toString e.position ++ ": " ++ e.fault.message

/-- The text, a line with a caret behind `position` spaces, and the wording. -/
def ParseError.context (e : ParseError) (text : String) : String :=
  text ++ "\n" ++ String.ofList (List.replicate e.position ' ') ++ "^\n" ++ e.message

/-- Why values do not fit an operation. Types are given by their names. -/
inductive TypeFault where
  | integerOverflow
  | negation (operand : String)
  | operands (op : ArithmeticOp) (left right : String)
  | unordered (op : OrderOp) (left right : String)
  | incomparable (item best : String)
  | emptySequence (function : String)
  | absolute (operand : String)
  | length (operand : String)
  | integerLiteral (text : String)
  | integerOf (operand : String)
  | floatLiteral (text : String)
  | floatOf (operand : String)
  | rounding (operand : String)
  | iteration (operand : String)
  /-- A function of the host got an argument of another kind than it wants. -/
  | argument (function expected found : String)
  deriving DecidableEq, Repr

/-- The wording of a type fault. -/
def TypeFault.message : TypeFault → String
  | .integerOverflow => "integer overflow"
  | .negation operand => "bad operand type for unary -: '" ++ operand ++ "'"
  | .operands op left right =>
    "unsupported operand type(s) for " ++ op.symbol ++ ": '" ++ left ++ "' and '" ++ right ++ "'"
  | .unordered op left right =>
    "'" ++ op.symbol ++ "' not supported between instances of '" ++ left ++ "' and '" ++ right ++ "'"
  | .incomparable item best => "'" ++ item ++ "' and '" ++ best ++ "' are not comparable"
  | .emptySequence function => function ++ "() arg is an empty sequence"
  | .absolute operand => "bad operand type for abs(): '" ++ operand ++ "'"
  | .length operand => "object of type '" ++ operand ++ "' has no len()"
  | .integerLiteral text => "invalid literal for int(): " ++ Text.quote text
  | .integerOf operand =>
    "int() argument must be a string or a number, not '" ++ operand ++ "'"
  | .floatLiteral text => "could not convert string to float: " ++ Text.quote text
  | .floatOf operand =>
    "float() argument must be a string or a number, not '" ++ operand ++ "'"
  | .rounding operand => "type " ++ operand ++ " doesn't define __round__"
  | .iteration operand => "'" ++ operand ++ "' object is not iterable"
  | .argument function expected found =>
    function ++ "() expected " ++ expected ++ ", got " ++ found

/-- How many arguments a function takes. -/
inductive ArgumentCount where
  | exactly (n : Nat)
  | atLeast (n : Nat)
  | either (n m : Nat)
  deriving DecidableEq, Repr

/-- The wording of an argument count. -/
def ArgumentCount.text : ArgumentCount → String
  | .exactly n => toString n
  | .atLeast n => "at least " ++ toString n
  | .either n m => toString n ++ " or " ++ toString m

/-- Why an expression has no value. -/
inductive EvalError where
  | parse (error : ParseError)
  | undefinedName (name : String)
  | unknownFunction (name : String)
  | arity (function : String) (expected : ArgumentCount) (found : Nat)
  | type (fault : TypeFault)
  | zeroDivision
  /-- A text would take this many bytes. -/
  | memory (length : Nat)
  /-- A function of the host failed. -/
  | host (message : String)
  deriving DecidableEq, Repr

/-- The wording of an evaluation error. -/
def EvalError.message : EvalError → String
  | .parse error => error.message
  | .undefinedName name => "name '" ++ name ++ "' is not defined"
  | .unknownFunction name => "unknown function '" ++ name ++ "'"
  | .arity function expected found =>
    function ++ "() takes " ++ expected.text ++ " argument(s), got " ++ toString found
  | .type fault => "type error: " ++ fault.message
  | .zeroDivision => "division by zero"
  | .memory length => "result of " ++ toString length ++ " bytes exceeds the string limit"
  | .host message => message

/-- An evaluation error and the number of the line, counted from one, that it arose on. -/
structure ScriptError where
  line : Nat
  cause : EvalError
  deriving DecidableEq, Repr

/-- The wording of a script error. -/
def ScriptError.message (e : ScriptError) : String :=
  "line " ++ toString e.line ++ ": " ++ e.cause.message

end Backtest.Language
