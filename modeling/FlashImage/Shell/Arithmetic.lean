import FlashImage.Ron.Lexeme
import FlashImage.Text.Numeral

/-!
Expressions of whole numbers in scripts.

An expression is read into a tree, and its value depends on the values of variables, which it may
change. Numbers have 64 bits. Where an expression cannot be read the tree ends with a fault, so
that what stands before it still has its effects.
-/

set_option autoImplicit false
set_option relaxedAutoImplicit false

namespace FlashImage.Shell

/-- An operator between two numbers. -/
inductive BinaryOperator
  | times
  | over
  | modulo
  | plus
  | minus
  | shiftLeft
  | shiftRight
  | less
  | atMost
  | greater
  | atLeast
  | equal
  | unequal
  | bitAnd
  | bitXor
  | bitOr
  deriving DecidableEq, Repr

/-- An operator before a number. -/
inductive UnaryOperator
  | negate
  | invert
  | not
  deriving DecidableEq, Repr

/-- An expression. -/
inductive Expression
  | number (n : Int64)
  | name (s : String)
  | unary (o : UnaryOperator) (e : Expression)
  | binary (o : BinaryOperator) (a b : Expression)
  | both (a b : Expression)
  | either (a b : Expression)
  | choice (condition yes no : Expression)
  /-- Gives a variable a value, which an operator may join with the one that it has. -/
  | assign (name : String) (o : Option BinaryOperator) (e : Expression)
  /-- The place where an expression cannot be read. -/
  | fault (wording : String)
  /-- An expression, and what stands behind it in its place. -/
  | before (e rest : Expression)
  deriving Repr

/-- A part of an expression that stands for itself. -/
inductive ExpressionToken
  | number (n : Int64)
  | name (s : String)
  | sign (s : String)
  deriving DecidableEq, Repr

def numberLimit : Int := 9223372036854775808

def clamped (n : Int) : Int64 := Int64.ofInt (max (-numberLimit) (min n (numberLimit - 1)))

/-- Reads the digits at the start of a text, in base 16 or 8 by its start, or else in base 10. -/
def readNatural (s : List Char) : Option (Nat × List Char) :=
  let digits (base : Nat) (s : List Char) : Nat × List Char :=
    let taken := s.takeWhile fun c => (Text.digitValue? base c).isSome
    (taken.foldl (fun n d => n * base + (Text.digitValue? base d).getD 0) 0, s.drop taken.length)
  match s with
  | '0' :: x :: c :: rest =>
    if (x = 'x' ∨ x = 'X') ∧ (Text.digitValue? 16 c).isSome then some (digits 16 (c :: rest))
    else some (digits 8 ('0' :: x :: c :: rest))
  | c :: rest => if c.isDigit then some (digits (if c = '0' then 8 else 10) (c :: rest)) else none
  | [] => none

/-- The signs of expressions, each before the signs that it starts with. -/
def expressionSigns : List String :=
  ["<<=", ">>=", "&&", "||", "<<", ">>", "<=", ">=", "==", "!=", "+=", "-=", "*=", "/=", "%=",
    "&=", "^=", "|=", "=", "<", ">", "+", "-", "*", "/", "%", "!", "~", "&", "^", "|", "?", ":",
    "(", ")"]

/-- Reads the tokens of an expression. What cannot be read is a sign of its own. -/
def readExpressionTokens : (limit : Nat) → List Char → List ExpressionToken
  | 0, _ => []
  | _ + 1, [] => []
  | limit + 1, c :: rest =>
    if c = ' ' ∨ c = '\t' ∨ c = '\n' then readExpressionTokens limit rest
    else if Ron.isNameStart c then
      let name := (c :: rest).takeWhile Ron.isNameChar
      .name (String.ofList name) :: readExpressionTokens limit ((c :: rest).drop name.length)
    else
      match readNatural (c :: rest) with
      | some (n, rest) => .number (clamped n) :: readExpressionTokens limit rest
      | none =>
        match expressionSigns.find? fun s => s.toList.isPrefixOf (c :: rest) with
        | some s => .sign s :: readExpressionTokens limit ((c :: rest).drop s.length)
        | none => [.sign c.toString]

/-- The operator between numbers that a sign stands for, and its level: lower levels bind more. -/
def binaryOperator? : String → Option (BinaryOperator × Nat)
  | "*" => some (.times, 0)
  | "/" => some (.over, 0)
  | "%" => some (.modulo, 0)
  | "+" => some (.plus, 1)
  | "-" => some (.minus, 1)
  | "<<" => some (.shiftLeft, 2)
  | ">>" => some (.shiftRight, 2)
  | "<" => some (.less, 3)
  | "<=" => some (.atMost, 3)
  | ">" => some (.greater, 3)
  | ">=" => some (.atLeast, 3)
  | "==" => some (.equal, 4)
  | "!=" => some (.unequal, 4)
  | "&" => some (.bitAnd, 5)
  | "^" => some (.bitXor, 6)
  | "|" => some (.bitOr, 7)
  | _ => none

def topLevel : Nat := 8

/-- The operator that joins a value with an earlier one, for a sign that gives a variable a value.
-/
def assigning? (sign : String) : Option (Option BinaryOperator) :=
  if sign = "=" then some none
  else if ["<=", ">=", "==", "!="].contains sign then none
  else if sign.endsWith "=" then
    match binaryOperator? (String.ofList sign.toList.dropLast) with
    | some (o, _) => some (some o)
    | none => none
  else none

/-- What the reading of an expression comes to. -/
inductive ExpressionResult
  | read (e : Expression) (rest : List ExpressionToken)
  /-- An expression that ends with a fault. -/
  | broken (e : Expression)

namespace ExpressionResult

def map (f : Expression → Expression) : ExpressionResult → ExpressionResult
  | read e rest => read (f e) rest
  | broken e => broken (f e)

/-- Goes on behind an expression. One that ends with a fault is put into a larger one. -/
def andThen (r : ExpressionResult) (whole : Expression → Expression)
    (next : Expression → List ExpressionToken → ExpressionResult) : ExpressionResult :=
  match r with
  | read e rest => next e rest
  | broken e => broken (whole e)

def faultBehind (e : Expression) (wording : String) : ExpressionResult :=
  broken (.before e (.fault wording))

def missing : ExpressionResult := broken (.fault "expecting primary")

end ExpressionResult

/-- Reads the operand of operators. `whole` reads an expression. -/
def readOperand (whole : List ExpressionToken → ExpressionResult) :
    List ExpressionToken → ExpressionResult
  | .number n :: rest => .read (.number n) rest
  | .name s :: rest => .read (.name s) rest
  | .sign "(" :: rest =>
    (whole rest).andThen id fun e rest =>
      match rest with
      | .sign ")" :: rest => .read e rest
      | _ => .faultBehind e "expecting ')'"
  | .sign "+" :: rest => readOperand whole rest
  | .sign "-" :: rest => (readOperand whole rest).map (.unary .negate)
  | .sign "~" :: rest => (readOperand whole rest).map (.unary .invert)
  | .sign "!" :: rest => (readOperand whole rest).map (.unary .not)
  | _ => .missing

def readOperators (operand : List ExpressionToken → ExpressionResult) : (limit level : Nat) →
    Expression → List ExpressionToken → ExpressionResult
  | 0, _, e, rest => .read e rest
  | limit + 1, level, e, rest =>
    match rest with
    | .sign s :: behind =>
      match binaryOperator? s with
      | some (o, n) =>
        if n < level then
          (operand behind).andThen (.binary o e) fun b behind =>
            (readOperators operand limit n b behind).andThen (.binary o e) fun b behind =>
              readOperators operand limit level (.binary o e b) behind
        else .read e rest
      | none => .read e rest
    | _ => .read e rest

def readChain (sign : String) (join : Expression → Expression → Expression)
    (part : List ExpressionToken → ExpressionResult) : (limit : Nat) → List ExpressionToken →
    ExpressionResult
  | 0, tokens => part tokens
  | limit + 1, tokens =>
    (part tokens).andThen id fun e rest =>
      match rest with
      | .sign s :: behind =>
        if s = sign then (readChain sign join part limit behind).map (join e) else .read e rest
      | _ => .read e rest

/-- Reads a choice between two expressions, or an expression without one. -/
def readConditional (whole : List ExpressionToken → ExpressionResult) :
    (limit : Nat) → List ExpressionToken → ExpressionResult
  | 0, _ => .missing
  | limit + 1, tokens =>
    let operand := readOperand whole
    let joined (tokens : List ExpressionToken) : ExpressionResult :=
      (operand tokens).andThen id fun e rest =>
        readOperators operand (tokens.length + 1) topLevel e rest
    let all := readChain "&&" .both joined tokens.length
    (readChain "||" .either all tokens.length tokens).andThen id fun e rest =>
      match rest with
      | .sign "?" :: rest =>
        let choice (yes : Expression) : Expression := .choice e yes (.number 0)
        (whole rest).andThen choice fun yes rest =>
          match rest with
          | .sign ":" :: rest => (readConditional whole limit rest).map (.choice e yes)
          | _ => (ExpressionResult.faultBehind yes "expecting ':'").map choice
      | rest => .read e rest

def readExpression : (limit : Nat) → List ExpressionToken → ExpressionResult
  | 0, _ => .missing
  | limit + 1, tokens =>
    let other := readConditional (readExpression limit) limit tokens
    match tokens with
    | .name s :: .sign sign :: rest =>
      match assigning? sign with
      | some o => (readExpression limit rest).map (.assign s o)
      | none => other
    | _ => other

def Expression.ofText (s : String) : Expression :=
  let tokens := readExpressionTokens (s.length + 1) s.toList
  match readExpression (tokens.length + 2) tokens with
  | .read e [] => e
  | .read e _ => .before e (.fault "expecting EOF")
  | .broken e => e

def ofTruth (b : Bool) : Int64 := if b then 1 else 0

def BinaryOperator.apply? (o : BinaryOperator) (a b : Int64) : Option Int64 :=
  match o with
  | .times => some (a * b)
  | .over => if b = 0 then none else some (a / b)
  | .modulo => if b = 0 then none else some (a % b)
  | .plus => some (a + b)
  | .minus => some (a - b)
  | .shiftLeft => some (a <<< b)
  | .shiftRight => some (a >>> b)
  | .less => some (ofTruth (a < b))
  | .atMost => some (ofTruth (a ≤ b))
  | .greater => some (ofTruth (a > b))
  | .atLeast => some (ofTruth (a ≥ b))
  | .equal => some (ofTruth (a = b))
  | .unequal => some (ofTruth (a ≠ b))
  | .bitAnd => some (a &&& b)
  | .bitXor => some (a ^^^ b)
  | .bitOr => some (a ||| b)

def UnaryOperator.apply (o : UnaryOperator) (n : Int64) : Int64 :=
  match o with
  | .negate => -n
  | .invert => ~~~n
  | .not => ofTruth (n = 0)

/-- What the value of an expression depends on. -/
structure Evaluation (m : Type → Type) where
  get : String → m Int64
  set : String → Int64 → m Unit
  fail : (wording : String) → m Int64

/-- The value of an expression. Nothing is done in a part that is passed over, but for its faults.
-/
def Expression.eval {m : Type → Type} [Monad m] (v : Evaluation m) (passed : Bool) :
    Expression → m Int64
  | .number n => return n
  | .name s => if passed then return 0 else v.get s
  | .unary o e => do return o.apply (← e.eval v passed)
  | .binary o a b => do
    let a ← a.eval v passed
    let b ← b.eval v passed
    join passed o a b
  | .both a b => do
    let a ← a.eval v passed
    let b ← b.eval v (passed || a = 0)
    return ofTruth (a ≠ 0 && b ≠ 0)
  | .either a b => do
    let a ← a.eval v passed
    let b ← b.eval v (passed || a ≠ 0)
    return ofTruth (a ≠ 0 || b ≠ 0)
  | .choice condition yes no => do
    let condition ← condition.eval v passed
    let yes ← yes.eval v (passed || condition = 0)
    let no ← no.eval v (passed || condition ≠ 0)
    return if condition ≠ 0 then yes else no
  | .assign s o e => do
    let n ← e.eval v passed
    if passed then return n
    let n ←
      match o with
      | none => pure n
      | some o => do join passed o (← v.get s) n
    v.set s n
    return n
  | .fault wording => v.fail wording
  | .before e rest => do
    let _ ← e.eval v passed
    rest.eval v passed
where
  join (passed : Bool) (o : BinaryOperator) (a b : Int64) : m Int64 := do
    if passed then return b
    match o.apply? a b with
    | some n => return n
    | none => v.fail "division by zero"

/-- The number that a whole text stands for, in base 16 or 8 by its start, or else in base 10. -/
def integerOf? (s : String) : Option Int64 :=
  let isBlank (c : Char) : Bool := c = ' ' || ('\t' ≤ c && c ≤ '\x0d')
  let (negative, digits) :=
    match s.toList.dropWhile isBlank with
    | '-' :: digits => (true, digits)
    | '+' :: digits => (false, digits)
    | digits => (false, digits)
  match readNatural digits with
  | some (n, rest) =>
    if rest.all isBlank then some (clamped (if negative then -(n : Int) else n)) else none
  | none => none

end FlashImage.Shell
