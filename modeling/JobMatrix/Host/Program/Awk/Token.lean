import JobMatrix.Host.Program.Awk.Syntax
import JobMatrix.Text.Octets

/-! The words of a program. Ends of lines are left out where they separate nothing: at the start, after
one another, and after a brace, a semicolon, a comma, an operator that joins conditions, `do` and
`else`. -/

namespace JobMatrix.Program.Awk

inductive Cause where
  | near (token : String)
  | missing (mark : Char) (token : String)
  | extra (mark : Char)
  | openText (start : String)
  | openPattern (start : String)
  | unexpected (c : Char)
  | flaw (source : String) (p : Regex.Problem)
  | notArray (name : String)
  | notVariable (name : String)
  | wrongArguments (name : String)
  | noArguments (name : String)
  | misplaced (word : String)
  | outsideLoop (word : String)
deriving DecidableEq, Repr

namespace Cause

def text : Cause → String
  | near token => "syntax error at or near " ++ token
  | missing mark token => "missing " ++ String.singleton mark ++ " near " ++ token
  | extra mark => "extra '" ++ String.singleton mark ++ "'"
  | openText start => "runaway string constant \"" ++ start ++ " ..."
  | openPattern start => "runaway regular expression /" ++ start ++ " ..."
  | unexpected c => "unexpected character '" ++ String.singleton c ++ "'"
  | flaw source p => "regular expression compile failed (" ++ flawText p ++ ")\n" ++ source
  | notArray name => "illegal reference to variable " ++ name
  | notVariable name => "illegal reference to array " ++ name
  | wrongArguments name => "wrong number of arguments in call to " ++ name
  | noArguments name => "no arguments in call to " ++ name
  | misplaced word => "improper use of " ++ word
  | outsideLoop word => word ++ " statement outside of loop"

def isFinal : Cause → Bool
  | near _ => false
  | missing _ _ => false
  | extra _ => false
  | _ => true

end Cause

structure Flaw where
  line : Nat
  cause : Cause
deriving Repr

def Flaw.message (f : Flaw) : String :=
  match f.cause with
  | .unexpected _ => "awk: " ++ toString f.line ++ ": " ++ f.cause.text
  | _ => "awk: line " ++ toString f.line ++ ": " ++ f.cause.text

inductive Token where
  | number (x : Double) (text : String)
  | text (s : String)
  | pattern (source : String)
  | name (s : String)
  | builtin (b : Builtin)
  | word (s : String)
  | mark (s : String)
  | newline
  | finish
  /-- What cannot be read. -/
  | flawed (c : Cause)
deriving DecidableEq, Repr, Inhabited

namespace Token

def shown : Token → String
  | number _ s => s
  | text s => "\"" ++ s ++ "\""
  | pattern s => "/" ++ s ++ "/"
  | name s => s
  | builtin b => b.name
  | word s => s
  | mark s => s
  | newline => "end of line"
  | finish => "end of file"
  | flawed _ => ""

def isOperand : Token → Bool
  | number _ _ => true
  | text _ => true
  | pattern _ => true
  | name _ => true
  | builtin _ => true
  | mark s => [")", "]", "$", "++", "--"].contains s
  | _ => false

def joinsLines : Token → Bool
  | newline => true
  | word s => s == "do" || s == "else"
  | mark s => ["\x7b", "\x7d", ";", ",", "&&", "||"].contains s
  | _ => false

def words : List String :=
  ["BEGIN", "END", "if", "else", "while", "for", "do", "break", "continue", "next", "nextfile", "exit",
   "delete", "in", "print", "printf"]

def marks : List String :=
  ["&&", "||", "==", "!=", "<=", ">=", ">>", "++", "--", "+=", "-=", "*=", "/=", "%=", "^=", "!~",
   "\x7b", "\x7d", "(", ")", "[", "]", ";", ",", "+", "-", "*", "/", "%", "^", "!", "<", ">", "|",
   "?", ":", "~", "$", "="]

end Token

structure Lexeme where
  token : Token
  line : Nat
  parens : Nat
deriving Repr, Inhabited

/-- The character that an escape stands for, and how many characters it takes after the backslash;
none if the backslash stands for itself. -/
def escape? (cs : List Char) : Option (Char × Nat) :=
  match cs with
  | '"' :: _ => some ('"', 1)
  | '\\' :: _ => some ('\\', 1)
  | 'a' :: _ => some ('\x07', 1)
  | 'b' :: _ => some ('\x08', 1)
  | 't' :: _ => some ('\t', 1)
  | 'n' :: _ => some ('\n', 1)
  | 'v' :: _ => some ('\x0b', 1)
  | 'f' :: _ => some ('\x0c', 1)
  | 'r' :: _ => some ('\r', 1)
  | 'x' :: rest =>
    let digits := (rest.take 2).takeWhile fun c => (Number.hexDigit? c).isSome
    if digits.isEmpty then none
    else some (unit (Number.natOfHex digits), digits.length + 1)
  | _ =>
    let digits := (cs.take 3).takeWhile fun c => '0' ≤ c && c ≤ '7'
    if digits.isEmpty then none
    else some (unit (digits.foldl (fun n c => 8 * n + (c.toNat - 48)) 0), digits.length)
where
  unit (n : Nat) : Char := ((Octets.units false [UInt8.ofNat n]).head?).getD '\x00'

def unescaped (skip : Nat) : List Char → List Char
  | [] => []
  | c :: rest =>
    match skip with
    | n + 1 => unescaped n rest
    | 0 =>
      if c == '\\' then
        match escape? rest with
        | some (d, n) => d :: unescaped n rest
        | none => c :: unescaped 0 rest
      else c :: unescaped 0 rest

/-- The characters between quotes, as they are written, and what follows; none if the line ends
before them. -/
def quoted? : List Char → Option (List Char × List Char)
  | [] => none
  | '"' :: rest => some ([], rest)
  | '\n' :: _ => none
  | '\\' :: '\n' :: rest => quoted? rest
  | '\\' :: c :: rest => (quoted? rest).map fun (s, r) => ('\\' :: c :: s, r)
  | c :: rest => (quoted? rest).map fun (s, r) => (c :: s, r)

/-- The characters between slashes, and what follows; a slash between brackets ends nothing. -/
def slashed? (inside : Bool) : List Char → Option (List Char × List Char)
  | [] => none
  | '\n' :: _ => none
  | '\\' :: '/' :: rest => (slashed? inside rest).map fun (s, r) => ('/' :: s, r)
  | '\\' :: c :: rest => (slashed? inside rest).map fun (s, r) => ('\\' :: c :: s, r)
  | '/' :: rest =>
    if inside then (slashed? true rest).map fun (s, r) => ('/' :: s, r) else some ([], rest)
  | '[' :: '^' :: ']' :: rest =>
    (slashed? true rest).map fun (s, r) => ('[' :: '^' :: ']' :: s, r)
  | '[' :: ']' :: rest => (slashed? true rest).map fun (s, r) => ('[' :: ']' :: s, r)
  | '[' :: rest => (slashed? true rest).map fun (s, r) => ('[' :: s, r)
  | ']' :: rest => (slashed? false rest).map fun (s, r) => (']' :: s, r)
  | c :: rest => (slashed? inside rest).map fun (s, r) => (c :: s, r)

/-- The number with which a text starts, written with digits, a point and an exponent. -/
def numeral? (cs : List Char) : Option (Double × String × List Char) :=
  match cs with
  | '0' :: c :: _ =>
    if c == 'x' || c == 'X' then some (Double.zero, "0", cs.drop 1) else plain
  | _ => plain
where
  plain : Option (Double × String × List Char) :=
    match Number.leading? cs with
    | some (x, rest) =>
      some (x.toDouble, String.ofList (cs.take (cs.length - rest.length)), rest)
    | none => none

def isNameStart (c : Char) : Bool := c.isAlpha || c == '_'

def isNameChar (c : Char) : Bool := c.isAlphanum || c == '_'

def nameToken (name : List Char) : Token :=
  let s := String.ofList name
  if Token.words.contains s then .word s
  else match Builtin.named? s with
    | some b => .builtin b
    | none => .name s

/-- The first token of a text, what follows, and how many lines were passed; `last` is the token
before it. -/
def token (last : Token) (cs : List Char) : Token × List Char :=
  match cs with
  | [] => (.finish, [])
  | c :: rest =>
    if c.isDigit || (c == '.' && (rest.head?.elim false Char.isDigit)) then
      match numeral? cs with
      | some (x, s, r) => (.number x s, r)
      | none => (.flawed (.unexpected c), rest)
    else if isNameStart c then
      let name := cs.takeWhile isNameChar
      let r := cs.drop name.length
      (nameToken name, r)
    else if c == '"' then
      match quoted? rest with
      | some (s, r) => (.text (String.ofList (unescaped 0 s)), r)
      | none => (.flawed (.openText (String.ofList ((rest.takeWhile (· != '\n')).take 10))), [])
    else if c == '/' && !last.isOperand then
      match slashed? false rest with
      | some (s, r) => (.pattern (String.ofList s), r)
      | none => (.flawed (.openPattern (String.ofList ((rest.takeWhile (· != '\n')).take 10))), [])
    else
      match Token.marks.find? fun m => m.toList.isPrefixOf cs with
      | some m => (.mark m, cs.drop m.length)
      | none => (.flawed (.unexpected c), rest)

def tokens (line parens braces : Nat) (last : Token) : Nat → List Char → List Lexeme
  | 0, _ => []
  | fuel + 1, cs =>
    match cs with
    | [] => [{ token := .finish, line, parens }]
    | '\\' :: '\n' :: rest => tokens (line + 1) parens braces last fuel rest
    | '\\' :: '\r' :: '\n' :: rest => tokens (line + 1) parens braces last fuel rest
    | '\n' :: rest =>
      if last.joinsLines then tokens (line + 1) parens braces last fuel rest
      else
        { token := .newline, line, parens } :: tokens (line + 1) parens braces .newline fuel rest
    | '#' :: rest =>
      tokens line parens braces last fuel (rest.dropWhile (· != '\n'))
    | c :: rest =>
      if c == ' ' || c == '\t' || c == '\r' || c == '\x0c' || c == '\x0b' then
        tokens line parens braces last fuel rest
      else
        let (t, after) := token last cs
        let passed := cs.length - after.length
        let line' := line + ((cs.take passed).filter (· == '\n')).length
        match t with
        | .mark "(" => { token := t, line, parens := parens + 1 } ::
            tokens line' (parens + 1) braces t fuel after
        | .mark ")" =>
          if parens == 0 then
            { token := .flawed (.extra ')'), line, parens } :: tokens line' 0 braces last fuel after
          else { token := t, line, parens := parens - 1 } ::
            tokens line' (parens - 1) braces t fuel after
        | .mark "\x7b" => { token := t, line, parens } ::
            tokens line' parens (braces + 1) t fuel after
        | .mark "\x7d" =>
          if braces == 0 then
            { token := .flawed (.extra '\x7d'), line, parens } ::
              tokens line' parens 0 (.mark ")") fuel after
          else { token := t, line, parens } :: tokens line' parens (braces - 1) t fuel after
        | _ => { token := t, line, parens } :: tokens line' parens braces t fuel after

def tokensOf (text : List Char) : List Lexeme :=
  let text := text ++ ['\n']
  tokens 1 0 0 .newline (text.length + 1) text

end JobMatrix.Program.Awk
