import JobMatrix.Text.Octets

/-! Shell scripts: words made of pieces that are yet to be expanded, redirections and commands. -/

namespace JobMatrix.Shell

/-- What is done with the value of a parameter. A `strict` operation counts an empty value as a
missing one. -/
inductive Operation where
  | value
  | length
  | orElse (strict : Bool)
  | orAssign (strict : Bool)
  | orFail (strict : Bool)
  | ifSet (strict : Bool)
  | cutEnd (longest : Bool)
  | cutStart (longest : Bool)
  | malformed
deriving DecidableEq, Repr, Inhabited

inductive RedirectKind where
  | read
  | write
  /-- Writes even where files that are there are kept. -/
  | overwrite
  | append
  | readWrite
  /-- A copy of the descriptor that the word names. -/
  | copy
  /-- The word itself is the input. -/
  | here
deriving DecidableEq, Repr, Inhabited

mutual

/-- A piece of a word. Quoted pieces are neither split nor matched against file names. -/
inductive Piece where
  | text (s : String) (quoted : Bool)
  | parameter (name : String) (operation : Operation) (word : List Piece) (quoted : Bool)
  /-- The output of a script. -/
  | output (s : Script) (quoted : Bool)
  | arithmetic (expression : List Piece) (quoted : Bool)
  /-- A tilde for the home directory of a user, or one's own if there is no name. -/
  | home (user : String)

inductive Redirect where
  | mk (descriptor : Nat) (kind : RedirectKind) (target : List Piece)

inductive Script where
  | nothing
  | simple (line : Nat) (assignments : List (String × List Piece)) (words : List (List Piece))
      (redirects : List Redirect)
  | pipeline (parts : List Script)
  | negate (s : Script)
  | both (a b : Script)
  | either (a b : Script)
  | sequence (a b : Script)
  | background (s : Script)
  | subshell (s : Script)
  | redirected (line : Nat) (s : Script) (redirects : List Redirect)
  | branch (test yes no : Script)
  | loop (untilTrue : Bool) (test body : Script)
  | each (line : Nat) (name : String) (words : Option (List (List Piece))) (body : Script)
  | choose (line : Nat) (subject : List Piece) (arms : List (List (List Piece) × Script))
  | define (name : String) (body : Script)

end

instance : Inhabited Script := ⟨.nothing⟩

abbrev Word := List Piece

namespace Redirect

def descriptor : Redirect → Nat
  | mk d _ _ => d

def kind : Redirect → RedirectKind
  | mk _ k _ => k

def target : Redirect → Word
  | mk _ _ w => w

end Redirect

def plainText? : Word → Option String
  | [.text s false] => some s
  | _ => none

def isNameStart (c : Char) : Bool := c.isAlpha || c == '_'

def isNameChar (c : Char) : Bool := c.isAlphanum || c == '_'

def isName (s : String) : Bool :=
  match s.toList with
  | c :: rest => isNameStart c && rest.all isNameChar
  | [] => false

/-- The name before an equals sign at the start of a text, and what follows the sign. -/
def assigned? (s : String) : Option (String × String) :=
  let name := String.ofList (s.toList.takeWhile (· != '='))
  match s.toList.drop name.length with
  | '=' :: value => if isName name then some (name, String.ofList value) else none
  | _ => none

end JobMatrix.Shell
