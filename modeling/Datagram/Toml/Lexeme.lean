import Datagram.Text.Digits

/-!
# The smallest parts of a TOML text

Blanks, line ends, comments, quoted strings and keys. A part that is recognised gives the rest of the
text behind it, and its value where one is needed: of strings only a key's own text ever matters, so
multi-line strings are recognised and not kept.
-/

namespace Datagram.Toml

abbrev Parser (α : Type) := List Char → Option (α × List Char)

def isBlank (c : Char) : Bool := c = ' ' || c = '\t'

def skipBlanks (cs : List Char) : List Char := cs.dropWhile isBlank

/-- What may stand in a comment or a literal string: no control character but the tab. -/
def isPlain (c : Char) : Bool := c = '\t' || (0x20 ≤ c.toNat && c.toNat ≠ 0x7F)

def skipComment : List Char → List Char
  | '#' :: rest => rest.dropWhile isPlain
  | cs => cs

/-- The rest behind a line end. -/
def lineEnd? : List Char → Option (List Char)
  | '\n' :: rest => some rest
  | '\r' :: '\n' :: rest => some rest
  | _ => none

/-- The rest behind what may follow an expression: blanks, a comment, and the end of the line or of
the whole text. -/
def lineRest? (cs : List Char) : Option (List Char) :=
  match skipComment (skipBlanks cs) with
  | [] => some []
  | cs => lineEnd? cs

/-- Blanks, comments and line ends, as many as there are within the next `limit` steps. -/
def skipLines : Nat → List Char → List Char
  | 0, cs => cs
  | limit + 1, cs =>
    let cs := skipComment (skipBlanks cs)
    match lineEnd? cs with
    | some rest => skipLines limit rest
    | none => cs

def skipAllLines (cs : List Char) : List Char := skipLines (cs.length + 1) cs

def escaped? : Char → Option Char
  | '"' => some '"'
  | '\\' => some '\\'
  | 'b' => some '\x08'
  | 'f' => some '\x0C'
  | 'n' => some '\n'
  | 'r' => some '\r'
  | 't' => some '\t'
  | _ => none

/-- The character with a code in hexadecimal, if there is one. -/
def coded? (digits : List Char) : Option Char :=
  (Text.readDigits 16 digits).bind fun code =>
    if code.isValidChar then some (Char.ofNat code) else none

def isBasic (c : Char) : Bool := isPlain c && c != '"' && c != '\\'

/-- The text of a string behind its opening double quote. -/
def basicString : Parser (List Char)
  | '"' :: rest => some ([], rest)
  | '\\' :: 'u' :: a :: b :: c :: d :: rest => do
    let char ← coded? [a, b, c, d]
    let (text, rest) ← basicString rest
    pure (char :: text, rest)
  | '\\' :: 'U' :: a :: b :: c :: d :: e :: f :: g :: h :: rest => do
    let char ← coded? [a, b, c, d, e, f, g, h]
    let (text, rest) ← basicString rest
    pure (char :: text, rest)
  | '\\' :: letter :: rest => do
    let char ← escaped? letter
    let (text, rest) ← basicString rest
    pure (char :: text, rest)
  | c :: rest => do
    guard (isBasic c)
    let (text, rest) ← basicString rest
    pure (c :: text, rest)
  | [] => none

def isLiteral (c : Char) : Bool := isPlain c && c != '\''

/-- The text of a string behind its opening single quote. -/
def literalString (cs : List Char) : Option (List Char × List Char) :=
  match cs.dropWhile isLiteral with
  | '\'' :: rest => some (cs.takeWhile isLiteral, rest)
  | _ => none

/-- The rest behind a multi-line string, from behind its opening quotes on. Up to two quotes may stand
right before the closing ones. `folding` says that a backslash has been seen which only blanks may
separate from the end of its line. -/
def multiLineBasic : Bool → List Char → Option (List Char)
  | false, '"' :: '"' :: '"' :: '"' :: '"' :: rest => some rest
  | false, '"' :: '"' :: '"' :: '"' :: rest => some rest
  | false, '"' :: '"' :: '"' :: rest => some rest
  | false, '"' :: rest => multiLineBasic false rest
  | false, '\\' :: 'u' :: a :: b :: c :: d :: rest =>
    if (coded? [a, b, c, d]).isSome then multiLineBasic false rest else none
  | false, '\\' :: 'U' :: a :: b :: c :: d :: e :: f :: g :: h :: rest =>
    if (coded? [a, b, c, d, e, f, g, h]).isSome then multiLineBasic false rest else none
  | false, '\\' :: '\n' :: rest => multiLineBasic false rest
  | false, '\\' :: '\r' :: '\n' :: rest => multiLineBasic false rest
  | false, '\\' :: letter :: rest =>
    if isBlank letter then multiLineBasic true rest
    else if (escaped? letter).isSome then multiLineBasic false rest
    else none
  | _, '\n' :: rest => multiLineBasic false rest
  | _, '\r' :: '\n' :: rest => multiLineBasic false rest
  | false, c :: rest => if isBasic c then multiLineBasic false rest else none
  | true, c :: rest => if isBlank c then multiLineBasic true rest else none
  | _, [] => none

def multiLineLiteral : List Char → Option (List Char)
  | '\'' :: '\'' :: '\'' :: '\'' :: '\'' :: rest => some rest
  | '\'' :: '\'' :: '\'' :: '\'' :: rest => some rest
  | '\'' :: '\'' :: '\'' :: rest => some rest
  | '\'' :: rest => multiLineLiteral rest
  | '\n' :: rest => multiLineLiteral rest
  | '\r' :: '\n' :: rest => multiLineLiteral rest
  | c :: rest => if isPlain c then multiLineLiteral rest else none
  | [] => none

/-- The rest behind any string, from its opening quote on. -/
def anyString : List Char → Option (List Char)
  | '"' :: '"' :: '"' :: rest => multiLineBasic false rest
  | '\'' :: '\'' :: '\'' :: rest => multiLineLiteral rest
  | '"' :: rest => (basicString rest).map Prod.snd
  | '\'' :: rest => (literalString rest).map Prod.snd
  | _ => none

def isBareKey (c : Char) : Bool := c.isAlphanum || c = '_' || c = '-'

def simpleKey : Parser String
  | '"' :: rest => (basicString rest).map fun (text, rest) => (String.ofList text, rest)
  | '\'' :: rest => (literalString rest).map fun (text, rest) => (String.ofList text, rest)
  | cs =>
    let name := cs.takeWhile isBareKey
    if name.isEmpty then none else some (String.ofList name, cs.dropWhile isBareKey)

/-- The names of a key with points between them, at most `limit`. -/
def dottedKey : Nat → Parser (List String)
  | 0, _ => none
  | limit + 1, cs => do
    let (name, rest) ← simpleKey (skipBlanks cs)
    match skipBlanks rest with
    | '.' :: rest =>
      let (names, rest) ← dottedKey limit rest
      pure (name :: names, rest)
    | rest => pure ([name], rest)

/-- The most names that a key may have, and the most lists and tables that may be open at once. -/
def deepest : Nat := 79

def key : Parser (List String) := dottedKey deepest

end Datagram.Toml
