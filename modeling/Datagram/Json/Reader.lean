import Datagram.Document
import Datagram.Json.Token

/-!
# Reading JSON

Tokens become a document by a machine that keeps a stack of the lists and tables that are still
open. Words are numbers, `true`, `false` or `null`. Only a number that is written as digits alone,
without a leading zero, is a natural number; a sign, a fraction or an exponent makes it something
else. A table with a name that has no text can be read, but says nothing.
-/

namespace Datagram.Json

/-- An open list or table with what it holds so far, in reverse. A table's `names` tells whether all
of its names have a text. -/
inductive Frame where
  | list (items : List Document)
  | table (members : List (String × Document)) (names : Bool) (name : Option String)

/-- What may come next. `first` allows the list or table to end at once. -/
inductive Want where
  | value (first : Bool)
  | name (first : Bool)
  | colon
  | more
  | nothing (document : Document)

structure Reading where
  stack : List Frame := []
  want : Want := .value false

def isDigitRun (cs : List Char) : Bool := !cs.isEmpty && cs.all Char.isDigit

def isExponent : List Char → Bool
  | '+' :: digits | '-' :: digits => isDigitRun digits
  | digits => isDigitRun digits

/-- What may follow the whole part of a number. -/
def isNumberRest : List Char → Bool
  | [] => true
  | '.' :: rest =>
    let tail := rest.dropWhile Char.isDigit
    isDigitRun (rest.takeWhile Char.isDigit) &&
      match tail with
      | [] => true
      | 'e' :: digits | 'E' :: digits => isExponent digits
      | _ => false
  | 'e' :: digits | 'E' :: digits => isExponent digits
  | _ => false

def isUnsignedNumber (cs : List Char) : Bool :=
  let whole := cs.takeWhile Char.isDigit
  isDigitRun whole && !Text.startsWithSpareZero whole && isNumberRest (cs.dropWhile Char.isDigit)

def isNumber : List Char → Bool
  | '-' :: rest => isUnsignedNumber rest
  | cs => isUnsignedNumber cs

def wordDocument? (cs : List Char) : Option Document :=
  if isNumber cs then
    if cs.all Char.isDigit then (Text.readDigits 10 cs).map .natural else some .other
  else if ["true", "false", "null"].any fun word => word.toList = cs then some .other
  else none

/-- Puts a finished value where the innermost open list or table wants it. -/
def place (d : Document) : List Frame → Reading
  | [] => ⟨[], .nothing d⟩
  | .list items :: rest => ⟨.list (d :: items) :: rest, .more⟩
  | .table members names none :: rest => ⟨.table members names none :: rest, .more⟩
  | .table members names (some name) :: rest =>
    ⟨.table ((name, d) :: members) names none :: rest, .more⟩

def closeList? : List Frame → Option Reading
  | .list items :: rest => some (place (.list items.reverse) rest)
  | _ => none

def closeTable? : List Frame → Option Reading
  | .table members names _ :: rest =>
    some (place (if names then .table members.reverse else .other) rest)
  | _ => none

def takeValue? (first : Bool) (stack : List Frame) : Token → Option Reading
  | .beginList => some ⟨.list [] :: stack, .value true⟩
  | .beginTable => some ⟨.table [] true none :: stack, .name true⟩
  | .endList => if first then closeList? stack else none
  | .string _ => some (place .other stack)
  | .word cs => (wordDocument? cs).map fun d => place d stack
  | _ => none

def takeName? (first : Bool) (stack : List Frame) : Token → Option Reading
  | .string name =>
    match stack with
    | .table members names _ :: rest =>
      some ⟨.table members (names && name.isSome) name :: rest, .colon⟩
    | _ => none
  | .endTable => if first then closeTable? stack else none
  | _ => none

def takeMore? (stack : List Frame) : Token → Option Reading
  | .comma =>
    match stack with
    | .list _ :: _ => some ⟨stack, .value false⟩
    | .table .. :: _ => some ⟨stack, .name false⟩
    | [] => none
  | .endList => closeList? stack
  | .endTable => closeTable? stack
  | _ => none

def readToken (r : Reading) (token : Token) : Option Reading :=
  match r.want with
  | .value first => takeValue? first r.stack token
  | .name first => takeName? first r.stack token
  | .colon => if token = .colon then some { r with want := .value false } else none
  | .more => takeMore? r.stack token
  | .nothing _ => none

def finished? (r : Reading) : Option Document :=
  match r.want with
  | .nothing d => some d
  | _ => none

def ofTokens? (tokens : List Token) : Option Document :=
  (tokens.foldlM readToken {}).bind finished?

def read? (text : String) : Option Document := (Token.scan? text.toList).bind ofTokens?

end Datagram.Json
