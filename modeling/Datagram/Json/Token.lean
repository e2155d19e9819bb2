import Datagram.Text.Digits

/-!
# Tokens of a JSON text

A JSON text is scanned character by character. Between tokens there may be blanks; brackets, braces,
commas and colons are tokens of their own; numbers and words run on until one of these or a quote.
What a word may be is not decided here.

A string literal is kept as 16-bit units as far as escapes give them. It has a text (`textOf?`) unless
an escape leaves half of a surrogate pair.
-/

namespace Datagram.Json

inductive Token where
  | beginList
  | endList
  | beginTable
  | endTable
  | comma
  | colon
  | string (text : Option String)
  | word (chars : List Char)
deriving DecidableEq

namespace Token

def isBlank (c : Char) : Bool := c = ' ' || c = '\t' || c = '\n' || c = '\r'

def isWordChar (c : Char) : Bool := c.isAlphanum || c = '+' || c = '-' || c = '.'

def mark? : Char → Option Token
  | '[' => some beginList
  | ']' => some endList
  | '\x7b' => some beginTable
  | '\x7d' => some endTable
  | ',' => some comma
  | ':' => some colon
  | _ => none

def isHighHalf (unit : Nat) : Bool := 0xD800 ≤ unit && unit < 0xDC00

def isLowHalf (unit : Nat) : Bool := 0xDC00 ≤ unit && unit < 0xE000

/-- Joins the halves of surrogate pairs. -/
def codePoints? : List Nat → Option (List Char)
  | [] => some []
  | high :: low :: rest =>
    if isHighHalf high then
      if isLowHalf low then
        (codePoints? rest).map
          (Char.ofNat (0x10000 + (high - 0xD800) * 0x400 + (low - 0xDC00)) :: ·)
      else none
    else if isLowHalf high then none
    else (codePoints? (low :: rest)).map (Char.ofNat high :: ·)
  | [unit] => if isHighHalf unit || isLowHalf unit then none else some [Char.ofNat unit]

/-- The text of a literal from its units in reverse. -/
def textOf? (units : List Nat) : Option String := (codePoints? units.reverse).map String.ofList

def escaped? : Char → Option Nat
  | '"' => some 0x22
  | '\\' => some 0x5C
  | '/' => some 0x2F
  | 'b' => some 0x08
  | 'f' => some 0x0C
  | 'n' => some 0x0A
  | 'r' => some 0x0D
  | 't' => some 0x09
  | _ => none

/-- Where the scanner stands: between tokens, in a word, or in a string literal, there perhaps
behind a backslash or among the four digits of a code. Lists are in reverse. -/
inductive Mode where
  | between
  | word (chars : List Char)
  | string (units : List Nat)
  | escape (units : List Nat)
  | code (units : List Nat) (digits : Nat) (value : Nat)

structure Scan where
  done : List Token := []
  mode : Mode := .between

def startAt (done : List Token) (c : Char) : Option Scan :=
  if isBlank c then some ⟨done, .between⟩
  else if c = '"' then some ⟨done, .string []⟩
  else if isWordChar c then some ⟨done, .word [c]⟩
  else (mark? c).map fun token => ⟨token :: done, .between⟩

def scanChar (s : Scan) (c : Char) : Option Scan :=
  match s.mode with
  | .between => startAt s.done c
  | .word chars =>
    if isWordChar c then some { s with mode := .word (c :: chars) }
    else startAt (.word chars.reverse :: s.done) c
  | .string units =>
    if c = '"' then some ⟨.string (textOf? units) :: s.done, .between⟩
    else if c = '\\' then some { s with mode := .escape units }
    else if c.toNat < 0x20 then none
    else some { s with mode := .string (c.toNat :: units) }
  | .escape units =>
    if c = 'u' then some { s with mode := .code units 0 0 }
    else (escaped? c).map fun unit => { s with mode := .string (unit :: units) }
  | .code units digits value =>
    (Text.digitValue? 16 c).map fun digit =>
      let value := value * 16 + digit
      { s with mode := if digits = 3 then .string (value :: units) else .code units (digits + 1) value }

def finish (s : Scan) : Option (List Token) :=
  match s.mode with
  | .between => some s.done.reverse
  | .word chars => some (.word chars.reverse :: s.done).reverse
  | _ => none

def scan? (text : List Char) : Option (List Token) := (text.foldlM scanChar {}).bind finish

end Token
end Datagram.Json
