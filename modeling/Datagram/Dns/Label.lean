import Datagram.Dns.Punycode
import Datagram.Unicode.Direction
import Datagram.Unicode.Joiner

/-!
# Labels

The parts of a host name, as messages hold them: ASCII without capital letters. `ofWritten?` gives
the label for what somebody has written. Text is folded and composed first, and text beyond ASCII is
then encoded and marked as such; a label that is encoded already has to be what its text would give.
Ordinary labels hold letters, digits and hyphens and do not start with a hyphen or a mark.

Points can be part of a label. Its parts then follow these rules one by one, and only the whole must
not be empty. An asterisk is a label by itself. One that starts with an underscore names a service:
it is taken as it stands and may hold underscores, but nothing beyond ASCII.
-/

namespace Datagram.Dns

abbrev Label := List Char

namespace Label

def longest : Nat := 63

def encodingMark : List Char := ['x', 'n', '-', '-']

def isLetterOrDigit (c : Char) : Bool := c.isAlphanum || !Punycode.isAscii c

def isPlain (c : Char) : Bool := isLetterOrDigit c || c = '-'

/-- Whether every character stands for itself and they are composed. -/
def isFolded (part : List Char) : Bool :=
  part.all (fun c => Unicode.folded? c = some [c]) && Unicode.composed part = part

/-- Whether a folded part of a label can stand in a name. -/
def isProper (part : List Char) : Bool :=
  part.all isPlain && !part.head?.any Unicode.isMark && Unicode.joinersFit part

def folded? (written : List Char) : Option (List Char) :=
  (written.mapM Unicode.folded?).map fun images => Unicode.composed images.flatten

/-- The text of an encoded part: something beyond ASCII that is not marked as encoded again. -/
def decoded? (code : List Char) : Option (List Char) :=
  (Punycode.decode? code).filter fun text =>
    !text.all Punycode.isAscii && isFolded text && !encodingMark.isPrefixOf text

/-- The text of a folded part. -/
def partText? (part : List Char) : Option (List Char) :=
  let text :=
    if encodingMark.isPrefixOf part then decoded? (part.drop encodingMark.length) else some part
  text.filter isProper

def partsFit (parts : List (List Char)) : Bool :=
  !parts.any Unicode.Direction.turns || parts.all Unicode.Direction.fits

def encoded (part : List Char) : List Char :=
  if part.all Punycode.isAscii then part else encodingMark ++ Punycode.encode part

def ofText? (written : List Char) : Option Label := do
  let folded ← folded? written
  let parts ← (folded.splitOn '.').mapM partText?
  if partsFit parts then some (['.'].intercalate (parts.map encoded)) else none

def isServicePlain (c : Char) : Bool := c.isAlphanum || ['-', '_', '.'].contains c

def ofService? (written : List Char) : Option Label :=
  if written.all isServicePlain then some (written.map Char.toLower) else none

/-- Whether a label that is neither too long nor empty starts as one may. -/
def fits (label : Label) : Bool :=
  !label.isEmpty && label.head? != some '-' && label.length ≤ longest

def ofWritten? (written : List Char) : Option Label :=
  match written with
  | ['*'] => some written
  | '_' :: _ => (ofService? written).filter fits
  | _ => (ofText? written).filter fits

end Label
end Datagram.Dns
