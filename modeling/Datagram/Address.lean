import Datagram.Text.Digits

/-!
# Internet addresses and endpoints

An IPv4 address is four octets, written as four decimal numbers with points between them. Reading
is strict: `Ipv4.ofText?` accepts four numbers up to 255 without leading zeros and nothing else, so
an address has exactly one spelling.

An endpoint is an address with a port. How a port is written is left open: `PortText` gives the
text of each port, decimal in `PortText.decimal`.
-/

namespace Datagram

structure Ipv4 where
  a : UInt8
  b : UInt8
  c : UInt8
  d : UInt8
deriving DecidableEq

abbrev PortText := UInt16 → String

def PortText.decimal : PortText := fun port => toString port.toNat

structure Endpoint where
  ip : Ipv4
  port : UInt16
deriving DecidableEq

namespace Ipv4

def unspecified : Ipv4 := ⟨0, 0, 0, 0⟩

def localhost : Ipv4 := ⟨127, 0, 0, 1⟩

def isLoopback (ip : Ipv4) : Bool := ip.a = 127

def octetText (n : UInt8) : List Char := Nat.toDigits 10 n.toNat

def chars (ip : Ipv4) : List Char :=
  octetText ip.a ++ '.' :: octetText ip.b ++ '.' :: octetText ip.c ++ '.' :: octetText ip.d

def text (ip : Ipv4) : String := String.ofList ip.chars

def octet? (digits : List Char) : Option UInt8 :=
  (Text.decimalAtMost 255 digits).map UInt8.ofNat

def ofChars? (cs : List Char) : Option Ipv4 :=
  match cs.splitOn '.' with
  | [a, b, c, d] => do
    let a ← octet? a
    let b ← octet? b
    let c ← octet? c
    let d ← octet? d
    pure ⟨a, b, c, d⟩
  | _ => none

def ofText? (s : String) : Option Ipv4 := ofChars? s.toList

end Ipv4

namespace Endpoint

def textWith (ports : PortText) (e : Endpoint) : String := e.ip.text ++ ":" ++ ports e.port

def text (e : Endpoint) : String := e.textWith .decimal

/-- The text before the last colon and the text behind it. -/
def splitAtLastColon (cs : List Char) : List Char × List Char :=
  let behind := cs.reverse.takeWhile (· ≠ ':')
  ((cs.reverse.drop (behind.length + 1)).reverse, behind.reverse)

/-- A port may have leading zeros, but no more than 16 bits of value. -/
def port? (digits : List Char) : Option UInt16 :=
  ((Text.readDigits 10 digits).filter (· < UInt16.size)).map UInt16.ofNat

def ofText? (s : String) : Option Endpoint :=
  match splitAtLastColon s.toList with
  | (address, port) => do
    let ip ← Ipv4.ofChars? address
    let port ← port? port
    pure ⟨ip, port⟩

end Endpoint
end Datagram
