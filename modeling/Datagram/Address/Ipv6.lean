import Datagram.Address

/-!
# IPv6 addresses, and addresses and endpoints of either family

An IPv6 address is eight groups of 16 bits. It is written in lower-case hexadecimal with colons
between the groups and without leading zeros, the first of the longest runs of two or more zero
groups shortened to `::`; an address that maps an IPv4 address ends in that address's own text.
Reading accepts every such form: groups of up to four digits in either case, at most one `::` that
stands for one group or more, and an IPv4 text in place of the last two groups.
-/

namespace Datagram

structure Ipv6 where
  groups : List UInt16
  size_eq : groups.length = 8
deriving DecidableEq

/-- An IPv6 address with a port and the number of the interface that it is to be taken on. -/
structure Endpoint6 where
  ip : Ipv6
  scope : UInt32
  port : UInt16
deriving DecidableEq

inductive IpAddress where
  | v4 (ip : Ipv4)
  | v6 (ip : Ipv6)
deriving DecidableEq

def IpAddress.v4? : IpAddress → Option Ipv4
  | v4 ip => some ip
  | v6 _ => none

inductive SocketAddress where
  | v4 (endpoint : Endpoint)
  | v6 (endpoint : Endpoint6)
deriving DecidableEq

namespace Ipv6

def groupText (group : UInt16) : List Char := Nat.toDigits 16 group.toNat

def groupsText (groups : List UInt16) : List Char :=
  List.intercalate [':'] (groups.map groupText)

/-- For each position the number of zero groups from there on. -/
def zeroRuns : List UInt16 → List Nat
  | [] => []
  | group :: rest =>
    let runs := zeroRuns rest
    (if group = 0 then runs.headD 0 + 1 else 0) :: runs

/-- Start and length of the first of the longest runs of zero groups. -/
def longestZeroRun (groups : List UInt16) : Nat × Nat :=
  let runs := zeroRuns groups
  let length := runs.foldl max 0
  (runs.idxOf length, length)

/-- The IPv4 address inside `::ffff:0:0/96`. -/
def mapped? (ip : Ipv6) : Option Ipv4 :=
  match ip.groups with
  | [0, 0, 0, 0, 0, 0xFFFF, high, low] =>
    some ⟨(high >>> 8).toUInt8, high.toUInt8, (low >>> 8).toUInt8, low.toUInt8⟩
  | _ => none

def chars (ip : Ipv6) : List Char :=
  match ip.mapped? with
  | some ip4 => "::ffff:".toList ++ ip4.chars
  | none =>
    match longestZeroRun ip.groups with
    | (start, length) =>
      if 2 ≤ length then
        groupsText (ip.groups.take start) ++ [':', ':'] ++
          groupsText (ip.groups.drop (start + length))
      else groupsText ip.groups

def text (ip : Ipv6) : String := String.ofList ip.chars

def group? (digits : List Char) : Option UInt16 :=
  if digits.length ≤ 4 then (Text.readDigits 16 digits).map UInt16.ofNat else none

def groupsOfIpv4 (ip : Ipv4) : List UInt16 :=
  [ip.a.toUInt16 <<< 8 ||| ip.b.toUInt16, ip.c.toUInt16 <<< 8 ||| ip.d.toUInt16]

/-- Reads groups from the pieces between colons. The last piece may be an IPv4 text, which counts
as two groups, where `ipv4` allows it. -/
def groups? (ipv4 : Bool) : List (List Char) → Option (List UInt16)
  | [] => some []
  | [last] =>
    match group? last, Ipv4.ofChars? last with
    | some group, _ => some [group]
    | none, some ip => if ipv4 then some (groupsOfIpv4 ip) else none
    | none, none => none
  | piece :: rest => do
    let group ← group? piece
    let groups ← groups? ipv4 rest
    pure (group :: groups)

def ofGroups? (groups : List UInt16) : Option Ipv6 :=
  if h : groups.length = 8 then some ⟨groups, h⟩ else none

def pieces (cs : List Char) : List (List Char) := if cs.isEmpty then [] else cs.splitOn ':'

/-- Splits at the first pair of colons, if there is one. -/
def splitAtGap : List Char → Option (List Char × List Char)
  | ':' :: ':' :: rest => some ([], rest)
  | c :: rest => (splitAtGap rest).map fun parts => (c :: parts.1, parts.2)
  | [] => none

def ofChars? (cs : List Char) : Option Ipv6 :=
  match splitAtGap cs with
  | none => (groups? true (pieces cs)).bind ofGroups?
  | some (front, back) => do
    let front ← groups? false (pieces front)
    let back ← groups? true (pieces back)
    if front.length + back.length < 8 then
      ofGroups? (front ++ List.replicate (8 - (front.length + back.length)) 0 ++ back)
    else none

def ofText? (s : String) : Option Ipv6 := ofChars? s.toList

end Ipv6

namespace Endpoint6

def text (e : Endpoint6) : String :=
  let scope := if e.scope = 0 then "" else "%" ++ toString e.scope.toNat
  "[" ++ e.ip.text ++ scope ++ "]:" ++ toString e.port.toNat

def scope? (digits : List Char) : Option UInt32 :=
  ((Text.readDigits 10 digits).filter (· < UInt32.size)).map UInt32.ofNat

def ofText? (s : String) : Option Endpoint6 :=
  match Endpoint.splitAtLastColon s.toList with
  | (address, port) => do
    let port ← Endpoint.port? port
    let '[' :: inner := address | none
    let ']' :: reversed := inner.reverse | none
    match reversed.reverse.splitOn '%' with
    | [ip] => do
      let ip ← Ipv6.ofChars? ip
      pure ⟨ip, 0, port⟩
    | [ip, scope] => do
      let ip ← Ipv6.ofChars? ip
      let scope ← scope? scope
      pure ⟨ip, scope, port⟩
    | _ => none

end Endpoint6

namespace SocketAddress

def text : SocketAddress → String
  | .v4 endpoint => endpoint.text
  | .v6 endpoint => endpoint.text

def ofText? (s : String) : Option SocketAddress :=
  match Endpoint.ofText? s with
  | some endpoint => some (.v4 endpoint)
  | none => (Endpoint6.ofText? s).map .v6

end SocketAddress
end Datagram
