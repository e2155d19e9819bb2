import Datagram.Session

/-!
# Scripted transports

A transport that answers as it was told to. For each call there is a queue of outcomes; a call takes
the next one, if there is any, and otherwise behaves normally: handles count up, binding succeeds,
everything is sent whole, and received datagrams come from one inbound queue that all handles share.
Handles are not checked, except that closing one that is not open fails.
-/

namespace Datagram

/-- An outcome told in advance: nothing special, a failure, or an answer of the call's own kind. -/
inductive Outcome (α : Type) where
  | normal
  | fails (failure : Failure)
  | answers (answer : α)

inductive Inbound where
  | datagram (data : Bytes) (source : Endpoint) (claim : Option Nat)
  | failure (failure : Failure)

structure Script where
  nextHandle : UInt32 := 1
  openHandles : List Handle := []
  inbound : List Inbound := []
  create : List (Outcome Empty) := []
  bind : List (Outcome Empty) := []
  send : List (Outcome Nat) := []
  receive : List (Outcome Empty) := []
  poll : List (Outcome Readiness) := []
  close : List (Outcome Empty) := []
  localPort : List (Outcome UInt16) := []

namespace Script

/-- The next outcome of a queue and what is left of it. -/
def next (queue : List (Outcome α)) : Outcome α × List (Outcome α) :=
  match queue with
  | [] => (.normal, [])
  | outcome :: rest => (outcome, rest)

/-- The handle that comes next, which is open from now on. -/
def grant (s : Script) : Reply Script (Result Handle) :=
  let handle : Handle := ⟨s.nextHandle⟩
  { answer := .ok handle
    state := { s with nextHandle := s.nextHandle + 1, openHandles := s.openHandles ++ [handle] } }

def performCreate (s : Script) : Reply Script (Result Handle) :=
  let (outcome, rest) := next s.create
  let s := { s with create := rest }
  match outcome with
  | .fails e => { answer := .error e, state := s }
  | .normal => s.grant

def performBind (s : Script) : Reply Script (Result Unit) :=
  let (outcome, rest) := next s.bind
  let s := { s with bind := rest }
  match outcome with
  | .fails e => { answer := .error e, state := s }
  | .normal => { answer := .ok (), state := s }

def performSend (data : Bytes) (s : Script) : Reply Script (Result Nat) :=
  let (outcome, rest) := next s.send
  let s := { s with send := rest }
  match outcome with
  | .fails e => { answer := .error e, state := s }
  | .answers count => { answer := .ok count, state := s }
  | .normal => { answer := .ok data.length, state := s }

/-- Takes the front of the inbound queue. -/
def take (capacity : Nat) (s : Script) : Reply Script Delivery :=
  match s.inbound with
  | [] => { answer := ⟨[], .error (.receive "would block")⟩, state := s }
  | .failure e :: rest => { answer := ⟨[], .error e⟩, state := { s with inbound := rest } }
  | .datagram data source claim :: rest =>
    let copied := data.take capacity
    { answer := ⟨copied, .ok (claim.getD copied.length, source)⟩
      state := { s with inbound := rest } }

def performReceive (capacity : Nat) (s : Script) : Reply Script Delivery :=
  let (outcome, rest) := next s.receive
  let s := { s with receive := rest }
  match outcome with
  | .fails e => { answer := ⟨[], .error e⟩, state := s }
  | .normal => s.take capacity

def readiness (s : Script) : Readiness :=
  match s.inbound with
  | [] => .timedOut
  | .failure _ :: _ => .errored
  | .datagram .. :: _ => .readable

def performPoll (s : Script) : Reply Script (Result Readiness) :=
  let (outcome, rest) := next s.poll
  let s := { s with poll := rest }
  match outcome with
  | .fails e => { answer := .error e, state := s }
  | .answers readiness => { answer := .ok readiness, state := s }
  | .normal => { answer := .ok s.readiness, state := s }

def performClose (h : Handle) (s : Script) : Reply Script (Result Unit) :=
  let (outcome, rest) := next s.close
  let s := { s with close := rest }
  match outcome with
  | .fails e => { answer := .error e, state := s }
  | .normal =>
    if h ∈ s.openHandles then
      { answer := .ok (), state := { s with openHandles := s.openHandles.erase h } }
    else { answer := .error (.invalidHandle h), state := s }

def performLocalPort (s : Script) : Reply Script (Option UInt16) :=
  let (outcome, rest) := next s.localPort
  let s := { s with localPort := rest }
  match outcome with
  | .answers port => { answer := some port, state := s }
  | .fails _ | .normal => { answer := none, state := s }

def transport : Transport Script where
  create := performCreate
  bind _ _ := performBind
  send _ data _ := performSend data
  receive _ := performReceive
  poll _ _ := performPoll
  close := performClose
  localPort := some fun _ => performLocalPort

/-- Further outcomes for one of the queues. -/
inductive Addition where
  | create (outcomes : List (Outcome Empty))
  | bind (outcomes : List (Outcome Empty))
  | send (outcomes : List (Outcome Nat))
  | receive (outcomes : List (Outcome Empty))
  | poll (outcomes : List (Outcome Readiness))
  | close (outcomes : List (Outcome Empty))
  | localPort (outcomes : List (Outcome UInt16))

def add (s : Script) : Addition → Script
  | .create outcomes => { s with create := s.create ++ outcomes }
  | .bind outcomes => { s with bind := s.bind ++ outcomes }
  | .send outcomes => { s with send := s.send ++ outcomes }
  | .receive outcomes => { s with receive := s.receive ++ outcomes }
  | .poll outcomes => { s with poll := s.poll ++ outcomes }
  | .close outcomes => { s with close := s.close ++ outcomes }
  | .localPort outcomes => { s with localPort := s.localPort ++ outcomes }

def deliver (s : Script) (item : Inbound) : Script := { s with inbound := s.inbound ++ [item] }

end Script
end Datagram
