import Datagram.World

/-!
# The calls in the history of a world

`World.calls` reads the calls to the transport off the history, oldest first. Performing a call
appends it with its answer and leaves the slot tables alone; everything else that touches the world
adds no call. Asking for the local port is a call only for transports that can tell it.
-/

namespace Datagram

namespace Call

/-- The handle that a call is made on. Creating is made on none. -/
def handle? : Call → Option Handle
  | create _ => none
  | bind h _ _ | send h _ _ _ | receive h _ _ | poll h _ _ | close h _ | localPort h _ => some h

def created? : Call → Option Handle
  | create (.ok h) => some h
  | _ => none

def isTraffic : Call → Bool
  | send .. | receive .. | poll .. => true
  | _ => false

def closes (h : Handle) : Call → Bool
  | close k _ => k = h
  | _ => false

end Call

/-- The call by which a bound handle is asked for its port, if the transport answers it. -/
def Transport.portQuery {σ : Type} (T : Transport σ) (h : Handle) (answer : Option UInt16) :
    List Call :=
  if T.localPort.isSome then [.localPort h answer] else []

theorem Transport.eq_of_mem_portQuery {σ : Type} {T : Transport σ} {h : Handle}
    {answer : Option UInt16} {c : Call} (hc : c ∈ T.portQuery h answer) :
    c = .localPort h answer := by
  unfold portQuery at hc
  split at hc
  · exact List.mem_singleton.1 hc
  · cases hc

namespace World

variable {σ α : Type} {w w' : World σ}

def calls (w : World σ) : List Call := w.history.filterMap fun r => r.call?.map (·.1)

@[simp] theorem calls_emit (w : World σ) (e : Event) : (w.emit e).calls = w.calls := by
  simp [calls, emit, Record.call?]

@[simp] theorem calls_emitAll (w : World σ) (events : List Event) :
    (w.emitAll events).calls = w.calls := by
  simp [calls, emitAll, Record.call?]

@[simp] theorem calls_setTable (w : World σ) (i : Nat) (t : SlotTable) :
    (w.setTable i t).calls = w.calls := rfl

@[simp] theorem calls_setPort (w : World σ) (lease : Lease) (port : UInt16) :
    (w.setPort lease port).calls = w.calls := rfl

@[simp] theorem calls_release (w : World σ) (lease : Lease) :
    (w.release lease).calls = w.calls := by simp [release]

@[simp] theorem calls_acquire (w : World σ) (i : Nat) : (w.acquire i).2.calls = w.calls := by
  unfold acquire
  split <;> simp

@[simp] theorem tables_emit (w : World σ) (e : Event) : (w.emit e).tables = w.tables := rfl

@[simp] theorem tables_emitAll (w : World σ) (events : List Event) :
    (w.emitAll events).tables = w.tables := rfl

/-- Every call leaves the tables alone and is written down once, with its answer. -/
theorem perform_spec {call : σ → Reply σ α} {entry : α → Call} {a : α}
    (h : w.perform call entry = (a, w')) :
    w'.tables = w.tables ∧ w'.calls = w.calls ++ [entry a] := by
  cases h
  exact ⟨rfl, by simp [calls, Record.call?]⟩

theorem localPort_spec {T : Transport σ} {h : Handle} {answer : Option UInt16}
    (hask : w.localPort T h = (answer, w')) :
    w'.tables = w.tables ∧ w'.calls = w.calls ++ T.portQuery h answer := by
  unfold localPort at hask
  cases hT : T.localPort with
  | none =>
    simp only [hT, Prod.mk.injEq] at hask
    obtain ⟨-, rfl⟩ := hask
    simp [Transport.portQuery, hT]
  | some ask =>
    simp only [hT] at hask
    simpa [Transport.portQuery, hT] using perform_spec hask

end World
end Datagram
