import Datagram.Proofs.Conversation
import Datagram.Proofs.Runs
import Datagram.Script

/-!
# The calls that sockets make

Whatever an operation on a socket says to the transport, in every way it can end, it is a sequence
of moves from the handle that the socket held before to the one it holds afterwards. The log of a
run, the calls of all sockets without those made past them, therefore consists of conversations,
each of which is going on exactly while a socket holds its handle.
-/

namespace Datagram

variable {σ : Type}

namespace Socket

def handle? (s : Socket) : Option Handle := s.binding.map (·.handle)

variable {T : Transport σ} {s : Socket} {w : World σ}

theorem Opening.moves {table : Nat} {port : UInt16} {answer : Result Binding}
    {tables : List SlotTable} {cs : List Call} (h : Opening T table port w answer tables cs) :
    Moves T none cs (answer.toOption.map (·.handle)) := by
  cases h with
  | noSlot => exact .refl none
  | createFailed => exact Move.createFailed.moves
  | bindFailed => exact Move.refused.moves
  | bound => exact Move.opened.moves

theorem Sending.moves {answer : Result Nat} {s' : Socket} {cs : List Call}
    (h : Sending s answer s' cs) : Moves T s.handle? cs s'.handle? := by
  cases h with
  | notBound | noDestination => exact .refl _
  | @failed b target e hb =>
    rw [handle?, hb]
    exact (Move.traffic rfl rfl).moves
  | @sent b target count hb =>
    rw [handle?, handle?, hb]
    exact (Move.traffic rfl rfl).moves

theorem Parsing.moves {answer : Result Nat} {s' : Socket} {cs : List Call}
    (h : Parsing s answer s' cs) : Moves T s.handle? cs s'.handle? := by
  cases h with
  | notBound => exact .refl _
  | pollFailed hb | timedOut hb =>
    rw [handle?, hb]
    exact (Move.traffic rfl rfl).moves
  | receiveFailed hb | received hb =>
    rw [handle?, handle?, hb]
    exact (Move.traffic rfl rfl).moves.tail (.traffic rfl rfl)

theorem stop_moves (s : Socket) (w : World σ) :
    ∃ cs, (s.stop T w).2.calls = w.calls ++ cs ∧ Moves T s.handle? cs none := by
  rcases s.binding.eq_none_or_eq_some with hb | ⟨b, hb⟩
  · rw [stop_of_unbound T hb, handle?, hb]
    exact ⟨[], (List.append_nil _).symm, .refl none⟩
  · obtain ⟨-, answer, hcalls⟩ := giveBack_spec T b w
    rw [stop_of_bound T hb, handle?, hb]
    exact ⟨_, hcalls, Move.close.moves⟩

theorem begin_moves (port : UInt16) (s : Socket) (w : World σ) :
    ∃ cs, (s.begin T port w).2.2.calls = w.calls ++ cs ∧
      Moves T s.handle? cs (s.begin T port w).2.1.handle? := by
  obtain ⟨base, w₀, opened, cs, hready, hopening, hcalls, -, hs⟩ := begin_spec T port s w
  have hstopped : ∃ cs₀, w₀.calls = w.calls ++ cs₀ ∧ Moves T s.handle? cs₀ none := by
    cases hready with
    | unbound hb =>
      rw [handle?, hb]
      exact ⟨[], (List.append_nil _).symm, .refl none⟩
    | @stopped b hb =>
      obtain ⟨-, answer, hclose⟩ := giveBack_spec T b (w.emit (.rebinding b.port port))
      rw [World.calls_emit] at hclose
      rw [handle?, hb]
      exact ⟨_, hclose, Move.close.moves⟩
  obtain ⟨cs₀, hcalls₀, hmoves⟩ := hstopped
  refine ⟨cs₀ ++ cs, ?_, ?_⟩
  · rw [hcalls, hcalls₀, List.append_assoc]
  · rw [hs]
    exact hmoves.trans hopening.moves

/-- Every operation moves from the handle that the socket holds to the one it holds afterwards. -/
theorem perform_moves (T : Transport σ) (s : Socket) (w : World σ) (st : SocketStep) :
    ∃ cs, (s.perform T w st).2.2.calls = w.calls ++ cs ∧
      Moves T s.handle? cs (s.perform T w st).2.1.handle? := by
  cases st with
  | begin port => exact begin_moves port s w
  | stop =>
    obtain ⟨cs, hcalls, hmoves⟩ := stop_moves (T := T) s w
    have hheld : (s.stop T w).1.handle? = none := by
      rw [stop_released]
      rfl
    refine ⟨cs, hcalls, ?_⟩
    change Moves T s.handle? cs (s.stop T w).1.handle?
    rw [hheld]
    exact hmoves
  | endPacket =>
    obtain ⟨cs, hsending, hcalls, -⟩ := endPacket_sending T s w
    exact ⟨cs, hcalls, hsending.moves⟩
  | parsePacket =>
    obtain ⟨cs, hparsing, hcalls, -⟩ := parsePacket_parsing T s w
    exact ⟨cs, hcalls, hparsing.moves⟩
  | _ =>
    refine ⟨[], ?_, ?_⟩
    · rw [List.append_nil]
      exact (perform_local T s w rfl).1
    · rw [handle?, handle?, perform_binding T s w (by intro hside; cases hside)]
      exact .refl _

end Socket

def Step.isRaw : Step → Bool
  | .raw _ => true
  | _ => false

/-- Steps that take the binding from socket `i`: stopping it, dropping it, and binding it anew. -/
def Step.ends (i : Nat) : Step → Bool
  | .socket j .stop | .socket j (.begin _) | .drop j => j = i
  | _ => false

namespace Session

variable (T : Transport σ)

def held (ss : Session σ) : List Handle := ss.gather Socket.handle?

/-- The calls that one step makes, if it is among those asked for. -/
def stepCalls (p : Step → Bool) (ss : Session σ) (st : Step) : List Call :=
  if p st then (ss.step T st).2.world.calls.drop ss.world.calls.length else []

/-- The calls that a run makes in the steps asked for. -/
def callsWhere (p : Step → Bool) (ss : Session σ) : List Step → List Call
  | [] => []
  | st :: rest => stepCalls T p ss st ++ callsWhere p (ss.step T st).2 rest

def madeBy (ss : Session σ) (st : Step) : List Call := ss.stepCalls T (fun st => !st.isRaw) st

/-- The calls that a run makes through sockets. -/
def socketCalls (ss : Session σ) (steps : List Step) : List Call :=
  ss.callsWhere T (fun st => !st.isRaw) steps

theorem madeBy_raw (ss : Session σ) (call : RawCall) : ss.madeBy T (.raw call) = [] := rfl

theorem callsWhere_append (p : Step → Bool) (ss : Session σ) (xs ys : List Step) :
    ss.callsWhere T p (xs ++ ys) =
      ss.callsWhere T p xs ++ (ss.run T xs).2.callsWhere T p ys := by
  induction xs generalizing ss with
  | nil => rfl
  | cons st xs ih =>
    rw [List.cons_append, callsWhere, callsWhere, ih, List.append_assoc]
    rfl

theorem callsWhere_concat (p : Step → Bool) (ss : Session σ) (steps : List Step) (st : Step) :
    ss.callsWhere T p (steps ++ [st]) =
      ss.callsWhere T p steps ++ (ss.run T steps).2.stepCalls T p st := by
  rw [callsWhere_append, callsWhere, callsWhere, List.append_nil]

theorem socketCalls_cons (ss : Session σ) (st : Step) (steps : List Step) :
    ss.socketCalls T (st :: steps) =
      ss.madeBy T st ++ (ss.step T st).2.socketCalls T steps := rfl

variable {T} {ss : Session σ}

theorem madeBy_eq {st : Step} {cs : List Call} (hraw : st.isRaw = false)
    (h : (ss.step T st).2.world.calls = ss.world.calls ++ cs) : ss.madeBy T st = cs := by
  rw [madeBy, stepCalls, hraw, h, List.drop_left]
  rfl

theorem madeBy_eq_nil {st : Step} (hraw : st.isRaw = false)
    (h : (ss.step T st).2.world.calls = ss.world.calls) : ss.madeBy T st = [] := by
  apply madeBy_eq hraw
  rw [h, List.append_nil]

theorem madeBy_socket {i : Nat} {s : Socket} (hs : ss.socket? i = some s) {op : SocketStep}
    {cs : List Call} (h : (s.perform T ss.world op).2.2.calls = ss.world.calls ++ cs) :
    ss.madeBy T (.socket i op) = cs := by
  apply madeBy_eq rfl
  rw [step_socket hs]
  exact h

theorem madeBy_drop {i : Nat} {s : Socket} (hs : ss.socket? i = some s) {cs : List Call}
    (h : (s.stop T ss.world).2.calls = ss.world.calls ++ cs) : ss.madeBy T (.drop i) = cs := by
  apply madeBy_eq rfl
  rw [step_drop hs]
  exact h

theorem rawCall_calls (T : Transport σ) (w : World σ) (call : RawCall) :
    ∃ cs, (rawCall T w call).2.calls = w.calls ++ cs := by
  cases call with
  | localPort h => exact ⟨_, (World.localPort_spec (rfl : w.localPort T h = _)).2⟩
  | create => exact ⟨_, (World.perform_spec (rfl : w.create T = _)).2⟩
  | bind h port => exact ⟨_, (World.perform_spec (rfl : w.bind T h port = _)).2⟩
  | send h data target => exact ⟨_, (World.perform_spec (rfl : w.send T h data target = _)).2⟩
  | receive h out => exact ⟨_, (World.perform_spec (rfl : w.receive T h out.length = _)).2⟩
  | poll h timeout => exact ⟨_, (World.perform_spec (rfl : w.poll T h timeout = _)).2⟩
  | close h => exact ⟨_, (World.perform_spec (rfl : w.close T h = _)).2⟩

theorem step_calls_of_quiet {st : Step} (hst : st.onSockets = false) (hraw : st.isRaw = false) :
    (ss.step T st).2.world.calls = ss.world.calls := by
  cases st with
  | socket | drop | construct => cases hst
  | raw call => cases hraw
  | acquire table => exact World.calls_acquire ..
  | release k =>
    cases h : ss.heldLease? k with
    | none => rw [step_release_of_none h]
    | some lease => rw [step_release h]; exact World.calls_release ..
  | setPort k port =>
    rcases step_setPort_cases T ss k port with h | ⟨lease, -, h⟩ <;> rw [h]
    exact World.calls_setPort ..
  | leaseOutline k => rw [step_leaseOutline]
  | _ => rfl

theorem held_construct (spec : SocketSpec) : (ss.step T (.construct spec)).2.held = ss.held := by
  simp only [held, gather, step, List.filterMap_append]
  exact List.append_nil _

theorem held_of_bound {i : Nat} {s : Socket} {b : Binding} (hs : ss.socket? i = some s)
    (hb : s.binding = some b) :
    b.handle ∈ ss.held := by
  obtain ⟨rest, hperm, -⟩ := gather_perm hs Socket.handle?
  rw [held, hperm.mem_iff, Socket.handle?, hb]
  exact List.mem_cons_self ..

/-- One step, seen from the handles that are held: at most one of them is concerned. -/
theorem step_moves (ss : Session σ) {st : Step} (hraw : st.isRaw = false) :
    ∃ x y rest cs, ss.held.Perm (x.toList ++ rest) ∧
      (ss.step T st).2.held.Perm (y.toList ++ rest) ∧
      (ss.step T st).2.world.calls = ss.world.calls ++ cs ∧ Moves T x cs y := by
  have hquiet {ss' : Session σ} (hheld : ss'.held = ss.held)
      (hcalls : ss'.world.calls = ss.world.calls) :
      ∃ x y rest cs, ss.held.Perm (Option.toList x ++ rest) ∧
        ss'.held.Perm (Option.toList y ++ rest) ∧
        ss'.world.calls = ss.world.calls ++ cs ∧ Moves T x cs y := by
    refine ⟨none, none, ss.held, [], .rfl, ?_, ?_, .refl none⟩
    · rw [hheld]
      exact .rfl
    · rw [hcalls, List.append_nil]
  cases st with
  | socket i op =>
    cases hs : ss.socket? i with
    | none => rw [step_socket_of_none hs]; exact hquiet rfl rfl
    | some s =>
      obtain ⟨rest, hbefore, hafter⟩ := gather_perm hs Socket.handle?
      obtain ⟨cs, hcalls, hmoves⟩ := Socket.perform_moves T s ss.world op
      rw [step_socket hs]
      exact ⟨_, _, rest, cs, hbefore, hafter _ (some _), hcalls, hmoves⟩
  | drop i =>
    cases hs : ss.socket? i with
    | none => rw [step_drop_of_none hs]; exact hquiet rfl rfl
    | some s =>
      obtain ⟨rest, hbefore, hafter⟩ := gather_perm hs Socket.handle?
      obtain ⟨cs, hcalls, hmoves⟩ := Socket.stop_moves (T := T) s ss.world
      rw [step_drop hs]
      exact ⟨_, none, rest, cs, hbefore, hafter _ none, hcalls, hmoves⟩
  | construct spec => exact hquiet (held_construct spec) rfl
  | raw call => cases hraw
  | _ =>
    apply hquiet
    · rw [held, gather, step_sockets rfl]
      rfl
    · exact step_calls_of_quiet rfl rfl

/-- A step only adds to the calls, those that it makes through a socket among them. -/
theorem step_calls (T : Transport σ) (ss : Session σ) (st : Step) :
    ∃ cs, (ss.step T st).2.world.calls = ss.world.calls ++ cs ∧ (ss.madeBy T st).Sublist cs := by
  cases hraw : st.isRaw with
  | false =>
    obtain ⟨_, _, _, cs, -, -, hcalls, -⟩ := step_moves (T := T) ss hraw
    rw [madeBy_eq hraw hcalls]
    exact ⟨cs, hcalls, List.Sublist.refl cs⟩
  | true =>
    cases st with
    | raw call =>
      obtain ⟨cs, hcalls⟩ := rawCall_calls T ss.world call
      exact ⟨cs, hcalls, List.nil_sublist cs⟩
    | _ => cases hraw

theorem run_calls (T : Transport σ) (ss : Session σ) (steps : List Step) :
    ∃ cs, (ss.run T steps).2.world.calls = ss.world.calls ++ cs := by
  induction steps generalizing ss with
  | nil => exact ⟨[], (List.append_nil _).symm⟩
  | cons st steps ih =>
    obtain ⟨first, hfirst, -⟩ := step_calls T ss st
    obtain ⟨others, hothers⟩ := ih (ss.step T st).2
    refine ⟨first ++ others, ?_⟩
    rw [← List.append_assoc, ← hfirst]
    exact hothers

theorem step_ledger {log : List Call} (hl : Ledger T ss.held log) (st : Step)
    (hfresh : ((log ++ ss.madeBy T st).filterMap Call.created?).Nodup) :
    Ledger T (ss.step T st).2.held (log ++ ss.madeBy T st) := by
  cases hraw : st.isRaw with
  | false =>
    obtain ⟨x, y, rest, cs, hbefore, hafter, hcalls, hmoves⟩ := step_moves (T := T) ss hraw
    rw [madeBy_eq hraw hcalls] at hfresh ⊢
    exact ((hl.perm hbefore).moves hmoves hfresh).perm hafter.symm
  | true =>
    cases st with
    | raw call =>
      rw [madeBy_raw, List.append_nil]
      exact hl
    | _ => cases hraw

theorem run_ledger {log : List Call} (hl : Ledger T ss.held log)
    (hlog : log.Sublist ss.world.calls) (steps : List Step)
    (hfresh : ((ss.run T steps).2.world.calls.filterMap Call.created?).Nodup) :
    Ledger T (ss.run T steps).2.held (log ++ ss.socketCalls T steps) := by
  induction steps generalizing ss log with
  | nil =>
    rw [socketCalls, callsWhere, List.append_nil]
    exact hl
  | cons st steps ih =>
    obtain ⟨cs, hcalls, hmade⟩ := step_calls T ss st
    obtain ⟨later, hlater⟩ := run_calls T (ss.step T st).2 steps
    have hlogged : (log ++ ss.madeBy T st).Sublist (ss.step T st).2.world.calls := by
      rw [hcalls]
      exact hlog.append hmade
    have hprefix : (ss.step T st).2.world.calls.Sublist (ss.run T (st :: steps)).2.world.calls := by
      change List.Sublist _ ((ss.step T st).2.run T steps).2.world.calls
      rw [hlater]
      exact List.sublist_append_left ..
    have hnodup := List.Nodup.sublist ((hlogged.trans hprefix).filterMap Call.created?) hfresh
    rw [socketCalls_cons, ← List.append_assoc]
    exact ih (step_ledger hl st hnodup) hlogged hfresh

theorem held_ofTables (transport : σ) (tables : List SlotTable) (specs : List SocketSpec) :
    (ofTables transport tables specs).held = [] := by
  rw [held, gather, List.filterMap_eq_nil_iff]
  intro o ho
  obtain ⟨spec, -, rfl⟩ := List.mem_map.1 ho
  rfl

end Session
end Datagram
