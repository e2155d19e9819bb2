import Datagram.Proofs.Sides

/-!
# Runs of a session, seen from one socket

`Session.turns` lists what a run does with one socket: each operation with the socket before it,
its answer, the calls it made, and the socket after it. `Lives T past s` says that `s` is what a
fresh socket has become by the turns `past`, whatever else happened to the world in between. In
every run the turns of a socket are such a life, so that a property of all lives holds of every
socket in every session.
-/

namespace Datagram

variable {σ : Type}

/-- One operation on a socket, as it can be seen from outside. -/
structure Turn where
  before : Socket
  step : SocketStep
  answer : Answer
  calls : List Call
  after : Socket

def Turn.of (T : Transport σ) (s : Socket) (w : World σ) (st : SocketStep) : Turn :=
  let r := s.perform T w st
  ⟨s, st, r.1, r.2.2.calls.drop w.calls.length, r.2.1⟩

theorem Turn.calls_of {T : Transport σ} {s : Socket} {w : World σ} {st : SocketStep}
    {cs : List Call} (h : (s.perform T w st).2.2.calls = w.calls ++ cs) :
    (Turn.of T s w st).calls = cs := by
  change (s.perform T w st).2.2.calls.drop w.calls.length = cs
  rw [h, List.drop_left]

theorem Turn.of_perform {T : Transport σ} {s s' : Socket} {w w' : World σ} {st : SocketStep}
    {answer : Answer} (h : s.perform T w st = (answer, s', w')) :
    (Turn.of T s w st).answer = answer ∧ (Turn.of T s w st).after = s' :=
  ⟨congrArg (·.1) h, congrArg (·.2.1) h⟩

theorem Turn.calls_side (T : Transport σ) (s : Socket) (w : World σ) (st : SocketStep) :
    ∀ c ∈ (Turn.of T s w st).calls, c.side = st.side ∧ st.isLocal = false := by
  obtain ⟨cs, hcalls, hall⟩ := Socket.perform_calls T s w st
  rw [calls_of hcalls]
  exact hall

theorem Turn.sending_of (T : Transport σ) (s : Socket) (w : World σ) :
    ∃ answer, (Turn.of T s w .endPacket).answer = .count answer ∧
      Socket.Sending s answer (Turn.of T s w .endPacket).after
        (Turn.of T s w .endPacket).calls := by
  obtain ⟨cs, hsending, hcalls, -⟩ := Socket.endPacket_sending T s w
  have hmade : (Turn.of T s w .endPacket).calls = cs := calls_of hcalls
  refine ⟨(s.endPacket T w).1, rfl, ?_⟩
  rw [hmade]
  exact hsending

theorem Turn.parsing_of (T : Transport σ) (s : Socket) (w : World σ) :
    ∃ answer, (Turn.of T s w .parsePacket).answer = .count answer ∧
      Socket.Parsing s answer (Turn.of T s w .parsePacket).after
        (Turn.of T s w .parsePacket).calls := by
  obtain ⟨cs, hparsing, hcalls, -⟩ := Socket.parsePacket_parsing T s w
  have hmade : (Turn.of T s w .parsePacket).calls = cs := calls_of hcalls
  refine ⟨(s.parsePacket T w).1, rfl, ?_⟩
  rw [hmade]
  exact hparsing

/-- A fresh socket has become the given one by the given turns. -/
inductive Lives (T : Transport σ) : List Turn → Socket → Prop
  | fresh (table : Nat) (config : Config) : Lives T [] (.ofConfig table config)
  | turn {past s} (w : World σ) (st : SocketStep) (h : Lives T past s) :
      Lives T (past ++ [Turn.of T s w st]) (s.perform T w st).2.1

/-- Each turn of a life starts from what the turns before it have made of the socket. -/
theorem Lives.split {T : Transport σ} {trace past future : List Turn} {s : Socket} {o : Turn}
    (h : Lives T trace s) (htrace : trace = past ++ o :: future) :
    Lives T past o.before ∧ ∃ w, o = Turn.of T o.before w o.step := by
  induction h generalizing future with
  | fresh table config => simp at htrace
  | @turn trace s w st h ih =>
    rcases List.eq_nil_or_concat future with rfl | ⟨future, last, rfl⟩
    · obtain ⟨rfl, hlast⟩ := List.append_inj' htrace rfl
      obtain rfl := List.singleton_inj.1 hlast
      exact ⟨h, w, rfl⟩
    · rw [List.concat_eq_append, ← List.cons_append, ← List.append_assoc] at htrace
      exact ih (List.append_inj' htrace rfl).1

/-- The last turn of a life tells what has become of the socket. -/
theorem Lives.eq_after {T : Transport σ} {trace past : List Turn} {s : Socket} {o : Turn}
    (h : Lives T trace s) (htrace : trace = past ++ [o]) : s = o.after := by
  cases h with
  | fresh table config => simp at htrace
  | turn w st h =>
    obtain ⟨-, hlast⟩ := List.append_inj' htrace rfl
    obtain rfl := List.singleton_inj.1 hlast
    rfl

/-- What came after the last element of a history that has the property. -/
def afterLast {α : Type} (p : α → Bool) (l : List α) : List α :=
  (l.reverse.takeWhile fun a => !p a).reverse

theorem afterLast_snoc {α : Type} (p : α → Bool) (l : List α) (a : α) :
    afterLast p (l ++ [a]) = if p a then [] else afterLast p l ++ [a] := by
  rw [afterLast, List.reverse_append, List.reverse_singleton, List.singleton_append,
    List.takeWhile_cons]
  cases p a with
  | true => rfl
  | false => exact List.reverse_cons

/-- The last value that a history gives. -/
def latest? {α β : Type} (f : α → Option β) (l : List α) : Option β := (l.filterMap f).getLast?

theorem latest?_snoc {α β : Type} (f : α → Option β) (l : List α) (a : α) :
    latest? f (l ++ [a]) = (f a).or (latest? f l) := by
  rw [latest?, List.filterMap_append]
  cases ha : f a with
  | none => simp [ha, latest?]
  | some b => simp [ha]

/-- What a list holds at one place, apart from what it holds elsewhere. -/
theorem filterMap_set_perm {α β : Type} {l : List α} {i : Nat} {a : α} (h : l[i]? = some a)
    (f : α → Option β) :
    ∃ rest, (l.filterMap f).Perm ((f a).toList ++ rest) ∧
      ∀ x, ((l.set i x).filterMap f).Perm ((f x).toList ++ rest) := by
  induction l generalizing i with
  | nil => cases h
  | cons b l ih =>
    have hcons (c : α) (l : List α) : (c :: l).filterMap f = (f c).toList ++ l.filterMap f := by
      rw [List.filterMap_cons]
      cases f c <;> rfl
    cases i with
    | zero =>
      obtain rfl : b = a := by simpa using h
      refine ⟨l.filterMap f, by rw [hcons], ?_⟩
      intro x
      rw [List.set_cons_zero, hcons]
    | succ i =>
      obtain ⟨rest, hbefore, hafter⟩ := ih (by simpa using h)
      have hswap (x : α) (l' : List α) (hl : (l'.filterMap f).Perm ((f x).toList ++ rest)) :
          ((b :: l').filterMap f).Perm ((f x).toList ++ ((f b).toList ++ rest)) := by
        rw [hcons]
        exact (hl.append_left _).trans (List.perm_append_comm_assoc ..)
      exact ⟨(f b).toList ++ rest, hswap a l hbefore, fun x => hswap x _ (hafter x)⟩

/-- The steps that construct, use or destroy a socket; no other touches the sockets. -/
def Step.onSockets : Step → Bool
  | .socket .. | .drop _ | .construct _ => true
  | _ => false

namespace Session

/-- What the living sockets hold, socket by socket. -/
def gather {α : Type} (ss : Session σ) (f : Socket → Option α) : List α :=
  ss.sockets.filterMap (·.bind f)

theorem gather_perm {α : Type} {ss : Session σ} {i : Nat} {s : Socket} (h : ss.socket? i = some s)
    (f : Socket → Option α) :
    ∃ rest, (ss.gather f).Perm ((f s).toList ++ rest) ∧ ∀ (world : World σ) (x : Option Socket),
      ({ ss with world, sockets := ss.sockets.set i x } : Session σ).gather f |>.Perm
        ((x.bind f).toList ++ rest) := by
  have hi : ss.sockets[i]? = some (some s) := Option.join_eq_some_iff.1 h
  obtain ⟨rest, hbefore, hafter⟩ := filterMap_set_perm hi (·.bind f)
  exact ⟨rest, hbefore, fun _ x => hafter x⟩

variable (T : Transport σ)

theorem run_append (ss : Session σ) (xs ys : List Step) :
    (ss.run T (xs ++ ys)).2 = ((ss.run T xs).2.run T ys).2 := by
  induction xs generalizing ss with
  | nil => rfl
  | cons step xs ih => exact ih (ss.step T step).2

/-- What every step of a run keeps holds at its end. -/
theorem run_induction {P : Session σ → Prop} {steps : List Step}
    (hstep : ∀ ss : Session σ, ∀ st ∈ steps, P ss → P (ss.step T st).2) {ss : Session σ}
    (h : P ss) : P (ss.run T steps).2 := by
  induction steps generalizing ss with
  | nil => exact h
  | cons st steps ih =>
    have hst := hstep ss st (List.mem_cons_self ..) h
    exact ih (fun ss st' hst' => hstep ss st' (List.mem_cons_of_mem st hst')) hst

/-- What one step of a run establishes and no step of the run destroys holds at its end. -/
theorem run_of_mem {P : Session σ → Prop} {steps : List Step} {step : Step} (hmem : step ∈ steps)
    (hkeep : ∀ ss : Session σ, ∀ st ∈ steps, P ss → P (ss.step T st).2)
    (hreach : ∀ ss : Session σ, P (ss.step T step).2) (ss : Session σ) : P (ss.run T steps).2 := by
  obtain ⟨before, after, rfl⟩ := List.append_of_mem hmem
  rw [run_append]
  change P (((ss.run T before).2.step T step).2.run T after).2
  apply run_induction T
  · intro ss st hst
    exact hkeep ss st (List.mem_append_right before (List.mem_cons_of_mem step hst))
  · exact hreach (ss.run T before).2

def turn? (i : Nat) (ss : Session σ) : Step → Option Turn
  | .socket j st => if j = i then (ss.socket? i).map fun s => Turn.of T s ss.world st else none
  | _ => none

/-- What a run does with socket `i`. -/
def turns (i : Nat) (ss : Session σ) : List Step → List Turn
  | [] => []
  | step :: rest => (turn? T i ss step).toList ++ turns i (ss.step T step).2 rest

variable {T} {ss : Session σ} {i j : Nat} {s : Socket}

theorem turn?_socket (hs : ss.socket? i = some s) (st : SocketStep) :
    turn? T i ss (.socket i st) = some (Turn.of T s ss.world st) := by
  simp only [turn?, if_true, hs, Option.map_some]

/-- The turns of a run are those of its steps. -/
theorem mem_of_mem_turns {o : Turn} {steps : List Step} (h : o ∈ ss.turns T i steps) :
    Step.socket i o.step ∈ steps := by
  induction steps generalizing ss with
  | nil => cases h
  | cons step rest ih =>
    rcases List.mem_append.1 h with hfirst | hrest
    · have hturn : turn? T i ss step = some o := Option.mem_toList.1 hfirst
      cases step with
      | socket j st =>
        by_cases hj : j = i
        · subst j
          rw [turn?, if_pos rfl, Option.map_eq_some_iff] at hturn
          obtain ⟨s, -, rfl⟩ := hturn
          exact List.mem_cons_self ..
        · rw [turn?, if_neg hj] at hturn
          cases hturn
      | _ => cases hturn
    · exact List.mem_cons_of_mem _ (ih hrest)

theorem lt_length_of_socket? (h : ss.socket? i = some s) : i < ss.sockets.length := by
  apply Nat.lt_of_not_le
  intro hi
  rw [socket?, List.getElem?_eq_none hi] at h
  cases h

theorem join_getElem?_set {sockets : List (Option Socket)} (hi : i < sockets.length)
    (x : Option Socket) (j : Nat) :
    (sockets.set i x)[j]?.join = if j = i then x else sockets[j]?.join := by
  by_cases hj : j = i
  · subst j
    rw [if_pos rfl, List.getElem?_set_self hi]
    rfl
  · rw [if_neg hj, List.getElem?_set_ne (Ne.symm hj)]

theorem step_socket (h : ss.socket? i = some s) (st : SocketStep) :
    (ss.step T (.socket i st)).2 =
      { ss with
        world := (s.perform T ss.world st).2.2
        sockets := ss.sockets.set i (some (s.perform T ss.world st).2.1) } := by
  simp only [step, h]

theorem step_answer (h : ss.socket? i = some s) (st : SocketStep) :
    (ss.step T (.socket i st)).1 = (s.perform T ss.world st).1 := by simp only [step, h]

theorem socket?_step_self (h : ss.socket? i = some s) (st : SocketStep) :
    (ss.step T (.socket i st)).2.socket? i = some (s.perform T ss.world st).2.1 := by
  rw [step_socket h, socket?, join_getElem?_set (lt_length_of_socket? h), if_pos rfl]

theorem step_socket_of_none (h : ss.socket? i = none) (st : SocketStep) :
    (ss.step T (.socket i st)).2 = ss := by simp only [step, h]

theorem step_drop (h : ss.socket? i = some s) :
    (ss.step T (.drop i)).2 =
      { ss with world := (s.stop T ss.world).2, sockets := ss.sockets.set i none } := by
  simp only [step, h]

theorem step_drop_of_none (h : ss.socket? i = none) : (ss.step T (.drop i)).2 = ss := by
  simp only [step, h]

theorem step_release {lease : Lease} {k : Nat} (h : ss.heldLease? k = some lease) :
    (ss.step T (.release k)).2 =
      { ss with
        world := ss.world.release lease
        tickets := ss.tickets.modify k fun t => { t with held := false } } := by
  simp only [step, h]

theorem step_release_of_none {k : Nat} (h : ss.heldLease? k = none) :
    (ss.step T (.release k)).2 = ss := by simp only [step, h]

theorem step_setPort_cases (T : Transport σ) (ss : Session σ) (k : Nat) (port : UInt16) :
    (ss.step T (.setPort k port)).2 = ss ∨
      ∃ lease, ss.heldLease? k = some lease ∧
        (ss.step T (.setPort k port)).2 = { ss with world := ss.world.setPort lease port } := by
  cases h : ss.heldLease? k with
  | none => exact .inl (by simp only [step, h])
  | some lease => exact .inr ⟨lease, rfl, by simp only [step, h]⟩

theorem step_leaseOutline (k : Nat) : (ss.step T (.leaseOutline k)).2 = ss := by
  cases h : ss.heldLease? k <;> simp only [step, h]

theorem step_sockets {st : Step} (hst : st.onSockets = false) :
    (ss.step T st).2.sockets = ss.sockets := by
  cases st with
  | socket | drop | construct => cases hst
  | release k =>
    cases h : ss.heldLease? k with
    | none => rw [step_release_of_none h]
    | some lease => rw [step_release h]
  | setPort k port =>
    rcases step_setPort_cases T ss k port with h | ⟨lease, -, h⟩ <;> rw [h]
  | leaseOutline k => rw [step_leaseOutline]
  | _ => rfl

/-- What a step makes of a living socket. -/
theorem socket?_step (T : Transport σ) (hs : ss.socket? i = some s) (st : Step) :
    (ss.step T st).2.socket? i = some s ∨ st = .drop i ∨
      ∃ op, st = .socket i op ∧
        (ss.step T st).2.socket? i = some (s.perform T ss.world op).2.1 := by
  cases st with
  | socket j op =>
    by_cases hij : i = j
    · subst j
      exact .inr (.inr ⟨op, rfl, socket?_step_self hs op⟩)
    · left
      cases hj : ss.socket? j with
      | none => rw [step_socket_of_none hj, hs]
      | some s' =>
        rw [step_socket hj, socket?, join_getElem?_set (lt_length_of_socket? hj), if_neg hij]
        exact hs
  | drop j =>
    by_cases hij : i = j
    · exact .inr (.inl (congrArg Step.drop hij.symm))
    · left
      cases hj : ss.socket? j with
      | none => rw [step_drop_of_none hj, hs]
      | some s' =>
        rw [step_drop hj, socket?, join_getElem?_set (lt_length_of_socket? hj), if_neg hij]
        exact hs
  | construct spec =>
    left
    rw [step, socket?, List.getElem?_append_left (lt_length_of_socket? hs)]
    exact hs
  | _ =>
    left
    rw [socket?, step_sockets rfl]
    exact hs

/-- The turns `past` are all that has happened to socket `i`, alive or not. -/
structure Tracks (T : Transport σ) (i : Nat) (past : List Turn) (ss : Session σ) : Prop where
  alive : ∀ s, ss.socket? i = some s → Lives T past s
  life : ∃ s, Lives T past s
  unborn : ss.sockets.length ≤ i → past = []

theorem Tracks.congr {past : List Turn} {ss' : Session σ} (h : Tracks T i past ss)
    (hsockets : ss'.sockets = ss.sockets) : Tracks T i past ss' where
  alive s hs := h.alive s (by rw [← hs, socket?, socket?, hsockets])
  life := h.life
  unborn hi := h.unborn (hsockets ▸ hi)

theorem Tracks.socket {past : List Turn} (h : Tracks T i past ss) (j : Nat) (st : SocketStep) :
    Tracks T i (past ++ (turn? T i ss (.socket j st)).toList) (ss.step T (.socket j st)).2 := by
  cases hj : ss.socket? j with
  | none =>
    have hturn : turn? T i ss (.socket j st) = none := by
      by_cases hji : j = i
      · subst j
        simp only [turn?, if_true, hj, Option.map_none]
      · simp only [turn?, if_neg hji]
    rw [step_socket_of_none hj, hturn, Option.toList_none, List.append_nil]
    exact h
  | some s =>
    have hlt := lt_length_of_socket? hj
    rw [step_socket hj]
    by_cases hji : j = i
    · subst j
      have hlife : Lives T (past ++ [Turn.of T s ss.world st]) (s.perform T ss.world st).2.1 :=
        .turn ss.world st (h.alive s hj)
      rw [turn?_socket hj]
      refine ⟨?_, ⟨_, hlife⟩, ?_⟩
      · intro s' hs'
        rw [socket?, join_getElem?_set hlt, if_pos rfl] at hs'
        cases hs'
        exact hlife
      · intro hi
        exact absurd hlt (Nat.not_lt.2 (by simpa using hi))
    · have hturn : turn? T i ss (.socket j st) = none := by simp only [turn?, if_neg hji]
      rw [hturn, Option.toList_none, List.append_nil]
      refine ⟨?_, h.life, ?_⟩
      · intro s' hs'
        rw [socket?, join_getElem?_set hlt, if_neg (Ne.symm hji)] at hs'
        exact h.alive s' hs'
      · intro hi
        exact h.unborn (by simpa using hi)

theorem Tracks.drop {past : List Turn} (h : Tracks T i past ss) (j : Nat) :
    Tracks T i past (ss.step T (.drop j)).2 := by
  cases hj : ss.socket? j with
  | none => rw [step_drop_of_none hj]; exact h
  | some s =>
    rw [step_drop hj]
    refine ⟨?_, h.life, ?_⟩
    · intro s' hs'
      rw [socket?, join_getElem?_set (lt_length_of_socket? hj)] at hs'
      split at hs'
      · cases hs'
      · exact h.alive s' hs'
    · intro hi
      exact h.unborn (by simpa using hi)

/-- A socket that is constructed has no turns behind it. -/
theorem Tracks.construct {past : List Turn} (h : Tracks T i past ss) (spec : SocketSpec) :
    Tracks T i past (ss.step T (.construct spec)).2 := by
  refine ⟨?_, h.life, ?_⟩
  · intro s hs
    by_cases hi : i < ss.sockets.length
    · apply h.alive
      simpa only [step, socket?, List.getElem?_append_left hi] using hs
    · rw [h.unborn (Nat.le_of_not_lt hi)]
      simp only [step, socket?, List.getElem?_append_right (Nat.le_of_not_lt hi),
        List.getElem?_singleton] at hs
      split at hs
      · obtain rfl : Socket.ofConfig (ss.tableOf spec.table) spec.config = s := by simpa using hs
        exact .fresh _ _
      · cases hs
  · intro hi
    apply h.unborn
    simp only [step, List.length_append, List.length_singleton] at hi
    omega

theorem Tracks.step {past : List Turn} (h : Tracks T i past ss) (st : Step) :
    Tracks T i (past ++ (turn? T i ss st).toList) (ss.step T st).2 := by
  cases st with
  | socket j op => exact h.socket j op
  | drop j =>
    change Tracks T i (past ++ []) _
    rw [List.append_nil]
    exact h.drop j
  | construct spec =>
    change Tracks T i (past ++ []) _
    rw [List.append_nil]
    exact h.construct spec
  | _ =>
    change Tracks T i (past ++ []) _
    rw [List.append_nil]
    exact h.congr (step_sockets rfl)

theorem Tracks.run {past : List Turn} (h : Tracks T i past ss) (steps : List Step) :
    Tracks T i (past ++ ss.turns T i steps) (ss.run T steps).2 := by
  induction steps generalizing ss past with
  | nil =>
    rw [turns, List.append_nil]
    exact h
  | cons st steps ih =>
    rw [turns, ← List.append_assoc]
    exact ih (h.step st)

theorem tracks_ofTables (T : Transport σ) (i : Nat) (transport : σ) (tables : List SlotTable)
    (specs : List SocketSpec) : Tracks T i [] (ofTables transport tables specs) where
  alive s hs := by
    simp only [ofTables, socket?, List.getElem?_map] at hs
    cases hspec : specs[i]? with
    | none => rw [hspec] at hs; cases hs
    | some spec =>
      rw [hspec] at hs
      cases hs
      exact .fresh _ _
  life := ⟨.ofConfig 0 .standard, .fresh _ _⟩
  unborn _ := rfl

/-- The turns that a run takes with a socket make the socket what it is at the end. -/
theorem tracks_turns (T : Transport σ) (i : Nat) (transport : σ) (tables : List SlotTable)
    (specs : List SocketSpec) (steps : List Step) :
    Tracks T i ((ofTables transport tables specs).turns T i steps)
      ((ofTables transport tables specs).run T steps).2 :=
  (tracks_ofTables T i transport tables specs).run steps

end Session
end Datagram
