import Datagram.Proofs.Custody

/-!
# What an operation does to the slots

A bound socket holds one lease. Whatever an operation adds to the marks of the slot tables it adds
to what its socket holds, and whatever it takes away from the one it takes away from the other, act
by act and so in every way the operation can end. The lease must be marked beforehand, since
releasing a slot that is free would take nothing away.
-/

namespace Datagram

variable {σ : Type} {table : Nat} {x y : Stage} {ts ts' : List SlotTable}
  {cs : List (Call × List SlotTable)}

theorem Act.balance (h : Act table x ts cs y ts')
    (held : ∀ l, x.lease? = some l → l.marked ts = true) (l : Lease) :
    (l.marked ts').toNat + x.lease?.toList.count l =
      (l.marked ts).toNat + y.lease?.toList.count l := by
  cases h with
  | acquire hslot => exact Lease.marked_taken hslot l
  | call _ _ hc => rw [hc.lease?_eq]
  | record =>
    rw [Lease.marked_noted]
    rfl
  | @release lease => exact Lease.marked_freed (held lease rfl) l

theorem Custody.balance (h : Custody table x ts cs y ts')
    (held : ∀ l, x.lease? = some l → l.marked ts = true) (l : Lease) :
    (l.marked ts').toNat + x.lease?.toList.count l =
      (l.marked ts).toNat + y.lease?.toList.count l := by
  induction h with
  | refl => rfl
  | tail h ha ih =>
    have hact := ha.balance (h.marked held) l
    omega

namespace Socket

def lease? (s : Socket) : Option Lease := s.binding.map (·.lease)

theorem lease?_stage (s : Socket) : s.stage.lease? = s.lease? := by
  rw [stage, lease?]
  cases s.binding <;> rfl

variable (T : Transport σ) {s : Socket} {w : World σ}

theorem Opening.table_eq {table : Nat} {port : UInt16} {b : Binding} {tables : List SlotTable}
    {cs : List Call} (h : Opening T table port w (.ok b) tables cs) : b.lease.table = table := by
  cases h
  rfl

/-- An operation changes the marks of a lease by what it changes of the socket's own lease. -/
theorem perform_balance (held : ∀ l, s.lease? = some l → l.marked w.tables = true)
    (st : SocketStep) (l : Lease) :
    (l.marked (s.perform T w st).2.2.tables).toNat + s.lease?.toList.count l =
      (l.marked w.tables).toNat + (s.perform T w st).2.1.lease?.toList.count l := by
  rw [← lease?_stage] at held
  obtain ⟨⟨cs, -, hcustody⟩, -⟩ := perform_attends T s w held st
  rw [← lease?_stage, ← lease?_stage]
  exact hcustody.balance held l

theorem stop_balance (held : ∀ l, s.lease? = some l → l.marked w.tables = true) (l : Lease) :
    (l.marked (s.stop T w).2.tables).toNat + s.lease?.toList.count l =
      (l.marked w.tables).toNat := by
  have hstop := perform_balance T held .stop l
  change _ = _ + (s.stop T w).1.lease?.toList.count l at hstop
  rw [stop_released] at hstop
  exact hstop

/-- The lease of a bound socket is one of the socket's own table. -/
theorem perform_table_eq (st : SocketStep)
    (h : ∀ b, s.binding = some b → b.lease.table = s.table) (b : Binding)
    (hb : (s.perform T w st).2.1.binding = some b) :
    b.lease.table = (s.perform T w st).2.1.table := by
  rw [(perform_keeps T s w st).1]
  by_cases hside : st.side = .lifecycle
  · cases st with
    | begin port =>
      obtain ⟨base, w₀, opened, cs, -, hopening, -, -, hs⟩ := begin_spec T port s w
      change (s.begin T port w).2.1.binding = some b at hb
      rw [hs] at hb
      cases opened with
      | ok b' =>
        cases hb
        exact hopening.table_eq
      | error e => cases hb
    | stop =>
      change (s.stop T w).1.binding = some b at hb
      rw [stop_released] at hb
      cases hb
    | _ => cases hside
  · rw [perform_binding T s w hside] at hb
    exact h b hb

end Socket
end Datagram
