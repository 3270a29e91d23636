import TunnelRelay.Tunnel

/-! What the accept loop of a tunnel and the relays of its clients change, and what they
leave alone. -/
namespace TunnelRelay.Tunnel

variable {η : Type} {t t' : Tunnel η}

structure Same (t t' : Tunnel η) : Prop where
  life : t'.life = t.life
  endpoint : t'.endpoint = t.endpoint
  admission : t'.admission = t.admission

theorem arriveSame (t : Tunnel η) (i : Incoming) : Same t (t.arrive i) := by
  unfold arrive
  split <;> exact ⟨rfl, rfl, rfl⟩

theorem pollSame (t : Tunnel η) : Same t t.poll := by
  unfold poll
  repeat' split
  all_goals exact ⟨rfl, rfl, rfl⟩

theorem pollAllKeeps {P : Tunnel η → Prop} (keeps : ∀ t, P t → P t.poll) (n : Nat) (before : P t) :
    P (pollAll n t) := by
  induction n generalizing t with
  | zero => exact keeps t before
  | succ n ih =>
    unfold pollAll
    split
    · exact keeps t before
    · exact ih (keeps t before)

theorem pollAllSame (n : Nat) (t : Tunnel η) : Same t (pollAll n t) :=
  pollAllKeeps (P := Same t) (fun u same => ⟨(pollSame u).life.trans same.life,
    (pollSame u).endpoint.trans same.endpoint, (pollSame u).admission.trans same.admission⟩) n ⟨rfl, rfl, rfl⟩

def begins : Client.Action → Nat
  | .start => 1
  | _ => 0

theorem actCases {index : Nat} {a : Client.Action} (acted : t.act index a = some t') :
    (a = .cut → t.life.cancelled = true) ∧ ∃ c c' counted, t.clients[index]? = some c ∧
      c.after t.capacity a = some (c', counted) ∧
      t' = { t with
        clients := t.clients.set index c'
        statistics := t.statistics.count a.direction (UInt64.ofNat counted)
        connects := t.connects + begins a } := by
  simp only [act, bind, Option.bind_eq_some_iff] at acted
  obtain ⟨c, found, acted⟩ := acted
  generalize early : (_ && _ : Bool) = b at acted
  cases b with
  | true => contradiction
  | false =>
    obtain ⟨⟨c', counted⟩, after, last⟩ := Option.bind_eq_some_iff.mp acted
    refine ⟨?_, c, c', counted, found, after, ?_⟩
    · rintro rfl
      simpa using early
    · rw [← Option.some.inj last]
      cases a <;> rfl

theorem actSame {index : Nat} {a : Client.Action} (acted : t.act index a = some t') : Same t t' := by
  obtain ⟨-, c, c', counted, -, -, rfl⟩ := actCases acted
  exact ⟨rfl, rfl, rfl⟩

end TunnelRelay.Tunnel
