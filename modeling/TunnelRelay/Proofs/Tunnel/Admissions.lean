import TunnelRelay.Proofs.Pool.Growth
import TunnelRelay.Proofs.Pool.Making
import TunnelRelay.Proofs.PortSearch
import TunnelRelay.Proofs.Tunnel.Runs

/-! Who gets through a tunnel. The clients of a tunnel are those of the accepted that it
allows; each connection to the remote side is one of theirs. What a tunnel allows, and
where it may listen, comes from the settings and the profile it was made with. -/
namespace TunnelRelay.Tunnel

variable {η : Type} {t t' u : Tunnel η} {s : Step η} {past steps : List (Step η)}

def starts (steps : List (Step η)) : Nat :=
  steps.countP fun
    | .act _ .start => true
    | _ => false

theorem acceptedLast (ran : t.run past = some u) : t.accepted (past ++ [s]) = t.accepted past ++ u.taken s := by
  induction past generalizing t with
  | nil =>
    cases ran
    simp only [List.nil_append, accepted]
    split <;> rw [List.append_nil]
  | cons first rest ih =>
    obtain ⟨b, stepped, ran⟩ := Option.bind_eq_some_iff.mp ran
    simp only [List.cons_append, accepted, stepped, ih ran, List.append_assoc]

theorem takesPeers (takes : Takes t s t') :
    t'.clients.map Client.peer = t.clients.map Client.peer ++ (t.taken s).filter t.admission.allows := by
  cases takes with
  | @act index a c c' n allowed found after =>
    rw [Client.setPeers found (Client.doesPeer (Client.does after))]
    simp [taken]
  | join next allowed => simp [taken, next, allowed]
  | turn refused idle =>
    cases next : t.next? with
    | none => simp [taken, next, idle.clients]
    | some peer => simp [taken, next, idle.clients, refused peer next]
  | other unacted unasked idle =>
    have nothing : t.taken s = [] := by
      unfold taken
      split
      · contradiction
      · rfl
    simp [nothing, idle.clients]

theorem runPeers (start : t.clients = []) (ran : t.run steps = some u) :
    u.clients.map Client.peer = (t.accepted steps).filter t.admission.allows := by
  induction steps using List.reverseRecOn generalizing u with
  | nil =>
    cases ran
    simp [start, accepted]
  | append_singleton past s ih =>
    obtain ⟨b, before, last⟩ := runLast ran
    rw [takesPeers (stepTakes last), ih before, acceptedLast before, (runFrame before).1, List.filter_append]

theorem takesConnects (takes : Takes t s t') : t'.connects = t.connects + starts [s] := by
  cases takes with
  | @act index a => cases a <;> rfl
  | join next allowed => rfl
  | turn refused idle => exact idle.connects
  | other unacted unasked idle =>
    rw [idle.connects]
    cases s with
    | act index a => exact absurd rfl (unacted index a)
    | _ => rfl

theorem runConnects (ran : t.run steps = some u) : u.connects = t.connects + starts steps := by
  induction steps using List.reverseRecOn generalizing u with
  | nil =>
    cases ran
    rfl
  | append_singleton past s ih =>
    obtain ⟨b, before, last⟩ := runLast ran
    rw [takesConnects (stepTakes last), ih before, Nat.add_assoc]
    simp [starts, List.countP_append]

theorem startAllowed {index : Nat} (start : t.clients = []) (ran : t.run steps = some u)
    (begun : .act index .start ∈ steps) :
    ∃ c, u.clients[index]? = some c ∧ t.admission.allows c.peer = true := by
  have did : .start ∈ own index steps := ownMem.mpr begun
  cases found : u.clients[index]? with
  | none =>
    rw [(runAlone start ran).2 index found] at did
    simp at did
  | some c =>
    refine ⟨c, rfl, ?_⟩
    have mem : c.peer ∈ u.clients.map Client.peer := List.mem_map_of_mem (List.mem_of_getElem? found)
    rw [runPeers start ran] at mem
    exact (List.mem_filter.mp mem).2

structure Searched (settings : ListenSettings) (p : Profile) (w : Surroundings Endpoint) : Prop where
  loopback : settings.loopbackOnly = true → ∀ e ∈ (Creation.bindFor settings p w).asked, e.isLoopback = true
  invalid : settings.loopbackOnly = true → ∀ e, p.localEndpoint = some e → e.isLoopback = false →
    Creation.bindFor settings p w = ⟨[], .error (.invalidEndpoint e)⟩
  unspecified : settings.loopbackOnly = false → p.localEndpoint = none →
    ∀ e ∈ (Creation.bindFor settings p w).asked, e.address = .v4 .unspecified

structure Admitted (settings : ListenSettings) (p : Profile) (start t : Tunnel η) (steps : List (Step η)) : Prop where
  begun : ∀ index, .act index .start ∈ steps → ∃ c, t.clients[index]? = some c ∧ p.policy.admits c.peer = true ∧
    (settings.loopbackOnly = true → c.peer.isLoopback = true)
  connects : t.connects = starts steps
  loopback : settings.loopbackOnly = true →
    t.clients.map Client.peer = (start.accepted steps).filter fun peer => peer.isLoopback && p.policy.admits peer
  open' : settings.loopbackOnly = false → t.clients.map Client.peer = (start.accepted steps).filter p.policy.admits

theorem searched (settings : ListenSettings) (p : Profile) (w : Surroundings Endpoint) : Searched settings p w := by
  refine ⟨PortSearch.runLoopback, fun only e preferred outside => ?_, fun all none' e mem => ?_⟩
  · exact PortSearch.runForbidden (by simp [PortSearch.forbidden, preferred, only, outside])
  · rw [(PortSearch.runAddress e mem).2]
    simp [PortSearch.address, none', all]

theorem admitted {settings : ListenSettings} {p : Profile} {e : Endpoint} {steps : List (Step ProfileKey)}
    {t : Tunnel ProfileKey} (ran : (Service.listeningTunnel settings p e).run steps = some t) :
    Admitted settings p (Service.listeningTunnel settings p e) t steps := by
  have peers := runPeers rfl ran
  refine ⟨fun index begun => ?_, ?_, fun only => ?_, fun all => ?_⟩
  · obtain ⟨c, found, allowed⟩ := startAllowed rfl ran begun
    simp only [Service.listeningTunnel, make, Admission.allows, Bool.and_eq_true, Bool.or_eq_true,
      Bool.not_eq_true'] at allowed
    exact ⟨c, found, allowed.2, fun only => allowed.1.resolve_left (by simp [only])⟩
  · rw [runConnects ran]
    exact Nat.zero_add _
  · rw [peers]
    congr 1
    funext peer
    simp [Service.listeningTunnel, make, Admission.allows, only]
  · rw [peers]
    congr 1
    funext peer
    simp [Service.listeningTunnel, make, Admission.allows, all]

/- Whatever the profile and its policy, the random draws, the binder and the clients do. -/
theorem loopbackConfined (settings : ListenSettings) (p : Profile) (w : Surroundings Endpoint) :
    Searched settings p w ∧
      ∀ (s : Service) (target : Locator → UInt16 → Except Failure Unit) (id : TunnelId) (x : Tunnel ProfileKey),
        (s.startMaking settings target p w).2.tunnel = some id →
        (s.startMaking settings target p w).1.tunnels[id]? = some x →
        ∀ steps t, x.run steps = some t → Admitted settings p x t steps := by
  refine ⟨searched settings p w, fun s target id x made there steps t ran => ?_⟩
  cases known : target p.instanceLocator p.port with
  | error reason =>
    rw [Service.startRefused known] at made
    contradiction
  | ok =>
    cases bound : (Creation.bindFor settings p w).outcome with
    | error reason =>
      rw [Service.startUnbound known bound] at made
      contradiction
    | ok e =>
      rw [Service.startBound known bound] at made there
      cases made
      simp only [Service.made, Service.grownTunnel, Option.some.injEq] at there
      subst there
      exact admitted ran

def openDesktop : Profile := { Shared.desktop with policy := { Policy.allowAll with admits := fun _ => true } }

theorem loopbackConfinedStranger :
    let settings : ListenSettings := { ports := ⟨50000, 50002⟩ }
    let around : Surroundings Endpoint :=
      { bind := fun _ e => if e.port = 50000 then .error (.ofBind e (.described .addrInUse "")) else .ok e
        draw := fun drawing _ => drawing - 1
        cancelled := fun _ => false }
    let steps : List (Step ProfileKey) :=
      [.arrive (.client (.v4 ⟨10, 0, 0, 1⟩ 40000)), .arrive (.client (.v4 .localhost 40001)), .accept, .accept,
        .act 0 .start]
    Searched settings openDesktop around ∧ ∃ x t, x.run steps = some t ∧ Admitted settings openDesktop x t steps ∧
      t.clients.map Client.peer = [.v4 .localhost 40001] := by
  intro settings around steps
  obtain ⟨searched, admits⟩ := loopbackConfined settings openDesktop around
  have bound : (Creation.bindFor settings openDesktop around).outcome = .ok (.v4 .localhost 50001) := by decide
  have made := @Service.startBound {} (.v4 .localhost 50001) settings (fun _ _ => .ok ()) openDesktop around rfl bound
  refine ⟨searched, Service.listeningTunnel settings openDesktop (.v4 .localhost 50001), _, rfl, ?_, rfl⟩
  exact admits {} (fun _ _ => .ok ()) 0 _ (by rw [made]; rfl) (by rw [made]; rfl) steps _ rfl

end TunnelRelay.Tunnel
