import TunnelRelay.Proofs.Config.Records
import TunnelRelay.Proofs.PortSearch
import TunnelRelay.Proofs.Session.Requests

/-! Requests on the network of a machine, and where their tunnels listen. A connection that is
answered at once leads to the tunnel or, once its accept loop has ended, to the reason; so the request
comes to what the session comes to. A tunnel listens on the endpoint of the options, or else on a port
of the settings. -/
namespace TunnelRelay
namespace Service

variable {s : Service} {settings : ListenSettings} {p : Profile} {around : Surroundings Endpoint} {limit : Duration}
  {e : Endpoint} {c : Creation} {reason : Failure}

theorem connectingFails (failed : c.stage = .failed reason) (answer : Except Failure Unit) :
    ((Session.connecting answer).foldl (waitStep limit) ((s, ⟨c, none⟩), none)).2 = some (.error reason) := by
  have polled (sight : Creation.Sight) : pollMaking s limit ⟨c, none⟩ sight = (s, ⟨c, none⟩) :=
    failedTurn limit failed (.poll sight)
  rw [Session.connecting, List.foldl_cons]
  refine toldStays limit _ ?_
  simp [waitStep, awaitMaking, polled, Making.outcome, Creation.result, failed, Creation.Stage.result, Sight.outcome]

def begun (s : Service) (settings : ListenSettings) (p : Profile) (around : Surroundings Endpoint) (e : Endpoint) :
    (Service × Making) × Option (Except Failure TunnelId) :=
  (made s (listeningTunnel settings p e) (boundCreation settings p around e), none)

theorem connectingConnects :
    ((Session.connecting (.ok ())).foldl (waitStep limit) (begun s settings p around e)).2 =
      some (.ok s.tunnels.length) := by
  have going : (s.grown (listeningTunnel settings p e)).loopEnded s.tunnels.length = false := grownEnded
  rw [Session.connecting, List.foldl_cons]
  refine toldStays limit _ ?_
  simp [begun, waitStep, awaitMaking, pollMaking, made, follow, boundCreation, Creation.poll, Creation.after,
    Creation.Stage.after, Creation.Sight.event, Creation.Stage.held, going, Making.outcome, Creation.result,
    Creation.Stage.result, Sight.outcome]

/- The tunnel is closed at the first look; its accept loop then ends, and the second look tells the failure. -/
theorem connectingRefused :
    ((Session.connecting (.error reason)).foldl (waitStep limit) (begun s settings p around e)).2 =
      some (.error reason) := by
  let x := listeningTunnel settings p e
  let c := (boundCreation settings p around e).poll limit { connect := some (.error reason) }
  have closing : c.stage = .closing reason := rfl
  have seen : waitStep limit (begun s settings p around e) (.look { probe := { connect := some (.error reason) } }) =
      (made s (shut x) c, none) := by
    have closes : (s.grown x).dispose s.tunnels.length = s.grown (shut x) := grownDispose rfl
    have going : (s.grown (shut x)).loopEnded s.tunnels.length = false := grownEnded
    simp [begun, waitStep, awaitMaking, pollMaking, made, follow, boundCreation, c, x, Creation.poll, Creation.after,
      Creation.Stage.after, Creation.Sight.event, Creation.Stage.held, closes, going, Making.outcome, Creation.result,
      Creation.Stage.result, Sight.outcome]
  have turned : waitStep limit (made s (shut x) c, none) (.outside .loop) = (made s (looped (shut x)) c, none) := by
    have loop : happen (made s (shut x) c).1 (made s (shut x) c).2 .loop = s.grown (looped (shut x)) := grownLoop rfl
    rw [waitStep, loop]
    rfl
  have ended : (looped (shut x)).loopEnded = true := loopedEnded (shutLife x rfl).2
  simp only [Session.connecting, List.foldl_cons, List.foldl_nil, seen, turned]
  exact lookEnded closing ended rfl

end Service

namespace Session

variable {m : Machine} {p : Plan}

structure Reached (m : Machine) (p : Plan) (e : Endpoint) : Prop where
  bound : (Creation.bindFor p.settings p.profile (surroundings m)).outcome = .ok e
  way : ∃ d a, p.routes.destination p.profile.instanceLocator p.profile.port = .ok d ∧
    (m.network.occupy e).reach d = .ok a

theorem obstacleNone {e : Endpoint} : obstacle m p e = none ↔
    ∃ d a, p.routes.destination p.profile.instanceLocator p.profile.port = .ok d ∧
      (m.network.occupy e).reach d = .ok a := by
  unfold obstacle
  cases p.routes.destination p.profile.instanceLocator p.profile.port with
  | error reason => simp [bind, Except.bind]
  | ok d =>
    simp only [bind, Except.bind]
    cases reached : (m.network.occupy e).reach d with
    | error reason => simp [reached]
    | ok a => exact ⟨fun _ => ⟨d, a, rfl, reached⟩, fun _ => rfl⟩

theorem reachedAdmitted {e : Endpoint} (reached : Reached m p e) :
    target p p.profile.instanceLocator p.profile.port = .ok () := by
  obtain ⟨d, a, known, -⟩ := reached.way
  rw [target, known]
  rfl

inductive Created (m : Machine) (p : Plan) (told : Option (Except Failure TunnelId)) : Prop where
  | failed {reason : Failure} (unreached : ∀ e, ¬ Reached m p e) (result : (create m p).result = some (.error reason))
      (tells : told = some (.error reason)) : Created m p told
  | ready {e : Endpoint} (reached : Reached m p e) (result : (create m p).result = some (.ok e))
      (tells : told = some (.ok 0)) : Created m p told

theorem networkCreates (m : Machine) (p : Plan) : Created m p (seen p (network m p)).2 := by
  simp only [seen, network]
  cases admitted : target p p.profile.instanceLocator p.profile.port with
  | error reason =>
    rw [Service.startRefused admitted]
    refine .failed (fun e reached => ?_) ?_ (Service.connectingFails rfl _)
    · cases admitted.symm.trans (reachedAdmitted reached)
    · simp only [create, Creation.start, admitted]
      rfl
  | ok =>
    cases bound : (Creation.bindFor p.settings p.profile (surroundings m)).outcome with
    | error reason =>
      rw [Service.startUnbound admitted bound]
      refine .failed (fun e reached => ?_) ?_ (Service.connectingFails rfl _)
      · cases bound.symm.trans reached.bound
      · simp only [create, Creation.start, admitted, bound]
        rfl
    | ok e =>
      rw [Service.startBound admitted bound]
      cases met : obstacle m p e with
      | none =>
        have answer : connection m p = .ok () := by simp only [connection, bound, met]
        rw [answer]
        refine .ready ⟨bound, obstacleNone.mp met⟩ ?_ Service.connectingConnects
        simp only [create, Creation.start, admitted, bound, tried, met]
        rfl
      | some reason =>
        have answer : connection m p = .error reason := by simp only [connection, bound, met]
        rw [answer]
        refine .failed (fun e' reached => ?_) ?_ Service.connectingRefused
        · cases bound.symm.trans reached.bound
          cases met.symm.trans (obstacleNone.mpr reached.way)
        · simp only [create, Creation.start, admitted, bound, tried, met]
          rfl

theorem forwardReady {e : Endpoint} (result : (create m p).result = some (.ok e)) :
    forward m p = .ok ⟨e, p.profile.instanceLocator⟩ := by
  simp only [forward, result, Option.get_some]

theorem forwardFailed {reason : Failure} (result : (create m p).result = some (.error reason)) :
    forward m p = .error (.transport (.ofFailure reason)) := by
  simp only [forward, result, Option.get_some]

theorem answerNetwork (permitted : p.profile.isPermitted = true) :
    answer p (request p (network m p)) = some (forward m p) := by
  rw [requestResumes permitted rfl]
  cases networkCreates m p with
  | failed unreached result tells =>
    obtain ⟨-, refuses, -⟩ := seenFails tells
    rw [answerRefused refuses, forwardFailed result]
  | ready reached result tells =>
    obtain ⟨e, found, grants, listens⟩ := seenGrants tells
    cases reached.bound.symm.trans found
    rw [answerGranted grants listens, forwardReady result]

theorem networkGrants (permitted : p.profile.isPermitted = true) :
    ((request p (network m p)).transport? 0).isSome = true ↔ ∃ e, Reached m p e := by
  rw [requestResumes permitted rfl]
  cases networkCreates m p with
  | failed unreached result tells =>
    obtain ⟨ungranted, -, -⟩ := seenFails tells
    simp [ungranted, unreached]
  | ready reached result tells =>
    obtain ⟨-, -, grants, -⟩ := seenGrants tells
    simp only [grants, Option.isSome_some, true_iff]
    exact ⟨_, reached⟩

def Truthful (bind : List Endpoint → Endpoint → Except Failure Endpoint) : Prop :=
  ∀ asked e bound, bind asked e = .ok bound → e.port ≠ 0 → bound.address = e.address ∧ bound.port = e.port

structure Placed (o : Options) (c : Config) (bind : List Endpoint → Endpoint → Except Failure Endpoint)
    (e : Endpoint) : Prop where
  address : e.address = .v4 (if o.localPort.isSome || c.loopbackOnly then .localhost else .unspecified)
  port : o.localPort = some e.port ∨ c.ephemeralPorts.contains e.port = true
  nonzero : e.port ≠ 0
  -- The port that was asked for is given up only when it cannot be had.
  wanted : ∀ port, o.localPort = some port → port ≠ 0 → (∃ bound, bind [] (.v4 .localhost port) = .ok bound) →
    e.port = port

theorem networkTruthful (m : Machine) : Truthful (surroundings m).bind := by
  intro asked e bound found port
  obtain ⟨w, listens, rfl⟩ : ∃ w, m.network.bind e = .ok w ∧ w.1 = bound := by
    cases listens : m.network.bind e with
    | error reason => simp [surroundings, listens, Except.map] at found
    | ok w => exact ⟨w, rfl, by simpa [surroundings, listens, Except.map] using found⟩
  have listens' := Config.mapErrorOk.mp listens
  unfold Network.listen at listens'
  dsimp only at listens'
  split at listens'
  · cases listens'
  split at listens'
  · cases listens'
  · cases listens'
    exact ⟨rfl, rfl⟩

variable {o : Options} {c : Config}

theorem preferredLoopback {e : Endpoint} (chosen : preferred o = some e) : e.isLoopback = true := by
  obtain ⟨port, -, rfl⟩ := Option.map_eq_some_iff.mp chosen
  rfl

theorem preferredAddress (o : Options) (c : Config) : PortSearch.address (.ofConfig c) (preferred o) =
    .v4 (if o.localPort.isSome || c.loopbackOnly then .localhost else .unspecified) := by
  unfold preferred
  cases o.localPort with
  | some port => rfl
  | none => rfl

theorem boundPlaced {around : Surroundings Endpoint} (truthful : Truthful around.bind) {e : Endpoint}
    (found : (PortSearch.run (.ofConfig c) (preferred o) around).outcome = .ok e) : Placed o c around.bind e := by
  have acceptable : PortSearch.forbidden (.ofConfig c) (preferred o) = none := by
    rw [PortSearch.forbidden, Option.filter_eq_none_iff]
    intro e chosen
    simp [preferredLoopback chosen]
  have budget : 0 < (ListenSettings.ofConfig c).attempts := Nat.lt_of_lt_of_le Nat.zero_lt_one (Nat.le_max_left ..)
  obtain ⟨before, last, asked, candidates, refused, answer⟩ := PortSearch.runFound acceptable budget found
  have nonzero : last.port ≠ 0 := candidates.nonzero last (by simp)
  obtain ⟨-, here⟩ := PortSearch.runAddress last (by rw [asked]; simp)
  obtain ⟨address, port⟩ := truthful before last e answer nonzero
  refine ⟨?address, ?port, port ▸ nonzero, fun wanted given some' had => ?wanted⟩
  case address =>
    rw [address, here, preferredAddress]
  case port =>
    rw [port]
    rcases candidates.ranged before.length last (by simp) with inside | ⟨-, chosen⟩
    · exact .inr inside
    · obtain ⟨port, given, rfl⟩ := Option.map_eq_some_iff.mp chosen
      exact .inl given
  case wanted =>
    obtain ⟨bound, binds⟩ := had
    have first : PortSearch.withPort (preferred o) = some (.v4 .localhost wanted) := by
      simp [PortSearch.withPort, preferred, given, Endpoint.port, some']
    rw [port, PortSearch.preferredKept candidates refused first binds]
    rfl

end Session
end TunnelRelay
