import TunnelRelay.Pool.Making
import TunnelRelay.Proofs.Pool.Steps

/-! No creation leaves an endpoint in use that it does not hand over. While a tunnel is
made, the service differs from what it was by that one tunnel, the last; and whenever
the creation no longer holds the endpoint, the tunnel is closed and has let go of it. -/
namespace TunnelRelay

namespace Creation

structure Counted (c : Creation) : Prop where
  once : c.connects ≤ 1
  unbegun : ∀ e, c.stage = .bound e → c.connects = 0
  back : c.givenUp = c.made
  ready : ∀ e, c.stage = .ready e → c.made = 1
  pending : (∀ e, c.stage ≠ .ready e) → c.made = 0

structure Keeps (c c' : Creation) : Prop where
  targets : c'.targets = c.targets
  asked : c'.asked = c.asked
  held : c'.stage.held = c.stage.held ∨ c'.stage.held = none

theorem countedAfter {c : Creation} (counted : Counted c) (limit : Duration) (e : Event) : Counted (c.after limit e) := by
  obtain ⟨targets, asked, connects, made, givenUp, stage⟩ := c
  obtain ⟨once, unbegun, back, ready, pending⟩ := counted
  cases stage <;> cases e <;> constructor <;> simp_all [after, Stage.after]

theorem keepsAfter (c : Creation) (limit : Duration) (e : Event) : Keeps c (c.after limit e) := by
  obtain ⟨targets, asked, connects, made, givenUp, stage⟩ := c
  cases stage <;> cases e <;> constructor <;> simp [after, Stage.after, Stage.held]

theorem keepsRefl (c : Creation) : Keeps c c := ⟨rfl, rfl, .inl rfl⟩

theorem keepsTrans {c d e : Creation} (first : Keeps c d) (second : Keeps d e) : Keeps c e := by
  refine ⟨second.targets.trans first.targets, second.asked.trans first.asked, ?_⟩
  rcases second.held with same | gone
  · rcases first.held with kept | gone
    · exact .inl (same.trans kept)
    · exact .inr (same.trans gone)
  · exact .inr gone

theorem pollKeeps {P : Creation → Prop} {limit : Duration} (keeps : ∀ c e, P c → P (c.after limit e)) {c : Creation}
    (before : P c) (sight : Sight) : P (c.poll limit sight) := by
  unfold poll
  split
  · exact keeps _ _ before
  · have begun := keeps _ .begun before
    dsimp only
    split
    · exact begun
    · exact keeps _ _ begun

theorem countedPoll {c : Creation} (counted : Counted c) (limit : Duration) (sight : Sight) :
    Counted (c.poll limit sight) :=
  pollKeeps (P := Counted) (fun _ e before => countedAfter before limit e) counted sight

theorem keepsPoll (c : Creation) (limit : Duration) (sight : Sight) : Keeps c (c.poll limit sight) :=
  pollKeeps (P := Keeps c) (fun d e before => keepsTrans before (keepsAfter d limit e)) (keepsRefl c) sight

end Creation

namespace Service

def grown (s : Service) (x : Tunnel ProfileKey) : Service := { s with tunnels := s.tunnels ++ [x] }

def shut (x : Tunnel ProfileKey) : Tunnel ProfileKey := { x with life := x.life.dispose.1 }

section
variable {s : Service} {x : Tunnel ProfileKey}

theorem grownTunnel : (s.grown x).tunnels[s.tunnels.length]? = some x := by simp [grown]

theorem grownSet (y : Tunnel ProfileKey) :
    ({ s.grown x with tunnels := (s.grown x).tunnels.set s.tunnels.length y } : Service) = s.grown y := by
  simp [grown]

theorem grownChange (f : Tunnel ProfileKey → Tunnel ProfileKey) :
    (s.grown x).changeTunnel s.tunnels.length f = s.grown (f x) := by
  simp only [changeTunnel, grownTunnel]
  exact grownSet (f x)

theorem grownEnded : (s.grown x).loopEnded s.tunnels.length = x.loopEnded := by
  simp [loopEnded, grownTunnel]

theorem grownUse : (s.grown x).inUse = s.inUse ++ if x.life.listening then x.endpoint.toList else [] := by
  simp only [inUse, grown, List.filterMap_append]
  cases listening : x.life.listening <;> cases bound : x.endpoint <;> simp [listening, bound]

theorem disposeUnwatched (unwatched : x.life.handlers = []) : x.life.dispose.2 = [] := by
  cases closed : x.life.closed with
  | false => rw [Lifecycle.disposeOpen closed, unwatched]
  | true => rw [Lifecycle.disposeAgain closed]

theorem grownDispose (unwatched : x.life.handlers = []) :
    (s.grown x).dispose s.tunnels.length = s.grown (shut x) := by
  have untold := disposeUnwatched unwatched
  have split : x.life.dispose = (x.life.dispose.1, []) := by rw [← untold]
  simp only [dispose, grownTunnel]
  rw [split]
  simp only [List.foldl_nil, setLife, grownTunnel]
  exact grownSet _

def looped (x : Tunnel ProfileKey) : Tunnel ProfileKey := if (turn x).loopEnded then shut (turn x) else turn x

theorem grownLoop (unwatched : x.life.handlers = []) :
    (s.grown x).pollLoop s.tunnels.length = s.grown (looped x) := by
  have same : (turn x).life = x.life := (Tunnel.pollAllSame _ x).life
  simp only [pollLoop, grownTunnel, grownSet, looped]
  split
  · exact grownDispose (by rw [same]; exact unwatched)
  · rfl

/- The creation and its tunnel belong together: the tunnel is closed at the latest when the
creation no longer holds the endpoint, and a closed tunnel does not listen. -/
structure Fits (e : Endpoint) (c : Creation) (x : Tunnel ProfileKey) : Prop where
  counted : c.Counted
  endpoint : x.endpoint = some e
  held : c.stage.held = some e ∨ c.stage.held = none
  unwatched : x.life.handlers = []
  together : x.life.listening = !x.life.closed
  closed : c.stage.held = none → x.life.closed = true

theorem shutLife (x : Tunnel ProfileKey) (together : x.life.listening = !x.life.closed) :
    (shut x).life.closed = true ∧ (shut x).life.listening = false := by
  refine ⟨Lifecycle.disposeClosed x.life, ?_⟩
  cases closed : x.life.closed with
  | false => rw [shut, Lifecycle.disposeOpen closed]
  | true => rw [shut, Lifecycle.disposeAgain closed, together, closed, Bool.not_true]

theorem shutUnwatched (unwatched : x.life.handlers = []) : (shut x).life.handlers = [] := by
  cases closed : x.life.closed with
  | false => rw [shut, Lifecycle.disposeOpen closed]
  | true => rw [shut, Lifecycle.disposeAgain closed, unwatched]

theorem fitsShut {e : Endpoint} {c : Creation} (fits : Fits e c x) {c' : Creation} (counted : c'.Counted)
    (keeps : c.Keeps c') : Fits e c' (shut x) := by
  obtain ⟨closed, released⟩ := shutLife x fits.together
  refine ⟨counted, fits.endpoint, ?_, shutUnwatched fits.unwatched, by rw [closed, released]; rfl, fun _ => closed⟩
  rcases keeps.held with same | gone
  · exact same ▸ fits.held
  · exact .inr gone

theorem fitsRelayed {e : Endpoint} {c : Creation} {y : Tunnel ProfileKey} (fits : Fits e c x)
    (same : x.Same y) : Fits e c y := by
  refine ⟨fits.counted, same.endpoint.trans fits.endpoint, fits.held, ?_, ?_, ?_⟩ <;> rw [same.life]
  · exact fits.unwatched
  · exact fits.together
  · exact fits.closed

def made (s : Service) (x : Tunnel ProfileKey) (c : Creation) : Service × Making :=
  (s.grown x, ⟨c, some s.tunnels.length⟩)

theorem fitsFollow {e : Endpoint} {c c' : Creation} (fits : Fits e c x) (counted : c'.Counted) (keeps : c.Keeps c') :
    ∃ y, (s.grown x).follow ⟨c, some s.tunnels.length⟩ c' = made s y c' ∧ Fits e c' y ∧
      (y = x ∨ c'.stage.held = none ∧ y = shut x) := by
  simp only [follow]
  split
  · rename_i letGo
    simp only [Bool.and_eq_true, Option.isNone_iff_eq_none] at letGo
    exact ⟨shut x, by rw [grownDispose fits.unwatched]; rfl, fitsShut fits counted keeps, .inr ⟨letGo.2, rfl⟩⟩
  · rename_i still
    refine ⟨x, rfl, ⟨counted, fits.endpoint, ?_, fits.unwatched, fits.together, ?_⟩, .inl rfl⟩
    · rcases keeps.held with same | gone
      · exact same ▸ fits.held
      · exact .inr gone
    · intro none'
      simp only [none', Option.isNone_none, Bool.and_true, Bool.not_eq_true, Option.isSome_eq_false_iff,
        Option.isNone_iff_eq_none] at still
      exact fits.closed still

structure Calm (c : Creation) (x : Tunnel ProfileKey) : Prop where
  faultless : ∀ error, Incoming.fault error ∈ x.incoming → error.isTransient = true
  opened : c.stage.held.isSome = true → x.life.closed = false ∧ x.life.cancelled = false ∧ x.loopEnded = false

end
end Service

def Making.Happening.harmless : Making.Happening → Prop
  | .arrive (.fault error) => error.isTransient = true
  | _ => True

def Making.Turn.harmless : Making.Turn → Prop
  | .outside h => h.harmless
  | _ => True

namespace Service

section
variable {s : Service} {x y : Tunnel ProfileKey} {e : Endpoint} {c c' : Creation}

theorem calmFollow (calm : Calm c x) (keeps : c.Keeps c') (goes : y = x ∨ c'.stage.held = none ∧ y = shut x) :
    Calm c' y := by
  rcases goes with rfl | ⟨gone, rfl⟩
  · refine ⟨calm.faultless, fun held => calm.opened ?_⟩
    rcases keeps.held with same | gone
    · exact same ▸ held
    · simp [gone] at held
  · exact ⟨calm.faultless, by simp [gone]⟩

theorem calmPoll (x : Tunnel ProfileKey)
    (faultless : ∀ error, Incoming.fault error ∈ x.incoming → error.isTransient = true) :
    (∀ error, Incoming.fault error ∈ x.poll.incoming → error.isTransient = true) ∧
      (x.life.listening = true → x.life.cancelled = false → x.loopEnded = false → x.poll.loopEnded = false) := by
  unfold Tunnel.poll
  split
  · exact ⟨faultless, fun _ _ ended => ended⟩
  · split
    · rename_i stopped
      exact ⟨faultless, fun listening running _ => by simp [listening, running] at stopped⟩
    · split
      · exact ⟨faultless, fun _ _ ended => ended⟩
      · rename_i error rest come
        have rest' : ∀ error, Incoming.fault error ∈ rest → error.isTransient = true :=
          fun error mem => faultless error (by simp [come, mem])
        split
        · exact ⟨rest', fun _ _ ended => ended⟩
        · rename_i fatal
          exact absurd (faultless error (by simp [come])) fatal
      · rename_i peer rest come
        have rest' : ∀ error, Incoming.fault error ∈ rest → error.isTransient = true :=
          fun error mem => faultless error (by simp [come, mem])
        split <;> exact ⟨rest', fun _ _ ended => ended⟩

theorem calmPollAll (n : Nat) (x : Tunnel ProfileKey)
    (faultless : ∀ error, Incoming.fault error ∈ x.incoming → error.isTransient = true) :
    (∀ error, Incoming.fault error ∈ (Tunnel.pollAll n x).incoming → error.isTransient = true) ∧
      (x.life.listening = true → x.life.cancelled = false → x.loopEnded = false →
        (Tunnel.pollAll n x).loopEnded = false) := by
  have polled := Tunnel.pollAllKeeps (t := x) (P := fun y => y.life = x.life ∧
    (∀ error, Incoming.fault error ∈ y.incoming → error.isTransient = true) ∧
      (x.life.listening = true → x.life.cancelled = false → x.loopEnded = false → y.loopEnded = false))
    (fun y ⟨life, faultless, goes⟩ => by
      obtain ⟨rest, goes'⟩ := calmPoll y faultless
      rw [life] at goes'
      exact ⟨(Tunnel.pollSame y).life.trans life, rest, fun listening running ended =>
        goes' listening running (goes listening running ended)⟩) n ⟨rfl, faultless, fun _ _ ended => ended⟩
  exact polled.2

theorem fitsHappen (fits : Fits e c x) (h : Making.Happening) :
    ∃ y, happen (made s x c).1 (made s x c).2 h = s.grown y ∧ Fits e c y ∧ (h.harmless → Calm c x → Calm c y) := by
  cases h with
  | arrive i =>
    refine ⟨x.arrive i, grownChange _, fitsRelayed fits (Tunnel.arriveSame x i), fun fair calm => ?_⟩
    unfold Tunnel.arrive
    split
    · refine ⟨fun error mem => ?_, calm.opened⟩
      rcases List.mem_append.mp mem with old | new
      · exact calm.faultless error old
      · cases List.mem_singleton.mp new
        exact fair
    · exact calm
  | loop =>
    have same : x.Same (turn x) := Tunnel.pollAllSame _ x
    have relayed : Fits e c (turn x) := fitsRelayed fits same
    refine ⟨looped x, grownLoop fits.unwatched, ?_, fun _ calm => ?_⟩
    · unfold looped
      split
      · exact fitsShut relayed fits.counted (Creation.keepsRefl c)
      · exact relayed
    · obtain ⟨rest, goes⟩ := calmPollAll x.incoming.length x calm.faultless
      unfold looped
      split
      · refine ⟨rest, fun held => ?_⟩
        rename_i stopped
        obtain ⟨opened, running, going⟩ := calm.opened held
        have still : (turn x).loopEnded = false := goes (by simp [fits.together, opened]) running going
        simp [still] at stopped
      · refine ⟨rest, fun held => ?_⟩
        obtain ⟨opened, running, going⟩ := calm.opened held
        rw [same.life]
        exact ⟨opened, running, goes (by simp [fits.together, opened]) running going⟩
  | act index a =>
    refine ⟨(x.act index a).getD x, grownChange _, ?_, fun _ calm => ?_⟩
    · cases acted : x.act index a with
      | none => exact fits
      | some z => exact fitsRelayed fits (Tunnel.actSame acted)
    · cases acted : x.act index a with
      | none => exact calm
      | some z =>
        obtain ⟨-, c', c'', counted, -, -, rfl⟩ := Tunnel.actCases acted
        exact ⟨calm.faultless, calm.opened⟩

structure Goes (e : Endpoint) (c c' : Creation) (x y : Tunnel ProfileKey) : Prop where
  fits : Fits e c' y
  keeps : c.Keeps c'
  calm : Calm c x → Calm c' y

theorem goesFollow (fits : Fits e c x) (counted : c'.Counted) (keeps : c.Keeps c') :
    ∃ y, (s.grown x).follow ⟨c, some s.tunnels.length⟩ c' = made s y c' ∧ Goes e c c' x y := by
  obtain ⟨y, followed, fits', goes⟩ := fitsFollow (s := s) fits counted keeps
  exact ⟨y, followed, fits', keeps, fun calm => calmFollow calm keeps goes⟩

theorem goesPoll (limit : Duration) (sight : Creation.Sight) (fits : Fits e c x) :
    ∃ c' y, pollMaking (made s x c).1 limit (made s x c).2 sight = made s y c' ∧ Goes e c c' x y ∧
      (c' = c.poll limit sight ∨ c' = (c.poll limit sight).after limit .loopEnded) := by
  have counted := Creation.countedPoll fits.counted limit sight
  have keeps := Creation.keepsPoll c limit sight
  obtain ⟨y, followed, goes⟩ := goesFollow (s := s) fits counted keeps
  simp only [made] at followed
  simp only [pollMaking, made, followed]
  split
  · have later := Creation.keepsAfter (c.poll limit sight) limit .loopEnded
    obtain ⟨z, followed', goes'⟩ :=
      goesFollow (s := s) goes.fits (Creation.countedAfter counted limit .loopEnded) later
    exact ⟨_, z, followed', ⟨goes'.fits, Creation.keepsTrans keeps later, fun calm => goes'.calm (goes.calm calm)⟩,
      .inr rfl⟩
  · exact ⟨_, y, rfl, goes, .inl rfl⟩

theorem goesDrop (limit : Duration) (fits : Fits e c x) :
    ∃ y, dropMaking (made s x c).1 limit (made s x c).2 = made s y (c.after limit .drop) ∧
      Goes e c (c.after limit .drop) x y :=
  goesFollow fits (Creation.countedAfter fits.counted limit .drop) (Creation.keepsAfter c limit .drop)

theorem goesTurn (limit : Duration) (turn : Making.Turn) (fits : Fits e c x) :
    ∃ c' y, turnMaking limit (made s x c) turn = made s y c' ∧ Fits e c' y ∧ c.Keeps c' ∧
      (turn.harmless → Calm c x → Calm c' y) := by
  cases turn with
  | poll sight =>
    obtain ⟨c', y, polled, goes, -⟩ := goesPoll (s := s) limit sight fits
    exact ⟨c', y, polled, goes.fits, goes.keeps, fun _ => goes.calm⟩
  | drop =>
    obtain ⟨y, dropped, goes⟩ := goesDrop (s := s) limit fits
    exact ⟨_, y, dropped, goes.fits, goes.keeps, fun _ => goes.calm⟩
  | outside h =>
    obtain ⟨y, happened, fits', calm⟩ := fitsHappen (s := s) fits h
    exact ⟨c, y, by rw [turnMaking, happened]; rfl, fits', Creation.keepsRefl c, calm⟩

theorem goesTurns (limit : Duration) (turns : List Making.Turn) (fits : Fits e c x) :
    ∃ c' y, turns.foldl (turnMaking limit) (made s x c) = made s y c' ∧ Fits e c' y ∧ c.Keeps c' ∧
      ((∀ turn ∈ turns, turn.harmless) → Calm c x → Calm c' y) := by
  induction turns generalizing c x with
  | nil => exact ⟨c, x, rfl, fits, Creation.keepsRefl c, fun _ calm => calm⟩
  | cons turn rest ih =>
    obtain ⟨d, z, first, fits', keeps, calm⟩ := goesTurn (s := s) limit turn fits
    obtain ⟨c', y, later, fits'', keeps', calm'⟩ := ih fits'
    refine ⟨c', y, by rw [List.foldl_cons, first]; exact later, fits'', Creation.keepsTrans keeps keeps', ?_⟩
    intro harmless before
    exact calm' (fun turn mem => harmless turn (List.mem_cons_of_mem _ mem)) (calm (harmless turn (by simp)) before)

theorem failedTurn (limit : Duration) {reason : Failure} (failed : c.stage = .failed reason) (turn : Making.Turn) :
    turnMaking limit (s, ⟨c, none⟩) turn = (s, ⟨c, none⟩) := by
  have still (e : Creation.Event) : c.after limit e = c := by
    obtain ⟨targets, asked, connects, made, givenUp, stage⟩ := c
    cases failed
    cases e <;> rfl
  have unmoved (sight : Creation.Sight) : c.poll limit sight = c :=
    Creation.pollKeeps (P := (· = c)) (fun d e same => same ▸ still e) rfl sight
  cases turn <;> simp [turnMaking, pollMaking, dropMaking, happen, follow, unmoved, still]

theorem failedTurns (limit : Duration) {reason : Failure} (failed : c.stage = .failed reason)
    (turns : List Making.Turn) : turns.foldl (turnMaking limit) (s, ⟨c, none⟩) = (s, ⟨c, none⟩) := by
  induction turns with
  | nil => rfl
  | cons turn rest ih =>
    rw [List.foldl_cons, failedTurn limit failed turn]
    exact ih

def boundCreation (settings : ListenSettings) (p : Profile) (w : Surroundings Endpoint) (e : Endpoint) : Creation :=
  { targets := [(p.instanceLocator, p.port)], asked := (Creation.bindFor settings p w).asked, stage := .bound e }

def failedCreation (p : Profile) (asked : List Endpoint) (reason : Failure) : Creation :=
  { targets := [(p.instanceLocator, p.port)], asked, stage := .failed reason }

theorem startBound {settings : ListenSettings} {target : Locator → UInt16 → Except Failure Unit} {p : Profile}
    {w : Surroundings Endpoint} (admitted : target p.instanceLocator p.port = .ok ())
    (bound : (Creation.bindFor settings p w).outcome = .ok e) :
    s.startMaking settings target p w = made s (listeningTunnel settings p e) (boundCreation settings p w e) := by
  simp only [startMaking, Creation.start, admitted, bound]
  rfl

theorem startUnbound {settings : ListenSettings} {target : Locator → UInt16 → Except Failure Unit} {p : Profile}
    {w : Surroundings Endpoint} {reason : Failure} (admitted : target p.instanceLocator p.port = .ok ())
    (unbound : (Creation.bindFor settings p w).outcome = .error reason) :
    s.startMaking settings target p w = (s, ⟨failedCreation p (Creation.bindFor settings p w).asked reason, none⟩) := by
  simp only [startMaking, Creation.start, admitted, unbound]
  rfl

theorem startRefused {settings : ListenSettings} {target : Locator → UInt16 → Except Failure Unit} {p : Profile}
    {w : Surroundings Endpoint} {reason : Failure} (refused : target p.instanceLocator p.port = .error reason) :
    s.startMaking settings target p w = (s, ⟨failedCreation p [] reason, none⟩) := by
  simp only [startMaking, Creation.start, refused]
  rfl

theorem fitsStart (settings : ListenSettings) (p : Profile) (w : Surroundings Endpoint) (e : Endpoint) :
    Fits e (boundCreation settings p w e) (listeningTunnel settings p e) :=
  ⟨⟨Nat.zero_le _, fun _ _ => rfl, rfl, (fun _ at' => nomatch at'), fun _ => rfl⟩, rfl, .inl rfl, rfl, rfl,
    (fun none' => nomatch none')⟩

theorem calmStart (settings : ListenSettings) (p : Profile) (w : Surroundings Endpoint) (e : Endpoint) :
    Calm (boundCreation settings p w e) (listeningTunnel settings p e) :=
  ⟨(fun _ mem => nomatch mem), fun _ => ⟨rfl, rfl, rfl⟩⟩

end

structure Restored (s : Service) (w : Service × Making) : Prop where
  inUse : w.1.inUse = s.inUse
  closed : ∀ t, w.2.tunnel = some t →
    ∃ x, w.1.tunnels[t]? = some x ∧ x.life.closed = true ∧ x.life.listening = false

structure HandedOver (s : Service) (w : Service × Making) (t : TunnelId) (e : Endpoint) : Prop where
  inUse : w.1.inUse = s.inUse ++ [e]
  tunnel : ∃ x, w.1.tunnels[t]? = some x ∧ x.endpoint = some e ∧ x.life.closed = false
  new : s.tunnels[t]? = none
  connection : w.2.creation.made = 1 ∧ w.2.creation.givenUp = 1

structure Barren (s : Service) (w : Service × Making) (reason : Failure) : Prop where
  service : w.1 = s
  tunnel : w.2.tunnel = none
  stage : w.2.creation.stage = .failed reason
  connects : w.2.creation.connects = 0

section
variable {s : Service} {x : Tunnel ProfileKey} {e : Endpoint} {c : Creation}

theorem fitsRestored (fits : Fits e c x) (closed : x.life.closed = true) : Restored s (made s x c) := by
  have released : x.life.listening = false := by rw [fits.together, closed]; rfl
  refine ⟨by simp [made, grownUse, released], ?_⟩
  rintro t ⟨⟩
  exact ⟨x, grownTunnel, closed, released⟩

theorem fitsHandedOver (fits : Fits e c x) (opened : x.life.closed = false) {e' : Endpoint}
    (ready : c.stage = .ready e') : HandedOver s (made s x c) s.tunnels.length e := by
  refine ⟨?_, ⟨x, grownTunnel, fits.endpoint, opened⟩, by simp, fits.counted.ready e' ready, ?_⟩
  · simp [made, grownUse, fits.together, opened, fits.endpoint]
  · simpa [made, fits.counted.back] using fits.counted.ready e' ready

theorem barrenRestored {w : Service × Making} {reason : Failure} (barren : Barren s w reason) : Restored s w :=
  ⟨by rw [barren.service], by simp [barren.tunnel]⟩

theorem barrenOutcome {w : Service × Making} {reason : Failure} (barren : Barren s w reason) :
    w.2.outcome = some (.error reason) := by
  simp [Making.outcome, Creation.result, barren.stage, Creation.Stage.result]

end

section
variable (s : Service) (settings : ListenSettings) (target : Locator → UInt16 → Except Failure Unit) (p : Profile)
  (around : Surroundings Endpoint) (limit : Duration)

theorem makingGoes (turns : List Making.Turn) :
    let w := turns.foldl (turnMaking limit) (s.startMaking settings target p around)
    w.2.creation.targets = [(p.instanceLocator, p.port)] ∧
      ((∃ reason, target p.instanceLocator p.port = .error reason ∧ w.2.creation.asked = [] ∧ Barren s w reason) ∨
        (∃ reason, target p.instanceLocator p.port = .ok () ∧
          (Creation.bindFor settings p around).outcome = .error reason ∧ Barren s w reason) ∨
        ∃ e c x, target p.instanceLocator p.port = .ok () ∧ (Creation.bindFor settings p around).outcome = .ok e ∧
          w = made s x c ∧ Fits e c x ∧ ((∀ turn ∈ turns, turn.harmless) → Calm c x)) := by
  intro w
  cases admitted : target p.instanceLocator p.port with
  | error reason =>
    have stays : w = (s, ⟨failedCreation p [] reason, none⟩) := by
      simp only [w, startRefused admitted]
      exact failedTurns limit rfl turns
    rw [stays]
    exact ⟨rfl, .inl ⟨reason, rfl, rfl, rfl, rfl, rfl, rfl⟩⟩
  | ok =>
    cases bound : (Creation.bindFor settings p around).outcome with
    | error reason =>
      have stays : w = (s, ⟨failedCreation p (Creation.bindFor settings p around).asked reason, none⟩) := by
        simp only [w, startUnbound admitted bound]
        exact failedTurns limit rfl turns
      rw [stays]
      exact ⟨rfl, .inr (.inl ⟨reason, rfl, rfl, rfl, rfl, rfl, rfl⟩)⟩
    | ok e =>
      obtain ⟨c, x, goes, fits, keeps, calm⟩ :=
        goesTurns (s := s) limit turns (fitsStart settings p around e)
      have same : w = made s x c := by
        simp only [w, startBound admitted bound]
        exact goes
      rw [same]
      have calm' (fair : ∀ turn ∈ turns, turn.harmless) : Calm c x := calm fair (calmStart settings p around e)
      exact ⟨keeps.targets, .inr (.inr ⟨e, c, x, rfl, rfl, rfl, fits, calm'⟩)⟩

end

end Service
end TunnelRelay
