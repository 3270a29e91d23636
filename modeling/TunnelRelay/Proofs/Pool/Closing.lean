import TunnelRelay.Proofs.Pool.References

/-! Closing at once. A teardown that nothing comes between takes the service where
`Service.dispose` takes it: the flag, the cancellation, the socket and the handlers in
single steps are the whole of closing a tunnel. -/
namespace TunnelRelay.Shared
open Teardown (Phase)

theorem aloneStep {c : Shared} {i : Nat} {d : Teardown} (found : c.teardowns[i]? = some d) {s : Service}
    {phase : Phase} (worked : c.proceed d = some (s, phase)) :
    ∃ c', c.step (.teardown i) = some c' ∧ c'.service = s ∧ c'.teardowns[i]? = some { d with phase } := by
  refine ⟨{ c.withService s with teardowns := c.teardowns.set i { d with phase } }, ?_, rfl, setSelf found _⟩
  simp [step, stepTeardown, found, worked]

theorem livedAgain {s : Service} {t : TunnelId} {y : Tunnel ProfileKey} (tunnel : s.tunnels[t]? = some y)
    (before life : Lifecycle ProfileKey) : (lived s t y before).setLife t life = lived s t y life := by
  have here : (lived s t y before).tunnels[t]? = some { y with life := before } := setSelf tunnel _
  rw [setLifeFound here]
  simp [lived]

theorem notifyAlone {t : TunnelId} (keys : List ProfileKey) {c : Shared} {i : Nat}
    (found : c.teardowns[i]? = some { tunnel := t, borrowed := true, phase := .notify keys })
    (alive : c.service.alive = true) {y : Tunnel ProfileKey} (tunnel : c.service.tunnels[t]? = some y) :
    ∃ c', c.run (List.replicate (2 * keys.length) (.teardown i)) = some c' ∧
      c'.service = keys.foldl (Service.runHandler t) c.service ∧
      c'.teardowns[i]? = some { tunnel := t, borrowed := true, phase := .ended } := by
  induction keys generalizing c with
  | nil => exact ⟨c, rfl, rfl, found⟩
  | cons key rest ih =>
    have present : c.held t = true := teardownHeld found rfl (by simp [Phase.notify])
    have forgets : c.proceed { tunnel := t, borrowed := true, phase := .notify (key :: rest) } =
        some (c.service.forget t key, .publishing rest) := by
      simp [proceed, Phase.notify, tunnel, present]
    obtain ⟨d, first, service, at'⟩ := aloneStep found forgets
    have publishes : d.proceed { tunnel := t, borrowed := true, phase := .publishing rest } =
        some (d.service.publish (.closed t), .notify rest) := by
      have still : d.service.tunnels[t]? = some y := service ▸ tunnel
      simp [proceed, still]
    obtain ⟨e, second, told, notified⟩ := aloneStep at' publishes
    have handled : e.service = Service.runHandler t c.service key := by
      simp [told, service, Service.runHandler, alive]
    have lasting : e.service.alive = true := by
      simp [told, service, Service.publish, Service.forget, alive]
    have still : e.service.tunnels[t]? = some y := by
      simpa [told, service, Service.publish, Service.forget] using tunnel
    obtain ⟨f, ran, folded, ended⟩ := ih notified lasting still
    refine ⟨f, ?_, ?_, ended⟩
    · have count : 2 * (key :: rest).length = 2 * rest.length + 1 + 1 := by simp; omega
      rw [count, List.replicate_succ, List.replicate_succ]
      exact runStep first (runStep second ran)
    · rw [folded, handled]
      rfl

/- A teardown that nothing interrupts does what closing the tunnel at once does. -/
theorem teardownAlone {c : Shared} {i : Nat} {t : TunnelId}
    (found : c.teardowns[i]? = some { tunnel := t, borrowed := true }) (alive : c.service.alive = true)
    {y : Tunnel ProfileKey} (tunnel : c.service.tunnels[t]? = some y) :
    ∃ n c', c.run (List.replicate n (.teardown i)) = some c' ∧ c'.service = c.service.dispose t ∧
      c'.teardowns[i]? = some { tunnel := t, borrowed := true, phase := .ended } := by
  cases closed : y.life.closed with
  | true =>
    have late : c.proceed { tunnel := t, borrowed := true } = some (c.service, .ended) := by
      simp [proceed, tunnel, Lifecycle.flagClosed closed]
    obtain ⟨d, first, same, ended⟩ := aloneStep found late
    refine ⟨1, d, runStep first (runNil d), ?_, ended⟩
    have stays : c.service.tunnels.set t y = c.service.tunnels := by
      obtain ⟨bound, rfl⟩ := List.getElem?_eq_some_iff.mp tunnel
      exact List.set_getElem_self bound
    simp [same, Service.dispose, Service.setLife, tunnel, Lifecycle.disposeAgain closed, stays]
  | false =>
    have flags : c.proceed { tunnel := t, borrowed := true } =
        some (lived c.service t y { y.life with closed := true }, .cancelling) := by
      simp [proceed, tunnel, Lifecycle.flagOpen closed, setLifeFound tunnel]
    obtain ⟨d, first, flagged, cancelling⟩ := aloneStep found flags
    have open' : d.service.tunnels[t]? = some { y with life := { y.life with closed := true } } :=
      flagged ▸ setSelf tunnel _
    have cancels : d.proceed { tunnel := t, borrowed := true, phase := .cancelling } =
        some (lived c.service t y { y.life with closed := true, cancelled := true }, .releasing) := by
      simp only [proceed, open', bind, Option.bind_some]
      rw [flagged, livedAgain tunnel]
      rfl
    obtain ⟨e, second, cancelled, releasing⟩ := aloneStep cancelling cancels
    have bound : e.service.tunnels[t]? = some { y with life := { y.life with closed := true, cancelled := true } } :=
      cancelled ▸ setSelf tunnel _
    have releases : e.proceed { tunnel := t, borrowed := true, phase := .releasing } =
        some (lived c.service t y { y.life with closed := true, cancelled := true, listening := false },
          .taking) := by
      simp only [proceed, bound, bind, Option.bind_some]
      rw [cancelled, livedAgain tunnel]
      rfl
    obtain ⟨f, third, released, taking⟩ := aloneStep releasing releases
    have free : f.service.tunnels[t]? =
        some { y with life := { y.life with closed := true, cancelled := true, listening := false } } :=
      released ▸ setSelf tunnel _
    have takes : f.proceed { tunnel := t, borrowed := true, phase := .taking } =
        some (lived c.service t y ⟨true, true, false, []⟩, .notify y.life.handlers) := by
      simp only [proceed, free, bind, Option.bind_some]
      rw [released, Lifecycle.take, livedAgain tunnel]
    obtain ⟨g, fourth, taken, notifying⟩ := aloneStep taking takes
    have left : g.service.tunnels[t]? = some { y with life := ⟨true, true, false, []⟩ } := taken ▸ setSelf tunnel _
    obtain ⟨h, ran, told, ended⟩ := notifyAlone y.life.handlers notifying (by simp [taken, lived, alive]) left
    refine ⟨2 * y.life.handlers.length + 4, h, ?_, ?_, ended⟩
    · exact runStep first (runStep second (runStep third (runStep fourth ran)))
    · simp [told, taken, Service.dispose, tunnel, setLifeFound tunnel, Lifecycle.disposeOpen closed]

end TunnelRelay.Shared
