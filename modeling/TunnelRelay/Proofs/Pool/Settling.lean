import Mathlib.Logic.Relation
import TunnelRelay.Proofs.Pool.Closing
import TunnelRelay.Proofs.Pool.Gateway

/-! What follows from an end: a teardown's next step, that a maker lets go of a tunnel it gave
up, and that an open tunnel is closed when nobody refers to it any longer. All of that is done
at once, so that there is a state in which none of it is left to do. -/
namespace TunnelRelay
open Service (Request Stage)

namespace Teardown

/- How much is left for a teardown to do; a handler that has run leaves a reference behind. -/
def Phase.load : Phase → Nat
  | flagging => 4
  | cancelling => 3
  | releasing => 2
  | taking => 1
  | forgetting _ rest => 3 * rest.length + 3
  | publishing rest => 3 * rest.length + 2
  | ended => 0

theorem loadNotify (keys : List ProfileKey) : (Phase.notify keys).load = 3 * keys.length := by
  cases keys <;> simp [Phase.notify, Phase.load, Nat.mul_add]

end Teardown

namespace Shared

variable {c c' : Shared} {a : Action}

theorem openTunnel {s : Service} {t : TunnelId} (opened : s.isOpen t = true) :
    ∃ y, s.tunnels[t]? = some y ∧ y.life.closed = false := by
  unfold Service.isOpen at opened
  simpa [Option.any_eq_true] using opened

theorem teardownEnabled {i : Nat} {d : Teardown} (found : c.teardowns[i]? = some d)
    (known : d.tunnel < c.service.tunnels.length) (busy : d.phase ≠ .ended) :
    ∃ c', c.step (.teardown i) = some c' := by
  obtain ⟨⟨s, phase⟩, worked⟩ : ∃ next, c.proceed d = some next := by
    unfold proceed
    rw [List.getElem?_eq_getElem known]
    cases at' : d.phase with
    | ended => exact absurd at' busy
    | flagging =>
      simp only [bind, Option.bind_some]
      split <;> exact ⟨_, rfl⟩
    | _ => exact ⟨_, rfl⟩
  obtain ⟨c', moved, -⟩ := aloneStep found worked
  exact ⟨c', moved⟩

def load (y : Tunnel ProfileKey) : Nat := (bif y.life.closed then 0 else 4) + 3 * y.life.handlers.length

def total {α : Type} (f : α → Nat) : List α → Nat
  | [] => 0
  | x :: rest => f x + total f rest

theorem totalSet {α : Type} {l : List α} {i : Nat} {x : α} (found : l[i]? = some x) (f : α → Nat) (y : α) :
    total f (l.set i y) + f x = total f l + f y := by
  induction l generalizing i with
  | nil => contradiction
  | cons z rest ih =>
    cases i with
    | zero =>
      cases found
      simp only [List.set_cons_zero, total]
      omega
    | succ i =>
      have tail := ih (by simpa using found)
      simp only [List.set_cons_succ, total]
      omega

theorem totalAppend {α : Type} (f : α → Nat) (l : List α) (x : α) : total f (l ++ [x]) = total f l + f x := by
  induction l with
  | nil => exact Nat.add_comm (f x) 0
  | cons z rest ih =>
    simp only [List.cons_append, total, ih]
    omega

def burden (c : Shared) : Nat :=
  total load c.service.tunnels + total (·.phase.load) c.teardowns + c.references.length

theorem livedLoad {s : Service} {t : TunnelId} {y : Tunnel ProfileKey} (tunnel : s.tunnels[t]? = some y)
    (life : Lifecycle ProfileKey) :
    total load (lived s t y life).tunnels + load y = total load s.tunnels + load { y with life } :=
  totalSet tunnel load _

theorem livedLighter {t : TunnelId} {y : Tunnel ProfileKey} (tunnel : c.service.tunnels[t]? = some y)
    {life : Lifecycle ProfileKey} {old new : Nat} (lighter : load { y with life } + new < load y + old) :
    total load (lived c.service t y life).tunnels + new + (c.withService (lived c.service t y life)).references.length <
      total load c.service.tunnels + old + c.references.length := by
  have sums := livedLoad tunnel life
  rw [withServiceSame (s := lived c.service t y life) rfl]
  dsimp only
  omega

theorem proceedLighter {d : Teardown} {s : Service} {phase : Teardown.Phase}
    (worked : c.proceed d = some (s, phase)) :
    total load s.tunnels + phase.load + (c.withService s).references.length <
      total load c.service.tunnels + d.phase.load + c.references.length := by
  simp only [proceed, bind, Option.bind_eq_some_iff] at worked
  obtain ⟨y, tunnel, worked⟩ := worked
  cases at' : d.phase with
  | flagging =>
    simp only [at'] at worked
    cases closed : y.life.closed with
    | false =>
      rw [Lifecycle.flagOpen closed] at worked
      cases worked
      rw [setLifeFound tunnel]
      refine livedLighter tunnel ?_
      simp only [load, closed, cond_true, cond_false, Teardown.Phase.load]
      omega
    | true =>
      rw [Lifecycle.flagClosed closed] at worked
      cases worked
      rw [withServiceSame (by rfl)]
      simp [Teardown.Phase.load]
  | cancelling =>
    simp only [at', setLifeFound tunnel] at worked
    cases worked
    exact livedLighter tunnel (by simp [load, Lifecycle.cancel, Teardown.Phase.load])
  | releasing =>
    simp only [at', setLifeFound tunnel] at worked
    cases worked
    exact livedLighter tunnel (by simp [load, Lifecycle.release, Teardown.Phase.load])
  | taking =>
    simp only [at', setLifeFound tunnel] at worked
    cases worked
    refine livedLighter tunnel ?_
    rw [Teardown.loadNotify]
    simp only [load, Lifecycle.take, List.length_nil, Teardown.Phase.load]
    omega
  | forgetting key rest =>
    simp only [at'] at worked
    cases worked
    have lighter (b : Bool) : (if b then .publishing rest else .notify rest : Teardown.Phase).load <
        Teardown.Phase.load (.forgetting key rest) := by
      cases b with
      | false =>
        simp only [Bool.false_eq_true, if_false, Teardown.loadNotify]
        exact Nat.lt_add_of_pos_right (by decide)
      | true => exact Nat.lt_succ_self _
    rw [withServiceSame (by rfl)]
    exact Nat.add_lt_add_right (Nat.add_lt_add_left (lighter _) _) _
  | publishing rest =>
    simp only [at'] at worked
    cases worked
    rw [withServicePublished rfl, Teardown.loadNotify]
    simp only [Service.publish, List.length_append, List.length_singleton, Teardown.Phase.load]
    omega
  | ended => simp [at'] at worked

theorem teardownLighter {i : Nat} (moved : c.step (.teardown i) = some c') : c'.burden < c.burden := by
  simp only [step, stepTeardown, bind, Option.bind_eq_some_iff] at moved
  obtain ⟨d, found, ⟨s, phase⟩, worked, last⟩ := moved
  cases Option.some.inj last
  have lighter := proceedLighter worked
  have sums := totalSet found (·.phase.load) { d with phase }
  simp only [burden, withService] at lighter sums ⊢
  omega

theorem letGoLighter {t : TunnelId} (moved : c.step (.letGo t) = some c') : c'.burden < c.burden := by
  simp only [step] at moved
  split at moved <;> cases moved
  rename_i among
  have mem : t ∈ c.references := by simpa using among
  have some' := List.length_pos_of_mem mem
  simp only [burden, List.length_erase_of_mem mem]
  omega

theorem destroyLighter {t : TunnelId} (opened : c.service.isOpen t = true) (moved : c.step (.destroy t) = some c') :
    ∃ d, c'.step (.teardown c.teardowns.length) = some d ∧ d.burden < c.burden := by
  simp only [step] at moved
  split at moved <;> cases moved
  obtain ⟨y, there, closed⟩ := openTunnel opened
  have found : (c.begin t false).teardowns[c.teardowns.length]? = some { tunnel := t, borrowed := false } := by
    simp [begin]
  have flags : (c.begin t false).proceed { tunnel := t, borrowed := false } =
      some (lived c.service t y { y.life with closed := true }, .cancelling) := by
    simp [proceed, begin, there, Lifecycle.flagOpen closed, setLifeFound there]
  refine ⟨_, by simp only [step, stepTeardown, found, flags, bind, Option.bind_some]; rfl, ?_⟩
  have sums := livedLoad there { y.life with closed := true }
  have torn := totalSet found (·.phase.load) { tunnel := t, borrowed := false, phase := .cancelling }
  simp only [load, closed, cond_true, cond_false] at sums
  have loads : Teardown.Phase.load .flagging = 4 ∧ Teardown.Phase.load .cancelling = 3 := ⟨rfl, rfl⟩
  simp only [begin, totalAppend, loads] at torn
  rw [withServiceSame (by rfl)]
  simp only [burden, begin]
  omega

end Shared

namespace Gateway

variable {u : Setup} {g g' : Gateway} {action : Action}

/- A teardown's next step; that a maker who gave its tunnel up lets go of it; and that an open tunnel nobody
refers to any longer is closed. -/
inductive Due (g : Gateway) : Action → Prop where
  | teardown (i : Nat) : Due g (.act (.teardown i))
  | letGo {r t} (made : g.tunnel? r = some t) (given : (g.waits r).keeps = false) : Due g (.act (.letGo t))
  | destroy {t} (opened : g.shared.service.isOpen t = true) : Due g (.act (.destroy t))

def Finishing (u : Setup) (g g' : Gateway) : Prop := ∃ action, Due g action ∧ step u g action = some g'

def Settled (u : Setup) (g : Gateway) : Prop := ∀ g', ¬ Finishing u g g'

theorem actStep {a : Shared.Action} {c : Shared} (free : g.reserved a = false) (did : g.shared.step a = some c) :
    step u g (.act a) = some { g with shared := c } := by
  simp [step, free, share, did]

theorem actMoved {a : Shared.Action} (moved : step u g (.act a) = some g') : g.share (some a) = some g' := by
  simp only [step] at moved
  split at moved
  · contradiction
  · exact moved

theorem finishingLighter (finishing : Finishing u g g') :
    ∃ d, Relation.ReflTransGen (Finishing u) g d ∧ d.shared.burden < g.shared.burden := by
  obtain ⟨action, due, moved⟩ := finishing
  have once : Relation.ReflTransGen (Finishing u) g g' := .single ⟨action, due, moved⟩
  cases due with
  | teardown i =>
    obtain ⟨c, did, rfl⟩ := shareSome (actMoved moved)
    exact ⟨_, once, Shared.teardownLighter did⟩
  | letGo =>
    obtain ⟨c, did, rfl⟩ := shareSome (actMoved moved)
    exact ⟨_, once, Shared.letGoLighter did⟩
  | destroy opened =>
    obtain ⟨c, did, rfl⟩ := shareSome (actMoved moved)
    obtain ⟨d, tears, lighter⟩ := Shared.destroyLighter opened did
    exact ⟨{ g with shared := d }, once.tail ⟨_, .teardown _, actStep rfl tears⟩, lighter⟩

theorem settles (u : Setup) (g : Gateway) : ∃ g', Relation.ReflTransGen (Finishing u) g g' ∧ Settled u g' := by
  induction left : g.shared.burden using Nat.strongRecOn generalizing g with
  | _ n ih =>
    by_cases settled : Settled u g
    · exact ⟨g, .refl, settled⟩
    · obtain ⟨g', finishing⟩ : ∃ g', Finishing u g g' := by simpa [Settled] using settled
      obtain ⟨d, first, lighter⟩ := finishingLighter finishing
      obtain ⟨e, rest, done⟩ := ih _ (left ▸ lighter) d rfl
      exact ⟨e, first.trans rest, done⟩

end Gateway
end TunnelRelay
