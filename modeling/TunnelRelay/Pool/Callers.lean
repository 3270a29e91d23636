import TunnelRelay.Pool.Shared

/-! The callers of a shared service. A caller whose request waits for its creation
polls it, each time with what is to be seen then, and so finds out how it ended.
All else goes on as it does without callers. Only a poll that is not cancelled calls
the maker of tunnels. -/
namespace TunnelRelay.Shared
open Service (Sight)

def Action.caller? : Action → Option Nat
  | advance r _ | deliver r _ | fail r _ | abort r => some r
  | _ => none

def Action.told : Action → Bool
  | deliver .. | fail .. => true
  | _ => false

def Action.ending (r : Nat) : Except Failure TunnelId → Action
  | .ok t => deliver r t
  | .error reason => fail r reason

inductive Turn where
  | poll (r : Nat) (sight : Sight)
  | act (a : Action)

def Turn.caller? : Turn → Option Nat
  | poll r _ => some r
  | act a => a.caller?

def turn (limits : Nat → Duration) (c : Shared) : Turn → Option Shared
  | .poll r sight =>
      match c.service.stage? r with
      | some (.creating _) =>
          match sight.outcome (limits r) with
          | none => some c
          | some outcome => c.step (.ending r outcome)
      | _ => none
  | .act a => if a.told then none else c.step a

def play (limits : Nat → Duration) (c : Shared) (turns : List Turn) : Option Shared :=
  turns.foldlM (turn limits) c

def ownTurns (r : Nat) (turns : List Turn) : List Turn := turns.filter fun turn => turn.caller? == some r

end TunnelRelay.Shared
