/-! The life of a tunnel as its holders see it. Closing sets the flag, cancels
the accept loop, releases the listening socket, takes the handlers and runs them
in the order of their registration; only the caller that set the flag goes on. A
handler registered after the flag was set runs at once. -/
namespace TunnelRelay

structure Lifecycle (η : Type) where
  closed : Bool := false
  cancelled : Bool := false
  listening : Bool := true
  handlers : List η := []
  deriving Repr

namespace Lifecycle

def flag (l : Lifecycle η) : Lifecycle η × Bool := ({ l with closed := true }, !l.closed)

def cancel (l : Lifecycle η) : Lifecycle η := { l with cancelled := true }

def release (l : Lifecycle η) : Lifecycle η × Bool := ({ l with listening := false }, l.listening)

def take (l : Lifecycle η) : Lifecycle η × List η := ({ l with handlers := [] }, l.handlers)

def register (l : Lifecycle η) (handler : η) : Lifecycle η × List η :=
  if l.closed then (l, [handler]) else ({ l with handlers := l.handlers ++ [handler] }, [])

/- All of closing but the run of the handlers, which it returns. -/
def dispose (l : Lifecycle η) : Lifecycle η × List η :=
  match l.flag with
  | (l, false) => (l, [])
  | (l, true) => l.cancel.release.1.take

theorem flagOpen {l : Lifecycle η} (opened : l.closed = false) : l.flag = ({ l with closed := true }, true) := by
  simp [flag, opened]

theorem flagClosed {l : Lifecycle η} (closed : l.closed = true) : l.flag = (l, false) := by
  obtain ⟨c, _, _, _⟩ := l
  cases closed
  rfl

theorem registerOpen {l : Lifecycle η} (opened : l.closed = false) (handler : η) :
    l.register handler = ({ l with handlers := l.handlers ++ [handler] }, []) := by
  simp [register, opened]

theorem registerClosed {l : Lifecycle η} (closed : l.closed = true) (handler : η) :
    l.register handler = (l, [handler]) := by
  simp [register, closed]

theorem disposeOpen {l : Lifecycle η} (opened : l.closed = false) :
    l.dispose = ({ closed := true, cancelled := true, listening := false }, l.handlers) := by
  simp [dispose, flagOpen opened, cancel, release, take]

theorem disposeAgain {l : Lifecycle η} (closed : l.closed = true) : l.dispose = (l, []) := by
  simp [dispose, flagClosed closed]

theorem disposeClosed (l : Lifecycle η) : l.dispose.1.closed = true := by
  cases closed : l.closed with
  | false => rw [disposeOpen closed]
  | true => rw [disposeAgain closed, closed]

end Lifecycle
end TunnelRelay
