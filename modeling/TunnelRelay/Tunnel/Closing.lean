import TunnelRelay.Tunnel.Lifecycle

/-! Closing a tunnel from several places at once. Each caller is a thread of
single steps, and a step of one may come between two steps of another. The flag
and the handlers are guarded apart: who registers a handler locks the handlers,
looks at the flag and only then adds to them, and they are taken when nobody has
them locked. Handlers may themselves close the tunnel or register handlers. -/
namespace TunnelRelay

inductive HandlerAct where
  | dispose
  | mark (text : String)
  | register (name : String) (body : List HandlerAct)

structure Handler where
  name : String
  body : List HandlerAct

inductive HandlerNote where
  | started (name : String) (closed : Bool)
  | marked (text : String)
  deriving DecidableEq, Repr

namespace Closing

inductive Instruction where
  | flag
  | cancel
  | release
  | take
  | register (h : Handler)
  | push (h : Handler)
  | run (h : Handler)
  | mark (text : String)
  | stop
  | wait

abbrev Thread := List Instruction

def ofAct : HandlerAct → Instruction
  | .dispose => .flag
  | .mark text => .mark text
  | .register name body => .register ⟨name, body⟩

inductive Call where
  | dispose
  | close
  | drop
  | onClosed (h : Handler)
  -- The relay task ends, and closes the tunnel if it is still there.
  | loopEnds (present : Bool)

def Call.program : Call → Thread
  | dispose | drop => [.flag]
  | close => [.flag, .wait]
  | onClosed h => [.register h]
  | loopEnds true => [.flag, .stop]
  | loopEnds false => [.stop]

end Closing

structure Closing where
  life : Lifecycle Handler := {}
  locked : Bool := false
  stopped : Bool := false
  notes : List HandlerNote := []
  releases : Nat := 0
  threads : List Closing.Thread := []

namespace Closing

/- One instruction, and those that follow from it; nothing happens while it has to wait. -/
def execute (c : Closing) : Instruction → Option (Closing × Thread)
  | .flag =>
      match c.life.flag with
      | (life, true) => some ({ c with life }, [.cancel, .release, .take])
      | (life, false) => some ({ c with life }, [])
  | .cancel => some ({ c with life := c.life.cancel }, [])
  | .release =>
      match c.life.release with
      | (life, true) => some ({ c with life, releases := c.releases + 1 }, [])
      | (life, false) => some ({ c with life }, [])
  | .take =>
      if c.locked then none
      else
        let (life, handlers) := c.life.take
        some ({ c with life }, handlers.map .run)
  | .register h =>
      if c.locked then none
      else if c.life.closed then some (c, [.run h])
      else some ({ c with locked := true }, [.push h])
  | .push h =>
      some ({ c with life := { c.life with handlers := c.life.handlers ++ [h] }, locked := false }, [])
  | .run h =>
      some ({ c with notes := c.notes ++ [.started h.name c.life.closed] }, h.body.map ofAct)
  | .mark text => some ({ c with notes := c.notes ++ [.marked text] }, [])
  | .stop => some ({ c with stopped := true }, [])
  | .wait => if c.stopped then some (c, []) else none

def step (c : Closing) (thread : Nat) : Option Closing := do
  match ← c.threads[thread]? with
  | [] => none
  | i :: rest =>
      let (c, more) ← c.execute i
      some { c with threads := c.threads.set thread (more ++ rest) }

def ofCalls (calls : List (List Call)) : Closing := { threads := calls.map (·.flatMap Call.program) }

def runAlone : Nat → Closing → Thread → Closing
  | 0, c, _ => c
  | _ + 1, c, [] => c
  | n + 1, c, i :: rest =>
      match c.execute i with
      | none => c
      | some (c, more) => runAlone n c (more ++ rest)

mutual

def actWeight : HandlerAct → Nat
  | .dispose => 4
  | .mark _ => 1
  | .register _ body => bodyWeight body + 2

def bodyWeight : List HandlerAct → Nat
  | [] => 0
  | act :: rest => actWeight act + bodyWeight rest

end

def handlerWeight (h : Handler) : Nat := bodyWeight h.body + 1

def handlersWeight : List Handler → Nat
  | [] => 0
  | h :: rest => handlerWeight h + handlersWeight rest

mutual

def actNotes : HandlerAct → List HandlerNote
  | .dispose => []
  | .mark text => [.marked text]
  | .register name body => .started name true :: bodyNotes body

def bodyNotes : List HandlerAct → List HandlerNote
  | [] => []
  | act :: rest => actNotes act ++ bodyNotes rest

end

def handlerNotes (h : Handler) : List HandlerNote := .started h.name true :: bodyNotes h.body

end Closing

def Lifecycle.close (l : Lifecycle Handler) : Lifecycle Handler × List HandlerNote :=
  let c := Closing.runAlone (4 + Closing.handlersWeight l.handlers) { life := l } [.flag]
  (c.life, c.notes)

def Lifecycle.onClosed (l : Lifecycle Handler) (h : Handler) : Lifecycle Handler × List HandlerNote :=
  let c := Closing.runAlone (1 + Closing.handlerWeight h) { life := l } [.register h]
  (c.life, c.notes)

end TunnelRelay
