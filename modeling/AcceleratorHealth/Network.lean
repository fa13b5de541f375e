import AcceleratorHealth.Threads
import AcceleratorHealth.Lib.Pipe

/-! The coordinator at the grain at which its threads interleave. A thread reads a frame
piece by piece, makes its store calls one at a time, each under the lock, sends its answer
piece by piece and reads on; peers write what they like. An image is encoded without the
lock, and calls that others make meanwhile can leave anything in it. Beside the program's
own state each thread keeps the history of what it has done, and the network a log of all
calls. -/
namespace AcceleratorHealth
open Codec Wire Assembly

/-- A store call that has returned or thrown. -/
structure Entry where
  call : Call
  outcome : Except Exn Reply

/-- The last text that the calls have returned. -/
def noted (entries : List Entry) : String :=
  entries.foldl (fun text e => (e.outcome.toOption.map (Reply.noted text)).getD text) ""

/-- A frame that has been answered: its calls, how many calls of all threads had been made
by then, what came of an encoding that was not left alone, and what went out. -/
structure Exchange where
  frame : Frame
  entries : List Entry
  seen : Nat
  torn : Option (Except Exn Bytes)
  reply : List Frame

inductive Phase where
  | reading (held : Bytes)
  | working (todo : List Op) (text : String) (answer : Answer)
  | sending (left : Bytes)
  | closing
  | gone

/-- What a thread remembers, where it stands, and its history: the frames it has answered,
the one it is at or has given up, and the call of its teardown. -/
structure Thread where
  connection : Connection := {}
  phase : Phase := .reading []
  exchanges : List Exchange := []
  current : Option (Frame × List Entry) := none
  teardown : List Entry := []

namespace Thread

/-- The frames that the thread has got. -/
def frames (t : Thread) : List Frame :=
  t.exchanges.map Exchange.frame ++ t.current.toList.map Prod.fst

/-- The calls that it has made. -/
def entries (t : Thread) : List Entry :=
  t.exchanges.flatMap Exchange.entries ++ (t.current.toList.flatMap Prod.snd ++ t.teardown)

/-- The frames that it has handed to its socket. -/
def replies (t : Thread) : List Frame := t.exchanges.flatMap Exchange.reply

/-- Go on with the bytes of the frame under way. -/
def take (got : Bytes) (t : Thread) : Thread :=
  match judgeFrame got with
  | .more _ => { t with phase := .reading got }
  | .message frame =>
    { t with
      connection := t.connection.after frame.introduces
      phase := .working frame.request.ops "" frame.request.answer
      current := some (frame, []) }
  | .refused _ => { t with phase := .closing }

/-- A call has returned, or its exception ends the loop. -/
def afterCall (e : Entry) (todo : List Op) (text : String) (answer : Answer) (t : Thread) :
    Thread :=
  { t with
    phase := match e.outcome with
      | .ok r => .working todo (r.noted text) answer
      | .error _ => .closing
    current := t.current.map fun p => (p.1, p.2 ++ [e]) }

/-- The loop of `sendFrame` is over when nothing is left. -/
def afterSend (left : Bytes) (t : Thread) : Thread :=
  { t with phase := if left = [] then .reading [] else .sending left }

/-- The answer is made; an exception on the way ends the loop. -/
def answered (seen : Nat) (torn : Option (Except Exn Bytes)) (reply : Except Exn (List Frame))
    (t : Thread) : Thread :=
  match reply with
  | .error _ => { t with phase := .closing }
  | .ok frames =>
    match encodeFrames frames with
    | .error _ => { t with phase := .closing }
    | .ok bytes =>
      afterSend bytes
        { t with
          exchanges := t.exchanges ++
            t.current.toList.map fun p =>
              { frame := p.1, entries := p.2, seen, torn, reply := frames }
          current := none }

end Thread

/-- A connection: the bytes from the peer and to it, and the thread between them. -/
structure Socket where
  inbound : Pipe UInt8 := {}
  outbound : Pipe UInt8 := {}
  thread : Thread := {}

/-- What an act on a connection comes to: the store and the connection after it, the calls
made, and whether the process has ended. -/
structure Turn where
  store : HealthStore
  socket : Socket
  entries : List Entry := []
  dies : Bool := false

/-- What happens next on a connection: the peer writes, shuts its end or fetches, or the
thread gets on with what it is at, at most `n` bytes at a time. A thread that answers reads
the store as it is unless another is in a call just then: `torn` is what the encoding comes
to in that case, whatever it be. A send that fails returns an error or, once the peer has
closed its end, raises SIGPIPE. -/
inductive Act where
  | write (bytes : Bytes)
  | shut
  | fetch (n : Nat)
  | recv (n : Nat)
  | recvFails
  | call (clk : Readings)
  | reply (torn : Option (Except Exn Bytes))
  | send (n : Nat)
  | sendFails
  | sigpipe
  | close (clk : Readings)

namespace Socket

def withPhase (phase : Phase) (c : Socket) : Socket :=
  { c with thread := { c.thread with phase } }

/-- The end of a thread closes its socket. -/
def gone (c : Socket) : Socket :=
  { c.withPhase .gone with outbound := c.outbound.close }

/-- `recv` for what is missing of a frame. A call with nothing under way blocks, or reports
the end of the stream. -/
def recv (n : Nat) (held : Bytes) (c : Socket) : Socket :=
  match judgeFrame held with
  | .more wanted =>
    if c.inbound.flight.take (min n wanted) ≠ [] then
      { c with
        inbound := c.inbound.fetch (min n wanted)
        thread := c.thread.take (held ++ c.inbound.flight.take (min n wanted)) }
    else if c.inbound.flight = [] ∧ c.inbound.shut then c.withPhase .closing
    else c
  | _ => c

/-- `send` of at most `n` bytes. A call that fails ends the loop, and nobody looks at that;
on a broken stream every call fails. -/
def send (n : Nat) (left : Bytes) (c : Socket) : Socket :=
  if c.outbound.broken then c.withPhase (.reading [])
  else
    { c with
      outbound := c.outbound.write (left.take n)
      thread := c.thread.afterSend (left.drop n) }

/-- The teardown: a worker that has introduced itself is withdrawn. An exception there ends
the process. -/
def close (clk : Readings) (s : HealthStore) (c : Socket) : Turn :=
  if c.thread.connection.haveWorker then
    let call : Call :=
      ⟨.invalidateWorker c.thread.connection.worker c.thread.connection.boot, clk⟩
    let left := s.exec call
    let e : Entry := ⟨call, left.result⟩
    { store := left.state
      socket := gone { c with thread := { c.thread with teardown := [e] } }
      entries := [e]
      dies := !left.result.isOk }
  else { store := s, socket := c.gone }

/-- The next store call of the thread. -/
def call (clk : Readings) (op : Op) (todo : List Op) (text : String) (answer : Answer)
    (s : HealthStore) (c : Socket) : Turn :=
  let left := s.exec ⟨op, clk⟩
  let e : Entry := ⟨⟨op, clk⟩, left.result⟩
  { store := left.state
    socket := { c with thread := c.thread.afterCall e todo text answer }
    entries := [e] }

/-- One act, after `seen` calls of all threads. What a thread is not at is no act of it. -/
def act (seen : Nat) (s : HealthStore) (c : Socket) (a : Act) : Turn :=
  match a, c.thread.phase with
  | .write bytes, _ => { store := s, socket := { c with inbound := c.inbound.write bytes } }
  | .shut, _ => { store := s, socket := { c with inbound := c.inbound.close } }
  | .fetch n, _ => { store := s, socket := { c with outbound := c.outbound.fetch n } }
  | .recv n, .reading held => { store := s, socket := c.recv n held }
  | .recvFails, .reading _ => { store := s, socket := c.withPhase .closing }
  | .call clk, .working (op :: todo) text answer => c.call clk op todo text answer s
  | .reply torn, .working [] text answer =>
    let image := torn.getD (Persistence.encodeStateInternal s)
    { store := s
      socket := { c with thread := c.thread.answered seen torn (answer.reply text image) } }
  | .send n, .sending left => { store := s, socket := c.send n left }
  | .sendFails, .sending _ =>
    { store := s, socket := withPhase (.reading []) { c with outbound := c.outbound.fail } }
  -- Nobody handles the signal: the process ends, and no thread gets to its teardown.
  | .sigpipe, .sending _ => { store := s, socket := c, dies := true }
  | .close clk, .closing => c.close clk s
  | _, _ => { store := s, socket := c }

end Socket

/-- The store, the connections in the order they were accepted, and every call made so far
with the connection that made it. -/
structure Network where
  store : HealthStore
  sockets : List Socket := []
  alive : Bool := true
  log : List (Nat × Entry) := []

inductive NetEvent where
  | accept
  | on (i : Nat) (a : Act)

namespace Network

/-- One act on the `i`-th connection. The end of the process closes every socket. -/
def act (i : Nat) (c : Socket) (a : Act) (n : Network) : Network :=
  let turn := c.act n.log.length n.store a
  let sockets := n.sockets.set i turn.socket
  { store := turn.store
    sockets := if turn.dies then sockets.map Socket.gone else sockets
    alive := n.alive && !turn.dies
    log := n.log ++ turn.entries.map (i, ·) }

def step (n : Network) : NetEvent → Network
  | .accept => if n.alive then { n with sockets := n.sockets ++ [{}] } else n
  | .on i a =>
    match n.sockets[i]? with
    | none => n
    | some c => n.act i c a

/-- The network after some events, from a store that the coordinator starts with. -/
def after (start : HealthStore) (events : List NetEvent) : Network :=
  Machine.run step { store := start } events

end Network
end AcceleratorHealth
