import AcceleratorHealth.Conversations

/-! A client of the coordinator: it sends its requests one after another and after each
waits for one frame. Clients run beside peers of any other kind. Whatever these do, what a
client takes for the answer to a request is the answer to that request. -/
namespace AcceleratorHealth
open Codec Wire Assembly

/-- The requests of a client. Each fits a frame and asks for an answer. -/
structure Program where
  requests : List Frame
  fits : ∀ f ∈ requests, f.payload.length ≤ kMaxFramePayload
  answering : ∀ f ∈ requests, f.request.answer ≠ .silent

/-- The bytes of a frame that fits. -/
def Frame.bytes (f : Frame) : Bytes := (encodeFrame f.type f.payload).toOption.getD []

/-- The frames that go through `sendAndExpect`, which looks at the outcome of its send. -/
def Frame.expects (f : Frame) : Bool :=
  match f.type with
  | .observation | .validationResult => true
  | _ => false

inductive Client.Phase where
  | sending (left : Bytes)
  | awaiting (held : Bytes)
  | done

/-- A client at work: what each exchange so far has brought, a frame or a failure. A call on
the connection that has failed once fails from then on. -/
structure Client where
  program : Program
  results : List (Option Frame) := []
  phase : Client.Phase := .done
  broken : Bool := false

namespace Client

/-- On to the next request, or the end of the program. -/
def begin (c : Client) : Client :=
  { c with phase := match c.program.requests[c.results.length]? with
    | some f => .sending f.bytes
    | none => .done }

def start (program : Program) : Client := begin { program }

/-- The outcome of an exchange. -/
def conclude (result : Option Frame) (c : Client) : Client :=
  begin { c with results := c.results ++ [result] }

/-- `sendFrame` has failed. Where nobody looks at that, the answer is awaited all the same. -/
def unsent (c : Client) : Client :=
  if (c.program.requests[c.results.length]?).any Frame.expects then
    conclude none { c with broken := true }
  else { c with phase := .awaiting [], broken := true }

/-- The loop of `sendFrame` is over when nothing is left. -/
def afterSend (left : Bytes) (c : Client) : Client :=
  { c with phase := if left = [] then .awaiting [] else .sending left }

/-- The bytes of the answer under way. -/
def take (got : Bytes) (c : Client) : Client :=
  match judgeFrame got with
  | .more _ => { c with phase := .awaiting got }
  | .message f => c.conclude (some f)
  | .refused _ => c.conclude none

end Client

/-- What a client does next, at most `n` bytes at a time. A signal can end it anywhere. -/
inductive Move where
  | send (n : Nat)
  | sendFails
  | recv (n : Nat)
  | recvFails
  | exit
  | killed

/-- The coordinator and its peers: for each connection a client, or nothing said. -/
structure System where
  net : Network
  clients : List (Option Client) := []

inductive SystemEvent where
  | connect (program : Option Program)
  | thread (i : Nat) (a : Act)
  | peer (i : Nat) (a : Act)
  | client (i : Nat) (m : Move)

/-- The acts of a peer. -/
def Act.byPeer : Act → Bool
  | .write _ | .shut | .fetch _ => true
  | _ => false

/-- `recv` for what is missing of the answer. -/
def Client.recv (socket : Socket) (n : Nat) (held : Bytes) (c : Client) : Client × Option Act :=
  match judgeFrame held with
  | .more wanted =>
    if socket.outbound.flight.take (min n wanted) ≠ [] then
      (c.take (held ++ socket.outbound.flight.take (min n wanted)), some (.fetch (min n wanted)))
    else if socket.outbound.flight = [] ∧ socket.outbound.shut then (c.conclude none, none)
    else (c, none)
  | _ => (c, none)

/-- What a move of a client comes to: the client after it, and the act on its connection. -/
def Client.move (socket : Socket) (c : Client) (m : Move) : Client × Option Act :=
  match m, c.phase with
  | .send n, .sending left =>
    if c.broken then (c.unsent, none)
    else (c.afterSend (left.drop n), some (.write (left.take n)))
  | .sendFails, .sending _ => (c.unsent, none)
  | .recv n, .awaiting held => if c.broken then (c.conclude none, none) else c.recv socket n held
  | .recvFails, .awaiting _ => (Client.conclude none { c with broken := true }, none)
  | .exit, .done => (c, some .shut)
  | .killed, _ => ({ c with phase := .done, broken := true }, some .shut)
  | _, _ => (c, none)

namespace System

def step (s : System) : SystemEvent → System
  | .connect program =>
    if s.net.alive then
      { net := s.net.step .accept, clients := s.clients ++ [program.map Client.start] }
    else s
  | .thread i a => if a.byPeer then s else { s with net := s.net.step (.on i a) }
  | .peer i a =>
    match s.clients[i]? with
    | some none => if a.byPeer then { s with net := s.net.step (.on i a) } else s
    | _ => s
  | .client i m =>
    match s.net.sockets[i]?, s.clients[i]? with
    | some socket, some (some c) =>
      let (c, act) := c.move socket m
      { net := match act with
          | some a => s.net.step (.on i a)
          | none => s.net
        clients := s.clients.set i (some c) }
    | _, _ => s

def after (start : HealthStore) (events : List SystemEvent) : System :=
  Machine.run step { net := { store := start } } events

end System

/-! ### What the thread of a connection leaves to the peer -/

namespace Socket

/-- The peer's side of a connection is as before, but for bytes from the thread, which come
only as long as the thread has not closed its end. -/
structure Keeps (c c' : Socket) : Prop where
  sent : c'.inbound.sent = c.inbound.sent
  shut : c'.inbound.shut = c.inbound.shut
  broken : c'.inbound.broken = c.inbound.broken
  received : c'.outbound.received = c.outbound.received
  ended : c.outbound.shut = true → c'.outbound.shut = true ∧ c'.outbound.flight = c.outbound.flight

theorem Keeps.refl (c : Socket) : c.Keeps c := ⟨rfl, rfl, rfl, rfl, fun h => ⟨h, rfl⟩⟩

theorem Keeps.trans {c c' c'' : Socket} (h : c.Keeps c') (h' : c'.Keeps c'') : c.Keeps c'' where
  sent := h'.sent.trans h.sent
  shut := h'.shut.trans h.shut
  broken := h'.broken.trans h.broken
  received := h'.received.trans h.received
  ended hshut := by
    obtain ⟨hshut', hflight⟩ := h.ended hshut
    obtain ⟨hshut'', hflight'⟩ := h'.ended hshut'
    exact ⟨hshut'', hflight'.trans hflight⟩

theorem keeps_gone (c : Socket) : c.Keeps c.gone := ⟨rfl, rfl, rfl, rfl, fun _ => ⟨rfl, rfl⟩⟩

theorem keeps_write (c : Socket) (bytes : Bytes) (thread : Thread) :
    c.Keeps { c with outbound := c.outbound.write bytes, thread } := by
  refine ⟨rfl, rfl, rfl, c.outbound.write_received bytes, fun hshut => ⟨?_, ?_⟩⟩
  · rw [Pipe.write_shut]
    exact hshut
  · unfold Pipe.write
    rw [if_pos (Or.inl hshut)]

theorem keeps_act {a : Act} (h : a.byPeer = false) (seen : Nat) (s : HealthStore) (c : Socket) :
    c.Keeps (c.act seen s a).socket := by
  unfold act
  split
  · cases h
  · cases h
  · cases h
  · unfold recv
    split
    · split_ifs
      · exact ⟨rfl, rfl, rfl, rfl, fun h => ⟨h, rfl⟩⟩
      · exact ⟨rfl, rfl, rfl, rfl, fun h => ⟨h, rfl⟩⟩
      · exact .refl c
    · exact .refl c
  · exact ⟨rfl, rfl, rfl, rfl, fun h => ⟨h, rfl⟩⟩
  · exact ⟨rfl, rfl, rfl, rfl, fun h => ⟨h, rfl⟩⟩
  · exact ⟨rfl, rfl, rfl, rfl, fun h => ⟨h, rfl⟩⟩
  · unfold send
    split_ifs
    · exact ⟨rfl, rfl, rfl, rfl, fun h => ⟨h, rfl⟩⟩
    · exact keeps_write ..
  · exact ⟨rfl, rfl, rfl, rfl, fun h => ⟨h, rfl⟩⟩
  · exact .refl c
  · unfold close
    split_ifs
    · exact ⟨rfl, rfl, rfl, rfl, fun _ => ⟨rfl, rfl⟩⟩
    · exact keeps_gone c
  · exact .refl c

end Socket

namespace Network
variable {n : Network} {i j : Nat} {c : Socket}

theorem length_sockets_on (n : Network) (i : Nat) (a : Act) :
    (n.step (.on i a)).sockets.length = n.sockets.length := by
  simp only [Network.step]
  cases n.sockets[i]? with
  | none => rfl
  | some c =>
    unfold Network.act
    simp only
    split_ifs <;> simp

/-- What an act leaves of a connection: what the act comes to, or what was there, or either
as the end of the process leaves it. -/
theorem socket_step_on {a : Act} {c' : Socket}
    (h : (n.step (.on i a)).sockets[j]? = some c') : ∃ c, n.sockets[j]? = some c ∧
      ((c' = c ∨ c' = c.gone) ∧ i ≠ j ∨
        i = j ∧ (c' = (c.act n.log.length n.store a).socket ∨
          c' = (c.act n.log.length n.store a).socket.gone ∧
            (c.act n.log.length n.store a).dies = true)) := by
  simp only [Network.step] at h
  cases hc : n.sockets[i]? with
  | none =>
    rw [hc] at h
    simp only at h
    refine ⟨c', h, Or.inl ⟨Or.inl rfl, ?_⟩⟩
    rintro rfl
    rw [hc] at h
    cases h
  | some c =>
    rw [hc] at h
    unfold Network.act at h
    simp only at h
    have hi : i < n.sockets.length := (List.getElem?_eq_some_iff.mp hc).1
    by_cases hij : i = j
    · subst hij
      refine ⟨c, hc, Or.inr ⟨rfl, ?_⟩⟩
      split_ifs at h with hdies
      · rw [List.getElem?_map, List.getElem?_set_self hi] at h
        cases h
        exact Or.inr ⟨rfl, hdies⟩
      · rw [List.getElem?_set_self hi] at h
        cases h
        exact Or.inl rfl
    · split_ifs at h with hdies
      · rw [List.getElem?_map, List.getElem?_set_ne hij] at h
        obtain ⟨c₁, hc₁, rfl⟩ := Option.map_eq_some_iff.mp h
        exact ⟨c₁, hc₁, Or.inl ⟨Or.inr rfl, hij⟩⟩
      · rw [List.getElem?_set_ne hij] at h
        exact ⟨c', h, Or.inl ⟨Or.inl rfl, hij⟩⟩

theorem keeps_step_on {a : Act} {c' : Socket} (ha : a.byPeer = false ∨ i ≠ j)
    (h : (n.step (.on i a)).sockets[j]? = some c') : ∃ c, n.sockets[j]? = some c ∧ c.Keeps c' := by
  obtain ⟨c, hc, ⟨rfl | rfl, -⟩ | ⟨rfl, hcase⟩⟩ := socket_step_on h
  · exact ⟨_, hc, .refl _⟩
  · exact ⟨c, hc, c.keeps_gone⟩
  · have hown := Socket.keeps_act (ha.resolve_right (by simp)) n.log.length n.store c
    rcases hcase with rfl | ⟨rfl, -⟩
    · exact ⟨c, hc, hown⟩
    · exact ⟨c, hc, hown.trans (Socket.keeps_gone _)⟩

/-- An act of the peer is on its own side of its own connection. -/
theorem socket_step_peer {a : Act} {c' : Socket} (hc : n.sockets[i]? = some c)
    (h : (n.step (.on i a)).sockets[i]? = some c') (ha : a.byPeer = true) :
    c' = (c.act n.log.length n.store a).socket := by
  obtain ⟨c₁, hc₁, ⟨-, hne⟩ | ⟨-, rfl | ⟨-, hdies⟩⟩⟩ := socket_step_on h
  · exact absurd rfl hne
  · rw [hc] at hc₁
    cases hc₁
    rfl
  · cases a <;> simp [Act.byPeer] at ha <;> simp [Socket.act] at hdies

end Network
end AcceleratorHealth
