import AcceleratorHealth.Delivery

/-! What a network of threads does for its peers: the calls of a connection are those of
the frames that the peer has sent, its answers come back in order, its end withdraws the
worker that introduced itself last, and no thread waits for anything but its own peer. -/
namespace AcceleratorHealth
open Codec Wire Assembly

/-- The store calls that the frames in some bytes ask for. -/
def askedIn (bytes : Bytes) : List Op :=
  (assembleFrames bytes).messages.flatMap fun frame => frame.request.ops

namespace Thread

/-- The calls made for frames. -/
def served (t : Thread) : List Op :=
  (t.exchanges.flatMap Exchange.entries ++ t.current.toList.flatMap Prod.snd).map fun e => e.call.op

/-- What is still to be called for the frame under way. -/
def todo (t : Thread) : List Op :=
  match t.phase with
  | .working todo _ _ => todo
  | _ => []

/-- The loop over the frames has not been left. -/
def looping (t : Thread) : Prop :=
  match t.phase with
  | .closing | .gone => False
  | _ => True

theorem entries_eq (t : Thread) :
    t.entries.map (fun e => e.call.op) = t.served ++ t.teardown.map fun e => e.call.op := by
  simp only [entries, served, List.map_append, List.append_assoc]

end Thread

namespace Socket
variable {start : HealthStore} {log : List (Nat × Entry)} {i : Nat} {c : Socket}

/-- An answered frame has had its calls. -/
theorem Served.exchange_ops (h : c.Served start log i) {x : Exchange}
    (hx : x ∈ c.thread.exchanges) :
    x.entries.map (fun e => e.call.op) = x.frame.request.ops := by
  obtain ⟨before, after, hsplit⟩ := List.append_of_mem hx
  exact (h.exchanges before x after hsplit).calls

theorem Served.exchanges_ops (h : c.Served start log i) :
    (c.thread.exchanges.flatMap Exchange.entries).map (fun e => e.call.op) =
      (c.thread.exchanges.map Exchange.frame).flatMap fun frame => frame.request.ops := by
  rw [List.map_flatMap, List.flatMap_map]
  exact List.flatMap_congr fun x hx => h.exchange_ops hx

/-- The calls made so far are a front of those asked for. -/
theorem Served.served_prefix (h : c.Served start log i) :
    c.thread.served <+: askedIn c.inbound.received := by
  unfold askedIn
  rw [h.messages, Thread.frames, List.flatMap_append, ← h.exchanges_ops, Thread.served,
    List.map_append, List.prefix_append_right_inj]
  cases hcurrent : c.thread.current with
  | none => exact List.nil_prefix
  | some p =>
    simpa using h.current p.1 p.2 hcurrent

/-- While the loop goes on, what is made and what is still to be made is what is asked for. -/
theorem Served.served_todo (h : c.Served start log i) (hloop : c.thread.looping) :
    c.thread.served ++ c.thread.todo = askedIn c.inbound.received := by
  unfold askedIn
  rw [h.messages, Thread.frames, List.flatMap_append, ← h.exchanges_ops, Thread.served,
    List.map_append, List.append_assoc]
  congr 1
  unfold Thread.todo
  unfold Thread.looping at hloop
  cases hphase : c.thread.phase with
  | reading held =>
    obtain ⟨-, hcurrent, -⟩ := h.reading hphase
    simp [hcurrent]
  | working todo text answer =>
    obtain ⟨-, -, frame, entries, hcurrent, hops, -⟩ := h.working hphase
    simpa [hcurrent] using hops
  | sending left =>
    obtain ⟨-, hcurrent, -⟩ := h.sending hphase
    simp [hcurrent]
  | closing =>
    rw [hphase] at hloop
    exact hloop.elim
  | gone =>
    rw [hphase] at hloop
    exact hloop.elim

end Socket

/-- The calls of a connection, as its peer may count on them: a front of those that the
frames in its bytes ask for, in that order, and all of them but those under way while the
loop goes on; then the call of the teardown, if any. -/
structure Socket.ExactlyOnce (log : List (Nat × Entry)) (i : Nat) (c : Socket) : Prop where
  calls : (entriesOf i log).map (fun e => e.call.op) =
    c.thread.served ++ c.thread.teardown.map fun e => e.call.op
  front : c.thread.served <+: askedIn c.inbound.received
  all : c.thread.looping → c.thread.served ++ c.thread.todo = askedIn c.inbound.received

/-- The store is left by the logged calls one after another, each came out as the store then
said, and every connection has had exactly the calls its bytes ask for. -/
structure Network.ExactlyOnce (start : HealthStore) (n : Network) : Prop where
  store : n.store = storeAfter start n.log
  outcomes : ∀ before i e after, n.log = before ++ (i, e) :: after →
    e.outcome = ((storeAfter start before).exec e.call).result
  sockets : ∀ i (c : Socket), n.sockets[i]? = some c → c.ExactlyOnce n.log i

/-- However bytes are cut and threads interleave, every call is made exactly once and in the
order of its connection. -/
theorem calls_exactly_once (start : HealthStore) (events : List NetEvent) :
    (Network.after start events).ExactlyOnce start where
  store := (Network.traced_after start events).store
  outcomes := (Network.traced_after start events).outcomes
  sockets i c hc := by
    have hserved := (Network.traced_after start events).sockets i c hc
    exact ⟨by rw [hserved.entries, Thread.entries_eq], hserved.served_prefix, hserved.served_todo⟩

/-- The peer reads a front of the answers, and nothing that it has to refuse. -/
theorem Socket.Served.readable {start : HealthStore} {log : List (Nat × Entry)} {i : Nat}
    {c : Socket}
    (h : c.Served start log i) :
    (assembleFrames c.outbound.received).messages <+: c.thread.replies ∧
      (assembleFrames c.outbound.received).refusal = none := by
  obtain ⟨bytes, hbytes, hsent, -⟩ := h.outbound
  exact assembleFrames_of_front hbytes (c.outbound.received_prefix.trans hsent)

/-- What the peer of a connection gets to read is answers, in the order of its requests and
none of them cut short, each faithful to the calls of its request; and unless the stream has
failed or the thread is gone, every answer has been sent or is on its way. -/
structure Socket.Answered (start : HealthStore) (log : List (Nat × Entry)) (i : Nat) (c : Socket) :
    Prop where
  requests : c.thread.exchanges.map Exchange.frame <+: (assembleFrames c.inbound.received).messages
  exchanges : ∀ before x after, c.thread.exchanges = before ++ x :: after →
    x.Faithful start log i before
  answers : (assembleFrames c.outbound.received).messages <+: c.thread.replies
  sound : (assembleFrames c.outbound.received).refusal = none
  complete : c.thread.phase ≠ .gone → c.outbound.broken = false →
    encodeFrames c.thread.replies = .ok (c.outbound.sent ++ c.thread.phase.left)

def Network.Answers (start : HealthStore) (n : Network) : Prop :=
  ∀ (i : Nat) (c : Socket), n.sockets[i]? = some c → c.Answered start n.log i

/-- What a connection remembers after some frames. -/
def Connection.remembers (frames : List Frame) : Connection :=
  frames.foldl (fun connection frame => connection.after frame.introduces) {}

/-- The end of a connection withdraws the worker it remembers, once and not before. -/
structure Socket.Withdraws (alive : Bool) (c : Socket) : Prop where
  connection : c.thread.connection = Connection.remembers c.thread.frames
  before : c.thread.phase ≠ .gone → c.thread.teardown = []
  once : c.thread.teardown = [] ∨ c.thread.connection.haveWorker = true ∧ ∃ clk outcome,
    c.thread.teardown =
      [⟨⟨.invalidateWorker c.thread.connection.worker c.thread.connection.boot, clk⟩, outcome⟩]
  after : c.thread.phase = .gone → alive = true → c.thread.connection.haveWorker = true →
    c.thread.teardown ≠ []

namespace Socket
variable {alive : Bool} {seen : Nat} {s : HealthStore} {c : Socket} {turn : Turn}

/-- A turn that changes neither the history nor what the thread remembers, and does not end it. -/
theorem Withdraws.of_same (h : c.Withdraws alive) (c' : Socket)
    (hconnection : c'.thread.connection = c.thread.connection)
    (hframes : c'.thread.frames = c.thread.frames)
    (hteardown : c'.thread.teardown = c.thread.teardown)
    (hgone : c'.thread.phase = .gone ↔ c.thread.phase = .gone) : c'.Withdraws alive where
  connection := by
    rw [hconnection, hframes]
    exact h.connection
  before := by
    rw [hteardown, Ne, hgone]
    exact h.before
  once := by
    rw [hteardown, hconnection]
    exact h.once
  after := by
    rw [hteardown, hconnection, hgone]
    exact h.after

theorem frames_afterCall (e : Entry) (todo : List Op) (text : String) (answer : Answer)
    (t : Thread) :
    (t.afterCall e todo text answer).frames = t.frames := by
  cases hcurrent : t.current <;> simp [Thread.frames, Thread.afterCall, hcurrent]

theorem answered_same (seen : Nat) (torn : Option (Except Exn Bytes))
    (reply : Except Exn (List Frame)) (t : Thread) :
    (t.answered seen torn reply).connection = t.connection ∧
      (t.answered seen torn reply).frames = t.frames ∧
      (t.answered seen torn reply).teardown = t.teardown ∧
      (t.answered seen torn reply).phase ≠ .gone := by
  unfold Thread.answered
  cases reply with
  | error e => exact ⟨rfl, rfl, rfl, by simp⟩
  | ok frames =>
    simp only
    cases encodeFrames frames with
    | error e => exact ⟨rfl, rfl, rfl, by simp⟩
    | ok bytes =>
      refine ⟨rfl, ?_, rfl, ?_⟩
      · cases hcurrent : t.current <;> simp [Thread.frames, Thread.afterSend, hcurrent]
      · simp only [Thread.afterSend]
        split_ifs <;> simp

theorem Withdraws.take (h : c.Withdraws alive) {held got : Bytes} {inbound : Pipe UInt8}
    (hphase : c.thread.phase = .reading held) (hcurrent : c.thread.current = none) :
    Withdraws alive { c with inbound, thread := c.thread.take got } := by
  have hteardown := h.before (by rw [hphase]; simp)
  cases hjudge : judgeFrame got with
  | more k =>
    refine h.of_same _ ?_ ?_ ?_ ?_ <;> simp [Thread.take, hjudge, hphase, Thread.frames]
  | refused err =>
    refine h.of_same _ ?_ ?_ ?_ ?_ <;> simp [Thread.take, hjudge, hphase, Thread.frames]
  | message frame =>
    simp only [Thread.take, hjudge]
    refine ⟨?_, fun _ => hteardown, Or.inl hteardown, fun hgone => by cases hgone⟩
    have hbefore := h.connection
    simp only [Thread.frames, hcurrent] at hbefore ⊢
    rw [hbefore]
    simp [Connection.remembers]

theorem Withdraws.close (h : c.Withdraws alive) (clk : Readings) (s : HealthStore)
    (hphase : c.thread.phase = .closing) :
    (c.close clk s).socket.Withdraws (alive && !(c.close clk s).dies) := by
  have hteardown := h.before (by rw [hphase]; simp)
  unfold Socket.close
  split_ifs with hworker
  · exact ⟨h.connection, fun hne => absurd rfl hne, Or.inr ⟨hworker, clk, _, rfl⟩,
      fun _ _ _ => by simp [Socket.gone, withPhase]⟩
  · exact ⟨h.connection, fun hne => absurd rfl hne, Or.inl hteardown,
      fun _ _ hw => absurd hw hworker⟩

theorem Withdraws.moves (h : c.Withdraws alive) {start : HealthStore} {log : List (Nat × Entry)}
    {i : Nat} (hserved : c.Served start log i) (hmoves : c.Moves seen s turn) :
    turn.socket.Withdraws (alive && !turn.dies) := by
  cases hmoves with
  | peer inbound outbound received sent shut broken =>
    simpa using h.of_same { c with inbound, outbound } rfl rfl rfl Iff.rfl
  | took phase asked within some => simpa using h.take phase (hserved.reading phase).2.1
  | ended phase =>
    simpa using h.of_same (c.withPhase .closing) rfl rfl rfl (by simp [withPhase, phase])
  | @called op todo text answer clk phase =>
    simp only [Socket.call, Bool.not_false, Bool.and_true]
    refine h.of_same _ rfl (frames_afterCall ..) rfl ?_
    rw [phase]
    simp only [Thread.afterCall]
    split <;> simp
  | answered torn phase =>
    obtain ⟨hconnection, hframes, hteardown, hgone⟩ := answered_same seen torn _ c.thread
    simpa using h.of_same { c with thread := c.thread.answered seen torn _ } hconnection hframes
      hteardown (by simp [phase, hgone])
  | sent n phase sound =>
    simp only [Bool.not_false, Bool.and_true]
    refine h.of_same _ rfl rfl rfl ?_
    rw [phase]
    simp only [Thread.afterSend]
    split_ifs <;> simp
  | failed outbound phase sent shut broken =>
    simpa using h.of_same (withPhase (.reading []) { c with outbound }) rfl rfl rfl
      (by simp [withPhase, phase])
  | signalled phase =>
    exact ⟨h.connection, h.before, h.once, fun hgone => by simp [phase] at hgone⟩
  | closed clk phase => exact h.close clk s phase

/-- The end of the process leaves what a teardown would have done undone. -/
theorem Withdraws.gone (h : c.Withdraws alive) : c.gone.Withdraws false where
  connection := h.connection
  before hne := absurd rfl hne
  once := h.once
  after _ hfalse := by cases hfalse

end Socket

namespace Network

/-- Every connection that has ended has withdrawn the worker it remembers, as long as the
process lives; none withdraws any other or any twice. -/
def Withdraws (n : Network) : Prop :=
  ∀ (i : Nat) (c : Socket), n.sockets[i]? = some c → c.Withdraws n.alive

theorem Withdraws.turn {n : Network} (h : n.Withdraws) {i : Nat} {turn : Turn}
    (hown : turn.socket.Withdraws (n.alive && !turn.dies)) (j : Nat) (c : Socket)
    (hj : (if turn.dies then (n.sockets.set i turn.socket).map Socket.gone
      else n.sockets.set i turn.socket)[j]? = some c) : c.Withdraws (n.alive && !turn.dies) := by
  cases hdies : turn.dies with
  | false =>
    rw [hdies] at hown hj
    rw [if_neg (by simp), List.getElem?_set] at hj
    simp only [Bool.not_false, Bool.and_true] at hown ⊢
    split_ifs at hj with hij
    · cases hj
      exact hown
    · exact h j c hj
  | true =>
    rw [hdies] at hown hj
    rw [if_pos rfl, List.getElem?_map] at hj
    simp only [Bool.not_true, Bool.and_false] at hown ⊢
    obtain ⟨before, hbefore, rfl⟩ := Option.map_eq_some_iff.mp hj
    rw [List.getElem?_set] at hbefore
    split_ifs at hbefore with hij
    · cases hbefore
      exact hown.gone
    · exact (h j before hbefore).gone

theorem Withdraws.step {start : HealthStore} {n : Network} (h : n.Withdraws)
    (htraced : n.Traced start)
    (e : NetEvent) : (n.step e).Withdraws := by
  cases e with
  | accept =>
    simp only [Network.step]
    split_ifs with halive
    · intro i c hc
      rcases Nat.lt_or_ge i n.sockets.length with hlt | hge
      · rw [List.getElem?_append_left hlt] at hc
        exact h i c hc
      · rw [List.getElem?_append_right hge, List.getElem?_singleton] at hc
        split_ifs at hc
        cases hc
        exact ⟨rfl, fun _ => rfl, Or.inl rfl, fun hgone => by cases hgone⟩
    · exact h
  | on i a =>
    simp only [Network.step]
    cases hc : n.sockets[i]? with
    | none => exact h
    | some c =>
      have hmoves := Socket.moves_act n.log.length n.store c a
      exact h.turn ((h i c hc).moves (htraced.sockets i c hc) hmoves)

end Network

/-- The end of a connection withdraws its worker exactly once. -/
theorem withdraws_exactly_once (start : HealthStore) (events : List NetEvent) :
    (Network.after start events).Withdraws :=
  (Machine.run_invariant (P := fun n : Network => n.Traced start ∧ n.Withdraws)
    (C := fun _ _ => True) (fun _ e hn _ => ⟨hn.1.step e, hn.2.step hn.1 e⟩)
    ⟨Network.traced_start start, fun i c hc => by simp at hc⟩
    (Machine.along_of_forall fun _ _ _ => trivial)).2

end AcceleratorHealth
