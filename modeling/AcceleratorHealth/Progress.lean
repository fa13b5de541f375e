import AcceleratorHealth.Conversations
import AcceleratorHealth.Lib.Draining

/-! No thread waits for anything but the store's lock and its own peer. From every network
that the coordinator gets to, a thread whose peer reads what it is sent works off all that the
peer has sent, however little the socket between them takes at a time; and then it either
waits for more or has left its loop for a reason. -/
namespace AcceleratorHealth
open Codec Wire Assembly

/-- The acts by which a thread gets on, with no call of the system failing and no other
thread in its way, and the reading of its peer. -/
def Act.Own (clk : Readings) : Act → Prop
  | .recv _ | .reply none | .send _ | .fetch _ => True
  | .call clk' | .close clk' => clk' = clk
  | _ => False

/-- The socket holds at most `room` bytes for the peer, and `send` waits until there is place
for what it hands over. -/
def Act.Fits (room : Nat) (c : Socket) : Act → Prop
  | .send n => 0 < n ∧ c.outbound.flight.length + n ≤ room
  | _ => True

/-- How far the phase is from the end of the loop. -/
def Phase.rank : Phase → Nat
  | .gone => 0
  | .closing => 1
  | .reading _ => 2
  | .sending _ => 3
  | .working todo _ _ => todo.length + 4

namespace Socket

/-- The thread waits for its peer, or is no more. -/
def Quiet (c : Socket) : Prop :=
  match c.thread.phase with
  | .reading _ => c.inbound.flight = [] ∧ c.inbound.shut = false
  | .gone => True
  | _ => False

/-- A loop that has been left has a reason: the stream has ended or was refused, or an
exception was thrown at the frame under way. -/
def Excused (c : Socket) : Prop :=
  c.thread.looping ∨ c.inbound.shut = true ∨
    (assembleFrames c.inbound.received).refusal.isSome ∨ c.thread.current.isSome

/-- What can be done next, unless the thread is quiet. A peer reads all there is before the
next `room` bytes go out. -/
def next (room : Nat) (clk : Readings) (c : Socket) : Act :=
  match c.thread.phase with
  | .reading _ => .recv c.inbound.flight.length
  | .working (_ :: _) _ _ => .call clk
  | .working [] _ _ => .reply none
  | .sending _ => if c.outbound.flight = [] then .send room else .fetch c.outbound.flight.length
  | .closing | .gone => .close clk

/-- The bytes under way from the peer come first: a thread that reads may take up a frame of
any length, and one that answers may have an answer of any length to send. -/
def measure (c : Socket) : Nat × Nat × Nat × Nat :=
  (c.inbound.flight.length, c.thread.phase.rank, c.thread.phase.left.length,
    c.outbound.flight.length)

theorem own_next (room : Nat) (clk : Readings) (c : Socket) : (c.next room clk).Own clk := by
  unfold next
  split
  case h_4 => split_ifs <;> trivial
  all_goals trivial

theorem fits_next {room : Nat} (hroom : 0 < room) (clk : Readings) (c : Socket) :
    (c.next room clk).Fits room c := by
  unfold next
  split
  case h_4 =>
    split_ifs with hempty
    · exact ⟨hroom, by simp [hempty]⟩
    · trivial
  all_goals trivial

variable {start : HealthStore} {log : List (Nat × Entry)} {i : Nat} {c : Socket}

/-- These acts add nothing to what the peer has sent, and break nothing. -/
structure Spares (c c' : Socket) : Prop where
  sent : c'.inbound.sent = c.inbound.sent
  shut : c'.inbound.shut = c.inbound.shut
  broken : c'.outbound.broken = c.outbound.broken

theorem Spares.refl (c : Socket) : c.Spares c := ⟨rfl, rfl, rfl⟩

theorem Spares.trans {c c' c'' : Socket} (h : c.Spares c') (h' : c'.Spares c'') : c.Spares c'' :=
  ⟨h'.sent.trans h.sent, h'.shut.trans h.shut, h'.broken.trans h.broken⟩

theorem spares_act {clk : Readings} {a : Act} (h : a.Own clk) (seen : Nat) (s : HealthStore)
    (c : Socket) : c.Spares (c.act seen s a).socket := by
  unfold act
  split
  · cases h
  · cases h
  · exact ⟨rfl, rfl, rfl⟩
  · unfold recv
    split
    · split_ifs <;> exact ⟨rfl, rfl, rfl⟩
    · exact .refl c
  · cases h
  · exact ⟨rfl, rfl, rfl⟩
  · exact ⟨rfl, rfl, rfl⟩
  · unfold send
    split_ifs
    · exact ⟨rfl, rfl, rfl⟩
    · exact ⟨rfl, rfl, Pipe.write_broken ..⟩
  · cases h
  · cases h
  · unfold close
    split_ifs <;> exact ⟨rfl, rfl, rfl⟩
  · exact .refl c

/-- What one step of a thread left alone with its peer comes to. -/
structure Lowers (c c' : Socket) : Prop where
  measure : Prod.Lex (· < ·) (Prod.Lex (· < ·) (Prod.Lex (· < ·) (· < ·))) c'.measure c.measure
  excused : c'.Excused

theorem lowers_of_rank {c c' : Socket} (hflight : c'.inbound.flight = c.inbound.flight)
    (hrank : c'.thread.phase.rank < c.thread.phase.rank) (hexcused : c'.Excused) : c.Lowers c' := by
  refine ⟨?_, hexcused⟩
  unfold Socket.measure
  rw [hflight]
  exact Prod.Lex.right _ (Prod.Lex.left _ _ hrank)

/-- A thread that reads takes what there is, or sees that nothing more comes. -/
theorem Served.lowers_recv (h : c.Served start log i) {held : Bytes}
    (hphase : c.thread.phase = .reading held) (hquiet : ¬c.Quiet) :
    c.Lowers (c.recv c.inbound.flight.length held) := by
  obtain ⟨hreceived, -, -⟩ := h.reading hphase
  have hopen : (assembleFrames c.inbound.received).refusal = none := by rw [hreceived]
  obtain ⟨wanted, -, hasked⟩ := Format.asks_assemble hopen
  rw [← assembleFrames, hreceived] at hasked
  have hpos : 0 < wanted := frameFormat.pos hasked
  unfold recv
  simp only [show judgeFrame held = .more wanted from hasked]
  by_cases hflight : c.inbound.flight = []
  · have hshut : c.inbound.shut = true := by
      unfold Quiet at hquiet
      simpa [hphase, hflight] using hquiet
    rw [if_neg (by simp [hflight]), if_pos ⟨hflight, hshut⟩]
    refine lowers_of_rank rfl ?_ (Or.inr (Or.inl hshut))
    rw [hphase]
    exact Nat.lt_succ_self 1
  · have hlength := List.length_pos_of_ne_nil hflight
    have hsome : c.inbound.flight.take (min c.inbound.flight.length wanted) ≠ [] := by
      apply List.ne_nil_of_length_pos
      rw [List.length_take]
      omega
    have hassembled := h.assembled hphase hasked (Nat.min_le_right _ _) hsome
    rw [if_pos hsome]
    constructor
    · apply Prod.Lex.left
      rw [Pipe.fetch_flight, List.length_drop]
      omega
    · unfold Excused
      simp only [hassembled]
      generalize held ++ c.inbound.flight.take _ = got
      cases hjudge : judgeFrame got with
      | more k => exact Or.inl (by simp [Thread.take, hjudge, Thread.looping])
      | message frame => exact Or.inl (by simp [Thread.take, hjudge, Thread.looping])
      | refused err =>
        rw [Format.settle_of_refused hjudge]
        exact Or.inr (Or.inr (Or.inl rfl))

/-- The next bytes of an answer go out. -/
theorem lowers_send {room : Nat} (hroom : 0 < room) {left : Bytes}
    (hphase : c.thread.phase = .sending left) (hsound : c.outbound.broken = false) :
    c.Lowers (c.send room left) := by
  unfold send
  rw [if_neg (by simp [hsound])]
  by_cases hrest : left.drop room = []
  · refine lowers_of_rank rfl ?_ (Or.inl ?_)
    · simp [Thread.afterSend, hrest, hphase, Phase.rank]
    · simp [Thread.afterSend, hrest, Thread.looping]
  · have hlength : 0 < left.length := by
      have := List.length_pos_of_ne_nil hrest
      rw [List.length_drop] at this
      omega
    refine ⟨?_, Or.inl ?_⟩
    · unfold Socket.measure
      simp only [Thread.afterSend, if_neg hrest, hphase, Phase.rank, Phase.left]
      refine Prod.Lex.right _ (Prod.Lex.right _ (Prod.Lex.left _ _ ?_))
      rw [List.length_drop]
      omega
    · simp [Thread.afterSend, hrest, Thread.looping]

/-- The peer makes room for them. -/
theorem lowers_fetch {left : Bytes} (hphase : c.thread.phase = .sending left)
    (hsome : c.outbound.flight ≠ []) :
    c.Lowers { c with outbound := c.outbound.fetch c.outbound.flight.length } := by
  refine ⟨?_, Or.inl (by simp [Thread.looping, hphase])⟩
  unfold Socket.measure
  refine Prod.Lex.right _ (Prod.Lex.right _ (Prod.Lex.right _ ?_))
  rw [Pipe.fetch_flight, List.drop_length]
  exact List.length_pos_of_ne_nil hsome

theorem answered_cases (seen : Nat) (torn : Option (Except Exn Bytes))
    (reply : Except Exn (List Frame)) {t : Thread} (hcurrent : t.current.isSome) :
    (t.answered seen torn reply).phase.rank < 4 ∧
      ((t.answered seen torn reply).looping ∨ (t.answered seen torn reply).current.isSome) := by
  unfold Thread.answered
  cases reply with
  | error e => exact ⟨by simp [Phase.rank], Or.inr hcurrent⟩
  | ok frames =>
    simp only
    cases encodeFrames frames with
    | error e => exact ⟨by simp [Phase.rank], Or.inr hcurrent⟩
    | ok bytes =>
      simp only [Thread.afterSend, Thread.looping]
      split_ifs <;> simp [Phase.rank]

/-- A thread that is not quiet has a step that brings it on, or its peer has. -/
theorem Served.lowers_next (h : c.Served start log i) (hexcused : c.Excused) (hquiet : ¬c.Quiet)
    (hsound : c.outbound.broken = false) {room : Nat} (hroom : 0 < room) (clk : Readings)
    (seen : Nat) (s : HealthStore) : c.Lowers (c.act seen s (c.next room clk)).socket := by
  cases hphase : c.thread.phase with
  | reading held =>
    simp only [next, hphase, act]
    exact h.lowers_recv hphase hquiet
  | working todo text answer =>
    obtain ⟨-, -, frame, entries, hcurrent, -⟩ := h.working hphase
    cases todo with
    | nil =>
      simp only [next, hphase, act]
      obtain ⟨hrank, hleft⟩ := answered_cases seen none
        (answer.reply text (Persistence.encodeStateInternal s))
        (show c.thread.current.isSome by simp [hcurrent])
      refine lowers_of_rank rfl (by rw [hphase]; exact hrank) ?_
      rcases hleft with hloop | hsome
      · exact Or.inl hloop
      · exact Or.inr (Or.inr (Or.inr hsome))
    | cons op todo =>
      simp only [next, hphase, act, Socket.call]
      refine lowers_of_rank rfl ?_ (Or.inr (Or.inr (Or.inr (by simp [Thread.afterCall, hcurrent]))))
      rw [hphase]
      simp only [Thread.afterCall]
      split <;> simp [Phase.rank]
  | sending left =>
    by_cases hempty : c.outbound.flight = []
    · simp only [next, hphase, if_pos hempty, act]
      exact lowers_send hroom hphase hsound
    · simp only [next, hphase, if_neg hempty, act]
      exact lowers_fetch hphase hempty
  | closing =>
    simp only [next, hphase, act]
    have hleft : c.inbound.shut = true ∨ (assembleFrames c.inbound.received).refusal.isSome ∨
        c.thread.current.isSome := by
      rcases hexcused with hloop | hleft
      · simp [Thread.looping, hphase] at hloop
      · exact hleft
    unfold close
    split_ifs
    · exact lowers_of_rank rfl (by rw [hphase]; exact Nat.lt_succ_self 0) (Or.inr hleft)
    · exact lowers_of_rank rfl (by rw [hphase]; exact Nat.lt_succ_self 0) (Or.inr hleft)
  | gone => exact absurd (by simp [Quiet, hphase]) hquiet

/-- Of these acts only a teardown can end the process. -/
theorem gone_of_dies {seen : Nat} {s : HealthStore} {clk : Readings} {a : Act} (hown : a.Own clk)
    (h : (c.act seen s a).dies = true) : (c.act seen s a).socket.thread.phase = .gone := by
  have hsignal : a ≠ .sigpipe := by
    rintro rfl
    cases hown
  unfold act at h ⊢
  split at h
  case h_10 => exact absurd rfl hsignal
  case h_11 =>
    unfold close
    split_ifs <;> rfl
  all_goals cases h

theorem Lowers.gone {c' : Socket} (h : c.Lowers c') (hgone : c'.thread.phase = .gone) :
    c.Lowers c'.gone := by
  have hmeasure : c'.gone.measure = c'.measure := by
    simp only [Socket.measure, hgone]
    rfl
  refine ⟨hmeasure ▸ h.measure, ?_⟩
  rcases h.excused with hloop | hleft
  · simp [Thread.looping, hgone] at hloop
  · exact Or.inr hleft

/-- All that the peer has sent is worked off: each frame has had its calls and its answer is
out. Or the loop has been left for a reason. -/
def Drained (c : Socket) : Prop :=
  (∃ held, c.thread.phase = .reading held) ∧ c.inbound.received = c.inbound.sent ∧
      c.thread.exchanges.map Exchange.frame = (assembleFrames c.inbound.sent).messages ∧
      c.thread.served = askedIn c.inbound.sent ∧
      encodeFrames c.thread.replies = .ok c.outbound.sent ∨
    c.thread.phase = .gone ∧ (c.inbound.shut = true ∨
      (assembleFrames c.inbound.received).refusal.isSome ∨ c.thread.current.isSome)

theorem Served.drained (h : c.Served start log i) (hquiet : c.Quiet) (hexcused : c.Excused)
    (hsound : c.outbound.broken = false) : c.Drained := by
  cases hphase : c.thread.phase with
  | reading held =>
    left
    have hflight : c.inbound.flight = [] := by
      simp only [Quiet, hphase] at hquiet
      exact hquiet.1
    obtain ⟨hreceived, hcurrent, -⟩ := h.reading hphase
    have hsent : c.inbound.received = c.inbound.sent := by
      rw [← c.inbound.received_append_flight, hflight, List.append_nil]
    refine ⟨⟨held, hphase⟩, hsent, ?_, ?_, ?_⟩
    · rw [← hsent, hreceived]
      simp [Thread.frames, hcurrent]
    · rw [← hsent, ← h.served_todo (by simp [Thread.looping, hphase])]
      simp [Thread.todo, hphase]
    · obtain ⟨bytes, hbytes, -, hall⟩ := h.outbound_of (by rw [hphase]; rfl) (by rw [hphase]; simp)
      rw [← hall hsound]
      exact hbytes
  | gone =>
    right
    rcases hexcused with hloop | hleft
    · simp [Thread.looping, hphase] at hloop
    · exact ⟨hphase, hleft⟩
  | _ => simp [Quiet, hphase] at hquiet

end Socket

namespace Network
variable {start : HealthStore} {n : Network} {i : Nat} {c : Socket}

/-- An act of a connection, unless it ends the process, leaves what the act comes to. -/
theorem socket_act (hc : n.sockets[i]? = some c) (a : Act) :
    (n.act i c a).sockets[i]? = some (c.act n.log.length n.store a).socket ∨
      (n.act i c a).sockets[i]? = some (c.act n.log.length n.store a).socket.gone ∧
        (c.act n.log.length n.store a).dies = true := by
  have hi : i < n.sockets.length := (List.getElem?_eq_some_iff.mp hc).1
  unfold Network.act
  simp only
  split_ifs with hdies
  · right
    rw [List.getElem?_map, List.getElem?_set_self hi]
    exact ⟨rfl, hdies⟩
  · left
    exact List.getElem?_set_self hi

/-- A step from a network in which the thread is not quiet. -/
theorem lowers_step (htraced : n.Traced start) (hc : n.sockets[i]? = some c) (hexcused : c.Excused)
    (hquiet : ¬c.Quiet) (hsound : c.outbound.broken = false) {room : Nat} (hroom : 0 < room)
    (clk : Readings) :
    ∃ c', (n.step (.on i (c.next room clk))).sockets[i]? = some c' ∧ c.Spares c' ∧ c.Lowers c' := by
  have hstep : n.step (.on i (c.next room clk)) = n.act i c (c.next room clk) := by
    simp only [Network.step, hc]
  have hown := c.own_next room clk
  have hlowers := (htraced.sockets i c hc).lowers_next hexcused hquiet hsound hroom clk n.log.length
    n.store
  have hspares := Socket.spares_act hown n.log.length n.store c
  rw [hstep]
  rcases socket_act hc (c.next room clk) with hsocket | ⟨hsocket, hdies⟩
  · exact ⟨_, hsocket, hspares, hlowers⟩
  · exact ⟨_, hsocket, ⟨hspares.sent, hspares.shut, hspares.broken⟩,
      hlowers.gone (Socket.gone_of_dies hown hdies)⟩

/-- An event by which the `i`-th thread gets on: an act of its own or of its peer, where the
socket has room for it. -/
def Advances (i : Nat) (room : Nat) (clk : Readings) (n : Network) (e : NetEvent) : Prop :=
  ∃ (c : Socket) (a : Act), n.sockets[i]? = some c ∧ e = .on i a ∧ a.Own clk ∧ a.Fits room c

/-- Whatever the room in its socket, a thread in its loop works off what its peer has sent with
no other connection doing anything, as long as the peer reads its answers. -/
def Drains (n : Network) : Prop :=
  ∀ (i : Nat) (c : Socket), n.sockets[i]? = some c → c.thread.looping →
    c.outbound.broken = false → ∀ room : Nat, 0 < room → ∀ clk : Readings,
      ∃ events : List NetEvent, Machine.Along step (Advances i room clk) n events ∧
        ∃ c' : Socket, (Machine.run step n events).sockets[i]? = some c' ∧
          c'.inbound.sent = c.inbound.sent ∧ c'.inbound.shut = c.inbound.shut ∧ c'.Drained

theorem Traced.drains (htraced : n.Traced start) : n.Drains := by
  intro i c hc hloop hsound room hroom clk
  -- each step lowers the measure until the thread is quiet
  obtain ⟨events, hadvances, ⟨hlast, c', hc', hspares, hexcused⟩, c'', hc'', hquiet⟩ :=
    Machine.exists_run_to_rest Network.step
      (fun m => (m.sockets[i]?.map Socket.measure).getD (0, 0, 0, 0))
      (fun m => m.Traced start ∧ ∃ c', m.sockets[i]? = some c' ∧ c.Spares c' ∧ c'.Excused)
      (fun m => ∃ c', m.sockets[i]? = some c' ∧ c'.Quiet)
      (Advances i room clk)
      (fun m ⟨hm, c', hc', hspares, hexcused⟩ => by
        by_cases hquiet : c'.Quiet
        · exact Or.inl ⟨c', hc', hquiet⟩
        · obtain ⟨c'', hc'', hspares', hlowers⟩ :=
            lowers_step hm hc' hexcused hquiet (hspares.broken.trans hsound) hroom clk
          refine Or.inr ⟨_, ⟨c', _, hc', rfl, c'.own_next room clk, c'.fits_next hroom clk⟩,
            ⟨hm.step _, c'', hc'', hspares.trans hspares', hlowers.excused⟩, ?_⟩
          simp only [hc', hc'', Option.map_some, Option.getD_some]
          exact hlowers.measure)
      n ⟨htraced, c, hc, .refl c, Or.inl hloop⟩
  rw [hc'] at hc''
  cases hc''
  exact ⟨events, hadvances, c', hc', hspares.sent, hspares.shut,
    (hlast.sockets i c' hc').drained hquiet hexcused (hspares.broken.trans hsound)⟩

end Network

end AcceleratorHealth
