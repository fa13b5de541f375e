import AcceleratorHealth.Clients

/-! Which answer a client takes for which request. The bytes a client has sent are a front
of its requests, the frames it has read are a front of the answers, and each answer is to
one request: so the answer it has read last is to the request it has sent last. -/
namespace AcceleratorHealth
open Codec Wire Assembly

/-- The bytes of frames that fit are what the encoder makes of them. -/
theorem encodeFrames_of_bytes {frames : List Frame}
    (h : ∀ f ∈ frames, f.payload.length ≤ kMaxFramePayload) :
    encodeFrames frames = .ok (frames.flatMap Frame.bytes) := by
  induction frames with
  | nil => rfl
  | cons f rest ih =>
    rw [List.forall_mem_cons] at h
    have hf : encodeFrame f.type f.payload = .ok f.bytes := by
      unfold Frame.bytes
      rw [encodeFrame_eq_wireFrame h.1]
      rfl
    exact emitAll_cons_ok.mpr ⟨f.bytes, _, hf, ih h.2, rfl⟩

/-- The connection after an act of its peer, or without one. -/
def Socket.peerAct (socket : Socket) : Option Act → Socket
  | some (.write bytes) => { socket with inbound := socket.inbound.write bytes }
  | some .shut => { socket with inbound := socket.inbound.close }
  | some (.fetch n) => { socket with outbound := socket.outbound.fetch n }
  | _ => socket

namespace Client

/-- The bytes of the answer under way. -/
def held (c : Client) : Bytes :=
  match c.phase with
  | .awaiting held => held
  | _ => []

/-- What the connection of a client holds, as the client knows it. -/
structure Synced (socket : Socket) (c : Client) : Prop where
  front : socket.inbound.sent <+: c.program.requests.flatMap Frame.bytes
  sending : c.broken = false → ∀ left, c.phase = .sending left → socket.inbound.sent ++ left =
    (c.program.requests.take (c.results.length + 1)).flatMap Frame.bytes
  awaiting : c.broken = false → ∀ held, c.phase = .awaiting held → socket.inbound.sent =
    (c.program.requests.take (c.results.length + 1)).flatMap Frame.bytes
  opened : c.phase ≠ .done → socket.inbound.shut = false
  sound : socket.inbound.broken = false
  results : ∃ m, c.results =
    (assembleFrames socket.outbound.received).messages.map some ++ List.replicate m none
  current : c.broken = false → socket.outbound.shut = true ∧ socket.outbound.flight = [] ∨
    c.results = (assembleFrames socket.outbound.received).messages.map some ∧
      (assembleFrames socket.outbound.received).refusal = none ∧
      (assembleFrames socket.outbound.received).held = c.held

/-- What a move can be. -/
inductive Moves (socket : Socket) (c : Client) : Client → Socket → Prop
  | idle : Moves socket c c socket
  | sent {left : Bytes} (n : Nat) (phase : c.phase = .sending left) (sound : c.broken = false) :
      Moves socket c (c.afterSend (left.drop n))
        { socket with inbound := socket.inbound.write (left.take n) }
  | unsent {left : Bytes} (phase : c.phase = .sending left) : Moves socket c c.unsent socket
  | took {held : Bytes} {n wanted : Nat} (phase : c.phase = .awaiting held)
      (sound : c.broken = false)
      (asked : judgeFrame held = .more wanted) (within : n ≤ wanted)
      (some : socket.outbound.flight.take n ≠ []) :
      Moves socket c (c.take (held ++ socket.outbound.flight.take n))
        { socket with outbound := socket.outbound.fetch n }
  | ended {held : Bytes} (phase : c.phase = .awaiting held)
      (finished : c.broken = true ∨ socket.outbound.flight = [] ∧ socket.outbound.shut = true) :
      Moves socket c (c.conclude none) socket
  | failed {held : Bytes} (phase : c.phase = .awaiting held) :
      Moves socket c (Client.conclude none { c with broken := true }) socket
  | exit (phase : c.phase = .done) :
      Moves socket c c { socket with inbound := socket.inbound.close }
  | killed : Moves socket c { c with phase := .done, broken := true }
      { socket with inbound := socket.inbound.close }

theorem moves_move (socket : Socket) (c : Client) (m : Move) :
    c.Moves socket (c.move socket m).1 (socket.peerAct (c.move socket m).2) := by
  unfold move
  split
  next n left hphase =>
    split_ifs with hbroken
    · exact .unsent hphase
    · exact .sent n hphase (by simpa using hbroken)
  next left hphase => exact .unsent hphase
  next n held hphase =>
    split_ifs with hbroken
    · exact .ended hphase (Or.inl hbroken)
    unfold recv
    split
    next wanted hasked =>
      split_ifs with hsome hend
      · exact .took hphase (by simpa using hbroken) hasked (Nat.min_le_right _ _) hsome
      · exact .ended hphase (Or.inr hend)
      · exact .idle
    · exact .idle
  next held hphase => exact .failed hphase
  next hphase => exact .exit hphase
  · exact .killed
  · exact .idle

variable {socket : Socket} {c : Client}

/-- What the thread does on its side leaves a client in step. -/
theorem Synced.keeps (h : c.Synced socket) {socket' : Socket} (hkeeps : socket.Keeps socket') :
    c.Synced socket' where
  front := by
    rw [hkeeps.sent]
    exact h.front
  sending := by
    rw [hkeeps.sent]
    exact h.sending
  awaiting := by
    rw [hkeeps.sent]
    exact h.awaiting
  opened := by
    rw [hkeeps.shut]
    exact h.opened
  sound := by
    rw [hkeeps.broken]
    exact h.sound
  results := by
    rw [hkeeps.received]
    exact h.results
  current hbroken := by
    rw [hkeeps.received]
    rcases h.current hbroken with ⟨hshut, hflight⟩ | hcurrent
    · obtain ⟨hshut', hflight'⟩ := hkeeps.ended hshut
      exact Or.inl ⟨hshut', hflight'.trans hflight⟩
    · exact Or.inr hcurrent

/-- A client about to begin its next request is in step when what it has sent is its requests
so far, unless it has failed. -/
theorem synced_begin {results : List (Option Frame)}
    (hfront : socket.inbound.sent <+: c.program.requests.flatMap Frame.bytes)
    (hsent : c.broken = false → socket.inbound.sent =
      (c.program.requests.take results.length).flatMap Frame.bytes)
    (hopened : socket.inbound.shut = false) (hsound : socket.inbound.broken = false)
    (hresults : ∃ m, results =
      (assembleFrames socket.outbound.received).messages.map some ++ List.replicate m none)
    (hcurrent : c.broken = false → socket.outbound.shut = true ∧ socket.outbound.flight = [] ∨
      results = (assembleFrames socket.outbound.received).messages.map some ∧
        (assembleFrames socket.outbound.received).refusal = none ∧
        (assembleFrames socket.outbound.received).held = []) :
    (begin { c with results }).Synced socket := by
  unfold begin
  cases hnext : c.program.requests[results.length]? with
  | none =>
    simp only
    refine ⟨hfront, ?_, ?_, fun _ => hopened, hsound, hresults, hcurrent⟩
    · rintro - left ⟨⟩
    · rintro - held ⟨⟩
  | some f =>
    simp only
    refine ⟨hfront, ?_, ?_, fun _ => hopened, hsound, hresults, hcurrent⟩
    · rintro hbroken left ⟨⟩
      rw [hsent hbroken, List.take_add_one, hnext, Option.toList_some, List.flatMap_append]
      simp
    · rintro - held ⟨⟩

theorem Synced.sent (h : c.Synced socket) {left : Bytes} (n : Nat)
    (hphase : c.phase = .sending left)
    (hsound : c.broken = false) :
    (c.afterSend (left.drop n)).Synced
      { socket with inbound := socket.inbound.write (left.take n) } := by
  have hopened := h.opened (by rw [hphase]; simp)
  have hwritten :
      (socket.inbound.write (left.take n)).sent = socket.inbound.sent ++ left.take n := by
    unfold Pipe.write
    rw [if_neg (by simp [hopened, h.sound])]
  have hheld : c.held = [] := by simp only [held, hphase]
  have hall := h.sending hsound left hphase
  have hsplit : socket.inbound.sent ++ left.take n ++ left.drop n =
      (c.program.requests.take (c.results.length + 1)).flatMap Frame.bytes := by
    rw [List.append_assoc, List.take_append_drop, hall]
  have hfront : socket.inbound.sent ++ left.take n <+: c.program.requests.flatMap Frame.bytes := by
    refine List.IsPrefix.trans ⟨_, hsplit⟩ ⟨(c.program.requests.drop (c.results.length + 1)).flatMap
      Frame.bytes, ?_⟩
    rw [← List.flatMap_append, List.take_append_drop]
  have hcurrent := h.current hsound
  rw [hheld] at hcurrent
  unfold afterSend
  split_ifs with hdone
  · rw [hdone, List.append_nil] at hsplit
    exact ⟨by simpa only [hwritten] using hfront, by simp,
      fun _ _ _ => by simpa only [hwritten] using hsplit,
      fun _ => by simpa using hopened, by simpa using h.sound, h.results, fun _ => hcurrent⟩
  · refine ⟨by simpa only [hwritten] using hfront, ?_, by simp, fun _ => by simpa using hopened,
      by simpa using h.sound, h.results, fun _ => hcurrent⟩
    rintro - rest ⟨⟩
    simpa only [hwritten] using hsplit

/-- A failure goes on record after what has been read. -/
theorem Synced.results_failed (h : c.Synced socket) : ∃ m, c.results ++ [none] =
    (assembleFrames socket.outbound.received).messages.map some ++ List.replicate m none := by
  obtain ⟨m, hm⟩ := h.results
  exact ⟨m + 1, by rw [hm, List.append_assoc, List.replicate_succ']⟩

/-- Once a call has failed, what the client does next is not tied to its requests. -/
theorem Synced.conclude_broken (h : c.Synced socket) (hphase : c.phase ≠ .done) :
    (Client.conclude none { c with broken := true }).Synced socket :=
  synced_begin (c := { c with broken := true }) h.front (by simp) (h.opened hphase) h.sound
    h.results_failed (by simp)

theorem Synced.unsent (h : c.Synced socket) {left : Bytes} (hphase : c.phase = .sending left) :
    c.unsent.Synced socket := by
  have hrunning : c.phase ≠ .done := by
    rw [hphase]
    simp
  unfold Client.unsent
  split_ifs
  · exact h.conclude_broken hrunning
  · exact ⟨h.front, by simp, by simp, fun _ => h.opened hrunning, h.sound, h.results, by simp⟩

theorem Synced.took (h : c.Synced socket) {held : Bytes} {n wanted : Nat}
    (hphase : c.phase = .awaiting held) (hsound : c.broken = false)
    (hasked : judgeFrame held = .more wanted) (hwithin : n ≤ wanted)
    (hsome : socket.outbound.flight.take n ≠ [])
    (hreadable : (assembleFrames (socket.outbound.fetch n).received).refusal = none) :
    (c.take (held ++ socket.outbound.flight.take n)).Synced
      { socket with outbound := socket.outbound.fetch n } := by
  have hrunning : c.phase ≠ .done := by
    rw [hphase]
    simp
  obtain ⟨hresults, hrefusal, hheld⟩ : c.results =
      (assembleFrames socket.outbound.received).messages.map some ∧
        (assembleFrames socket.outbound.received).refusal = none ∧
        (assembleFrames socket.outbound.received).held = held := by
    rcases h.current hsound with ⟨-, hnone⟩ | hcurrent
    · rw [hnone, List.take_nil] at hsome
      exact absurd rfl hsome
    · simpa only [Client.held, hphase] using hcurrent
  have hlength : (socket.outbound.flight.take n).length ≤ wanted := by
    rw [List.length_take]
    omega
  have hassembled : assembleFrames (socket.outbound.fetch n).received =
      frameFormat.settle (assembleFrames socket.outbound.received).messages
        (held ++ socket.outbound.flight.take n) := by
    rw [Pipe.fetch_received, assembleFrames, Format.assemble_append, ← assembleFrames]
    rw [Format.feed_piece ⟨hrefusal, by rw [hheld]; exact hasked⟩ hsome hlength, hheld]
  have hsent := h.awaiting hsound held hphase
  have hopened := h.opened hrunning
  generalize socket.outbound.flight.take n = piece at hassembled
  generalize socket.outbound.fetch n = outbound at hassembled hreadable
  unfold Client.take
  cases hjudge : judgeFrame (held ++ piece) with
  | more k =>
    rw [Format.settle_of_more hjudge] at hassembled
    refine ⟨h.front, by simp, fun _ _ _ => hsent, fun _ => hopened, h.sound, ⟨0, ?_⟩,
      fun _ => Or.inr ?_⟩
    · simpa [hassembled] using hresults
    · simpa [hassembled, Client.held] using hresults
  | message f =>
    rw [Format.settle_of_message hjudge] at hassembled
    have hread : c.results ++ [some f] = (assembleFrames outbound.received).messages.map some := by
      rw [hassembled, hresults, List.map_append]
      rfl
    refine synced_begin h.front (fun _ => ?_) hopened h.sound ⟨0, ?_⟩
      (fun _ => Or.inr ⟨hread, ?_, ?_⟩)
    · simpa using hsent
    · simpa using hread
    · rw [hassembled]
    · rw [hassembled]
  | refused e =>
    rw [Format.settle_of_refused hjudge] at hassembled
    rw [hassembled] at hreadable
    cases hreadable

theorem Synced.ended (h : c.Synced socket) {held : Bytes} (hphase : c.phase = .awaiting held)
    (hfinished : c.broken = true ∨ socket.outbound.flight = [] ∧ socket.outbound.shut = true) :
    (c.conclude none).Synced socket := by
  refine synced_begin h.front (fun hsound => ?_) (h.opened (by rw [hphase]; simp)) h.sound
    h.results_failed (fun hsound => Or.inl ?_)
  · simpa using h.awaiting hsound held hphase
  · exact (hfinished.resolve_left (by simp [hsound])).symm

/-- A move leaves the client in step, as long as what it reads is in order. -/
theorem Synced.moves (h : c.Synced socket) {c' : Client} {socket' : Socket}
    (hmoves : c.Moves socket c' socket')
    (hreadable : (assembleFrames socket'.outbound.received).refusal = none) :
    c'.Synced socket' := by
  cases hmoves with
  | idle => exact h
  | sent n phase sound => exact h.sent n phase sound
  | unsent phase => exact h.unsent phase
  | took phase sound asked within some => exact h.took phase sound asked within some hreadable
  | ended phase finished => exact h.ended phase finished
  | failed phase => exact h.conclude_broken (by rw [phase]; simp)
  | exit phase =>
    exact ⟨h.front, h.sending, h.awaiting, fun hrunning => absurd phase hrunning, h.sound,
      h.results, h.current⟩
  | killed =>
    exact ⟨h.front, by simp, by simp, fun hrunning => absurd rfl hrunning, h.sound,
      h.results, by simp⟩

/-- What goes out on a connection is its peer's doing. -/
theorem byPeer_move (socket : Socket) (c : Client) (m : Move) {a : Act}
    (h : (c.move socket m).2 = some a) : a.byPeer = true := by
  unfold move at h
  split at h
  · split_ifs at h
    cases h
    rfl
  · cases h
  · by_cases hbroken : c.broken = true
    · rw [if_pos hbroken] at h
      cases h
    · rw [if_neg hbroken] at h
      unfold recv at h
      split at h
      · split_ifs at h
        cases h
        rfl
      · cases h
  · cases h
  · cases h
    rfl
  · cases h
    rfl
  · cases h

theorem synced_start (program : Program) : (start program).Synced {} :=
  synced_begin (c := { program }) List.nil_prefix (fun _ => rfl) rfl rfl ⟨0, rfl⟩
    fun _ => Or.inr ⟨rfl, rfl, rfl⟩

end Client

theorem Socket.act_byPeer {a : Act} (h : a.byPeer = true) (seen : Nat) (s : HealthStore)
    (socket : Socket) : (socket.act seen s a).socket = socket.peerAct (some a) := by
  cases a with
  | write bytes => rfl
  | shut => rfl
  | fetch n => rfl
  | _ => cases h

namespace System

/-- What holds in every system that is reached: the network is one of the coordinator's, and
every client is in step with its connection. -/
structure Linked (start : HealthStore) (s : System) : Prop where
  traced : s.net.Traced start
  withdraws : s.net.Withdraws
  length : s.clients.length = s.net.sockets.length
  synced : ∀ (i : Nat) (socket : Socket) (c : Client), s.net.sockets[i]? = some socket →
    s.clients[i]? = some (some c) → c.Synced socket

variable {start : HealthStore} {s : System}

theorem Linked.connect (h : s.Linked start) (program : Option Program) :
    (s.step (.connect program)).Linked start := by
  simp only [System.step]
  split_ifs with halive
  · have hnet : s.net.step .accept = { s.net with sockets := s.net.sockets ++ [{}] } :=
      if_pos halive
    refine ⟨h.traced.step .accept, h.withdraws.step h.traced .accept, ?_, ?_⟩
    · simp only [hnet, List.length_append, h.length, List.length_singleton]
    · intro i socket c hsocket hclient
      simp only [hnet] at hsocket
      rcases Nat.lt_or_ge i s.clients.length with hlt | hge
      · rw [List.getElem?_append_left hlt] at hclient
        rw [List.getElem?_append_left (h.length ▸ hlt)] at hsocket
        exact h.synced i socket c hsocket hclient
      · rw [List.getElem?_append_right hge, List.getElem?_singleton] at hclient
        rw [List.getElem?_append_right (h.length ▸ hge), List.getElem?_singleton] at hsocket
        split_ifs at hclient hsocket
        cases hsocket
        obtain ⟨p, -, rfl⟩ := Option.map_eq_some_iff.mp (Option.some.inj hclient)
        exact Client.synced_start p
  · exact h

/-- An act that is not a client's own leaves every client in step. -/
theorem Linked.beside (h : s.Linked start) (i : Nat) (a : Act)
    (hother : a.byPeer = false ∨ ∀ c, s.clients[i]? ≠ some (some c)) :
    Linked start { s with net := s.net.step (.on i a) } where
  traced := h.traced.step (.on i a)
  withdraws := h.withdraws.step h.traced (.on i a)
  length := h.length.trans (Network.length_sockets_on ..).symm
  synced j socket c hsocket hclient := by
    have hside : a.byPeer = false ∨ i ≠ j := by
      refine hother.imp_right fun hnone => ?_
      rintro rfl
      exact hnone c hclient
    obtain ⟨before, hbefore, hkeeps⟩ := Network.keeps_step_on hside hsocket
    exact (h.synced j before c hbefore hclient).keeps hkeeps

theorem Linked.move (h : s.Linked start) {i : Nat} {socket : Socket} {c : Client}
    (hsocket : s.net.sockets[i]? = some socket) (hclient : s.clients[i]? = some (some c))
    (m : Move) :
    Linked start
      { net := match (c.move socket m).2 with
          | some a => s.net.step (.on i a)
          | none => s.net
        clients := s.clients.set i (some (c.move socket m).1) } := by
  have hmoves := Client.moves_move socket c m
  have hi : i < s.clients.length := (List.getElem?_eq_some_iff.mp hclient).1
  have hsynced := h.synced i socket c hsocket hclient
  cases hact : (c.move socket m).2 with
  | none =>
    rw [hact] at hmoves
    refine ⟨h.traced, h.withdraws, by simpa using h.length, ?_⟩
    intro j socket' c' hsocket' hclient'
    rw [List.getElem?_set] at hclient'
    split_ifs at hclient' with hij
    · cases hij
      cases hclient'
      simp only [hsocket, Option.some.injEq] at hsocket'
      cases hsocket'
      exact hsynced.moves hmoves (h.traced.sockets i socket hsocket).readable.2
    · exact h.synced j socket' c' hsocket' hclient'
  | some a =>
    have hpeer := Client.byPeer_move socket c m hact
    have htraced := h.traced.step (.on i a)
    rw [hact] at hmoves
    refine ⟨htraced, h.withdraws.step h.traced (.on i a),
      by simpa [Network.length_sockets_on] using h.length, ?_⟩
    intro j socket' c' hsocket' hclient'
    rw [List.getElem?_set] at hclient'
    split_ifs at hclient' with hij
    · cases hij
      cases hclient'
      have hreadable := (htraced.sockets i socket' hsocket').readable.2
      have hown := Network.socket_step_peer hsocket hsocket' hpeer
      rw [Socket.act_byPeer hpeer] at hown
      rw [hown] at hreadable ⊢
      exact hsynced.moves hmoves hreadable
    · obtain ⟨before, hbefore, hkeeps⟩ := Network.keeps_step_on (Or.inr hij) hsocket'
      exact (h.synced j before c' hbefore hclient').keeps hkeeps

/-- Every event leaves the clients in step. -/
theorem Linked.step (h : s.Linked start) (e : SystemEvent) : (s.step e).Linked start := by
  cases e with
  | connect program => exact h.connect program
  | thread i a =>
    simp only [System.step]
    split_ifs with hpeer
    · exact h
    · exact h.beside i a (Or.inl (by simpa using hpeer))
  | peer i a =>
    simp only [System.step]
    split
    next hclient =>
      split_ifs
      · exact h.beside i a (Or.inr fun c hc => by simp [hclient] at hc)
      · exact h
    · exact h
  | client i m =>
    simp only [System.step]
    split
    next socket c hsocket hclient => exact h.move hsocket hclient m
    · exact h

theorem linked_after (start : HealthStore) (events : List SystemEvent) :
    (after start events).Linked start :=
  Machine.run_invariant (C := fun _ _ => True) (fun _ e h _ => h.step e)
    ⟨Network.traced_start start, fun i c hc => by simp at hc, rfl, by simp⟩
      (Machine.along_of_forall fun _ _ _ => trivial)

end System

/-! ### Answers and requests -/

/-- A frame that asks for an answer gets one frame. -/
theorem Answer.reply_single {answer : Answer} {text : String} {image : Except Exn Bytes}
    {frames : List Frame} (hask : answer ≠ .silent) (h : answer.reply text image = .ok frames) :
    ∃ f, frames = [f] := by
  have hmap : ∀ sent : Except Exn Frame, sent.map ([·]) = .ok frames → ∃ f, frames = [f] := by
    intro sent hsent
    cases sent with
    | error e => cases hsent
    | ok f =>
      cases hsent
      exact ⟨f, rfl⟩
  cases answer with
  | silent => exact absurd rfl hask
  | ack type msg => exact hmap _ h
  | verdict => exact hmap _ h
  | image => exact hmap _ h

/-- Where every element gives one, the `k`-th of all is from the `k`-th. -/
theorem getElem?_flatMap_single {α β : Type} {f : α → List β} {xs : List α} {k : Nat} {b : β}
    (hone : ∀ x ∈ xs, ∃ b, f x = [b]) (h : (xs.flatMap f)[k]? = some b) :
    ∃ x, xs[k]? = some x ∧ f x = [b] := by
  induction xs generalizing k with
  | nil => simp at h
  | cons x rest ih =>
    obtain ⟨⟨b', hb'⟩, hrest⟩ := List.forall_mem_cons.mp hone
    rw [List.flatMap_cons, hb', List.singleton_append] at h
    cases k with
    | zero =>
      cases h
      exact ⟨x, rfl, hb'⟩
    | succ k => exact ih hrest h

theorem getElem?_of_front {α : Type} {front l : List α} {k : Nat} {a : α} (h : front <+: l)
    (hk : front[k]? = some a) : l[k]? = some a := by
  obtain ⟨rest, rfl⟩ := h
  rw [List.getElem?_append_left (List.getElem?_eq_some_iff.mp hk).1]
  exact hk

theorem split_at {α : Type} {l : List α} {k : Nat} {a : α} (h : l[k]? = some a) :
    l = l.take k ++ a :: l.drop (k + 1) := by
  obtain ⟨hk, rfl⟩ := List.getElem?_eq_some_iff.mp h
  rw [← List.drop_eq_getElem_cons hk, List.take_append_drop]

/-- What a client has got from its connection: the frames answered there are its requests, in
order, and what it holds for the answer to its `k`-th request is the answer to that request. -/
structure Client.Correlated (start : HealthStore) (log : List (Nat × Entry)) (i : Nat)
    (thread : Thread) (c : Client) : Prop where
  served : thread.exchanges.map Exchange.frame <+: c.program.requests
  answered : ∀ k f, c.results[k]? = some (some f) → ∃ x : Exchange, thread.exchanges[k]? = some x ∧
    c.program.requests[k]? = some x.frame ∧ x.reply = [f] ∧
      x.Faithful start log i (thread.exchanges.take k)

/-- What a client in step with its connection holds. -/
theorem Client.Synced.correlated {start : HealthStore} {log : List (Nat × Entry)} {i : Nat}
    {socket : Socket} {c : Client} (h : c.Synced socket) (hserved : socket.Served start log i) :
    c.Correlated start log i socket.thread := by
  have hrequests : socket.thread.exchanges.map Exchange.frame <+: c.program.requests := by
    have hread := (assembleFrames_of_front (encodeFrames_of_bytes c.program.fits)
      (socket.inbound.received_prefix.trans h.front)).1
    rw [hserved.messages] at hread
    exact (List.prefix_append _ _).trans hread
  refine ⟨hrequests, fun k f hk => ?_⟩
  have hmessage : (assembleFrames socket.outbound.received).messages[k]? = some f := by
    obtain ⟨m, hm⟩ := h.results
    rw [hm, List.getElem?_append] at hk
    split_ifs at hk with hlt
    · simpa using hk
    · rw [List.getElem?_replicate] at hk
      split_ifs at hk
      cases hk
  have hsingle : ∀ x ∈ socket.thread.exchanges, ∃ f, x.reply = [f] := by
    intro x hx
    obtain ⟨before, after, hsplit⟩ := List.append_of_mem hx
    have hmem : x.frame ∈ c.program.requests := hrequests.subset (List.mem_map_of_mem hx)
    exact Answer.reply_single (c.program.answering _ hmem)
      (hserved.exchanges before x after hsplit).reply
  obtain ⟨x, hx, hone⟩ :=
    getElem?_flatMap_single hsingle (getElem?_of_front hserved.readable.1 hmessage)
  have hframe : c.program.requests[k]? = some x.frame :=
    getElem?_of_front hrequests (by rw [List.getElem?_map, hx]; rfl)
  exact ⟨x, hx, hframe, hone, hserved.exchanges _ _ _ (split_at hx)⟩

def System.Correlated (start : HealthStore) (s : System) : Prop :=
  ∀ (i : Nat) (socket : Socket) (c : Client), s.net.sockets[i]? = some socket →
    s.clients[i]? = some (some c) → c.Correlated start s.net.log i socket.thread

/-- The connection that a client talks to. -/
theorem System.Linked.connection {start : HealthStore} {s : System} {i : Nat} {c : Client}
    (h : s.Linked start) (hclient : s.clients[i]? = some (some c)) :
    ∃ socket : Socket, s.net.sockets[i]? = some socket ∧ socket.Served start s.net.log i ∧
      c.Correlated start s.net.log i socket.thread := by
  have hi : i < s.net.sockets.length := by
    rw [← h.length]
    exact (List.getElem?_eq_some_iff.mp hclient).1
  have hsocket := List.getElem?_eq_getElem hi
  have hserved := h.traced.sockets i _ hsocket
  exact ⟨_, hsocket, hserved, (h.synced i _ c hsocket hclient).correlated hserved⟩

end AcceleratorHealth
