import AcceleratorHealth.Correlation

/-! The order of time. The log of calls only grows, and an exchange is entered with the
length that the log then has. So whatever is asked after an answer has been read comes
after it in the log: the log is an order of all requests that agrees with what their
clients see, and with when they see it. -/
namespace AcceleratorHealth
open Codec Wire Assembly

/-! ### What a connection gains -/

/-- A later state of a connection: exchanges come on top, and all of them later than the
`seen` calls that had been made. -/
structure Socket.Grows (seen : Nat) (c c' : Socket) : Prop where
  exchanges : ∃ more, c'.thread.exchanges = c.thread.exchanges ++ more ∧ ∀ x ∈ more, seen ≤ x.seen
  received : c.inbound.received <+: c'.inbound.received
  gone : c.thread.phase = .gone → c'.thread.phase = .gone ∧ c'.thread.exchanges = c.thread.exchanges

namespace Socket
variable {seen seen' : Nat} {s : HealthStore} {c c' c'' : Socket} {turn : Turn}

theorem Grows.of_same (hexchanges : c'.thread.exchanges = c.thread.exchanges)
    (hreceived : c.inbound.received <+: c'.inbound.received)
    (hgone : c.thread.phase = .gone → c'.thread.phase = .gone) : c.Grows seen c' where
  exchanges := ⟨[], by rw [hexchanges, List.append_nil], by simp⟩
  received := hreceived
  gone h := ⟨hgone h, hexchanges⟩

theorem Grows.refl (seen : Nat) (c : Socket) : c.Grows seen c :=
  .of_same rfl (List.prefix_refl _) id

theorem Grows.trans (h : c.Grows seen c') (h' : c'.Grows seen' c'') (hle : seen ≤ seen') :
    c.Grows seen c'' where
  exchanges := by
    obtain ⟨more, hmore, hlater⟩ := h.exchanges
    obtain ⟨more', hmore', hlater'⟩ := h'.exchanges
    refine ⟨more ++ more', by rw [hmore', hmore, List.append_assoc], fun x hx => ?_⟩
    rcases List.mem_append.mp hx with hold | hnew
    · exact hlater x hold
    · exact hle.trans (hlater' x hnew)
  received := h.received.trans h'.received
  gone hgone := by
    obtain ⟨hgone', hsame⟩ := h.gone hgone
    obtain ⟨hgone'', hsame'⟩ := h'.gone hgone'
    exact ⟨hgone'', hsame'.trans hsame⟩

theorem exchanges_take (got : Bytes) (t : Thread) : (t.take got).exchanges = t.exchanges := by
  unfold Thread.take
  split <;> rfl

theorem grows_answered (seen : Nat) (torn : Option (Except Exn Bytes))
    (reply : Except Exn (List Frame)) (t : Thread) :
    ∃ more, (t.answered seen torn reply).exchanges = t.exchanges ++ more ∧
      ∀ x ∈ more, seen ≤ x.seen := by
  unfold Thread.answered
  split
  · exact ⟨[], by simp, by simp⟩
  · split
    · exact ⟨[], by simp, by simp⟩
    · refine ⟨_, rfl, fun x hx => ?_⟩
      obtain ⟨p, -, rfl⟩ := List.mem_map.mp hx
      exact Nat.le_refl _

theorem Moves.grows (h : c.Moves seen s turn) : c.Grows seen turn.socket := by
  cases h with
  | peer inbound outbound received sent shut broken => exact .of_same rfl (by simp [received]) id
  | took phase asked within some =>
    refine .of_same (exchanges_take ..) ?_ (fun hgone => by simp [phase] at hgone)
    rw [Pipe.fetch_received]
    exact List.prefix_append ..
  | ended phase => exact .of_same rfl (List.prefix_refl _) (fun hgone => by simp [phase] at hgone)
  | called clk phase =>
    exact .of_same rfl (List.prefix_refl _) (fun hgone => by simp [phase] at hgone)
  | answered torn phase =>
    exact ⟨grows_answered .., List.prefix_refl _, fun hgone => by simp [phase] at hgone⟩
  | sent n phase sound =>
    exact .of_same rfl (List.prefix_refl _) (fun hgone => by simp [phase] at hgone)
  | failed outbound phase sent shut broken =>
    exact .of_same rfl (List.prefix_refl _) (fun hgone => by simp [phase] at hgone)
  | signalled phase => exact .refl ..
  | closed clk phase =>
    unfold close
    split_ifs
    · exact .of_same rfl (List.prefix_refl _) fun _ => rfl
    · exact .of_same rfl (List.prefix_refl _) fun _ => rfl

theorem grows_gone (seen : Nat) (c : Socket) : c.Grows seen c.gone :=
  .of_same rfl (List.prefix_refl _) fun _ => rfl

end Socket

/-- A later state of the network. -/
structure Network.Grows (n n' : Network) : Prop where
  log : n.log <+: n'.log
  length : n.sockets.length ≤ n'.sockets.length
  sockets : ∀ (i : Nat) (c' : Socket), n'.sockets[i]? = some c' →
    (n.sockets[i]?.getD {}).Grows n.log.length c'

namespace Network

theorem Grows.refl (n : Network) : n.Grows n where
  log := List.prefix_refl _
  length := Nat.le_refl _
  sockets i c' hc' := by
    rw [hc']
    exact .refl ..

theorem Grows.trans {n n' n'' : Network} (h : n.Grows n') (h' : n'.Grows n'') : n.Grows n'' where
  log := h.log.trans h'.log
  length := h.length.trans h'.length
  sockets i c'' hc'' := by
    have hlast := h'.sockets i c'' hc''
    cases hc' : n'.sockets[i]? with
    | none =>
      have hnone : n.sockets[i]? = none := by
        rw [List.getElem?_eq_none_iff] at hc' ⊢
        exact h.length.trans hc'
      rw [hnone]
      rw [hc'] at hlast
      exact (Socket.Grows.refl n.log.length {}).trans hlast h.log.length_le
    | some c' =>
      rw [hc'] at hlast
      exact (h.sockets i c' hc').trans hlast h.log.length_le

theorem grows_step (n : Network) (e : NetEvent) : n.Grows (n.step e) := by
  cases e with
  | accept =>
    simp only [step]
    split_ifs
    · refine ⟨List.prefix_refl _, by simp, fun i c' hc' => ?_⟩
      rcases Nat.lt_or_ge i n.sockets.length with hlt | hge
      · rw [List.getElem?_append_left hlt] at hc'
        rw [hc']
        exact .refl ..
      · rw [List.getElem?_append_right hge, List.getElem?_singleton] at hc'
        split_ifs at hc'
        cases hc'
        rw [List.getElem?_eq_none_iff.mpr hge]
        exact .refl ..
    · exact .refl n
  | on i a =>
    refine ⟨?_, (length_sockets_on n i a).ge, fun j c' hc' => ?_⟩
    · simp only [step]
      cases n.sockets[i]? with
      | none => exact List.prefix_refl _
      | some c => exact List.prefix_append ..
    · obtain ⟨c, hc, hleft⟩ := socket_step_on hc'
      have hmoves := (Socket.moves_act n.log.length n.store c a).grows
      rw [hc, Option.getD_some]
      rcases hleft with ⟨rfl | rfl, -⟩ | ⟨-, rfl | ⟨rfl, -⟩⟩
      · exact .refl ..
      · exact c.grows_gone _
      · exact hmoves
      · exact hmoves.trans (Socket.grows_gone n.log.length _) (Nat.le_refl _)

end Network

namespace System

/-- Every event is at most one event of the network. -/
theorem grows_step (s : System) (e : SystemEvent) : s.net.Grows (s.step e).net := by
  cases e with
  | connect program =>
    simp only [step]
    split_ifs
    · exact Network.grows_step s.net .accept
    · exact .refl _
  | thread i a =>
    simp only [step]
    split_ifs
    · exact .refl _
    · exact Network.grows_step s.net (.on i a)
  | peer i a =>
    simp only [step]
    split
    · split_ifs
      · exact Network.grows_step s.net (.on i a)
      · exact .refl _
    · exact .refl _
  | client i m =>
    simp only [step]
    split
    · simp only
      split
      · exact Network.grows_step s.net _
      · exact .refl _
    · exact .refl _

theorem grows_run (s : System) (events : List SystemEvent) :
    s.net.Grows (Machine.run step s events).net := by
  induction events generalizing s with
  | nil => exact .refl _
  | cons e rest ih => exact (s.grows_step e).trans (ih (s.step e))

end System

/-! ### The order of requests -/

/-- Everything called for `x`, and its answer, was over before anything was called for `y`,
which comes after `before` on connection `j`. -/
def Exchange.Precedes (log : List (Nat × Entry)) (j : Nat) (before : List Exchange)
    (x y : Exchange) : Prop :=
  ∃ n, x.seen ≤ n ∧ n ≤ y.seen ∧ entriesOf j (log.take n) <+: before.flatMap Exchange.entries

namespace Network
variable {start : HealthStore} {n n' : Network} {j k : Nat} {peer : Socket} {y : Exchange}

/-- A frame that has not been sent whole has had no call, and none of the later ones. -/
theorem Grows.unsent (hgrows : n.Grows n') (htraced : n.Traced start) (hwithdraws : n.Withdraws)
    (htraced' : n'.Traced start) (hpeer : n'.sockets[j]? = some peer)
    (hy : peer.thread.exchanges[k]? = some y)
    (hunsent : ∀ c : Socket, n.sockets[j]? = some c →
      (assembleFrames c.inbound.sent).messages.length ≤ k) :
    n.log.length ≤ y.seen ∧
      entriesOf j n.log <+: (peer.thread.exchanges.take k).flatMap Exchange.entries := by
  have hsocket := hgrows.sockets j peer hpeer
  obtain ⟨more, hmore, hlater⟩ := hsocket.exchanges
  cases hc : n.sockets[j]? with
  | none =>
    rw [hc] at hmore
    have hnew : peer.thread.exchanges = more := hmore
    rw [htraced.absent j (List.getElem?_eq_none_iff.mp hc)]
    refine ⟨hlater y ?_, List.nil_prefix⟩
    rw [← hnew]
    exact List.mem_of_getElem? hy
  | some c =>
    have hserved := htraced.sockets j c hc
    have hserved' := htraced'.sockets j peer hpeer
    rw [hc, Option.getD_some] at hsocket hmore
    -- all frames that the connection had read then come before the `k`-th
    have hcount : c.thread.frames.length ≤ k := by
      rw [← hserved.messages]
      exact (Format.messages_of_front (F := frameFormat) c.inbound.received_prefix).length_le.trans
        (hunsent c hc)
    have hexchanges : c.thread.exchanges.length ≤ k := by
      simp only [Thread.frames, List.length_append, List.length_map] at hcount
      omega
    have hnew : y ∈ more := by
      rw [hmore, List.getElem?_append_right hexchanges] at hy
      exact List.mem_of_getElem? hy
    have hloop : c.thread.phase ≠ .gone := by
      intro hgone
      rw [(hsocket.gone hgone).2] at hy
      have hlt := (List.getElem?_eq_some_iff.mp hy).1
      omega
    have hteardown := (hwithdraws j c hc).before hloop
    have hk := (List.getElem?_eq_some_iff.mp hy).1
    have hframes : c.thread.frames <+: (peer.thread.exchanges.take k).map Exchange.frame := by
      have hread := Format.messages_of_front (F := frameFormat) hsocket.received
      have hfront : c.thread.frames <+: peer.thread.frames := by
        rw [← hserved.messages, ← hserved'.messages]
        exact hread
      have htaken : (peer.thread.exchanges.take k).map Exchange.frame <+: peer.thread.frames := by
        rw [Thread.frames, ← List.take_append_drop k peer.thread.exchanges, List.map_append,
          List.append_assoc]
        simp
      refine List.prefix_of_prefix_length_le hfront htaken ?_
      rw [List.length_map, List.length_take]
      omega
    -- two fronts of the calls on the connection, of which this one is the shorter
    have hcalls : entriesOf j n.log <+: peer.thread.entries := by
      rw [← hserved'.entries]
      obtain ⟨rest, hrest⟩ := hgrows.log
      rw [← hrest, entriesOf_append]
      exact List.prefix_append ..
    have htaken : (peer.thread.exchanges.take k).flatMap Exchange.entries <+:
        peer.thread.entries := by
      rw [Thread.entries, ← List.take_append_drop k peer.thread.exchanges, List.flatMap_append,
        List.append_assoc]
      simp
    refine ⟨hlater y hnew, List.prefix_of_prefix_length_le hcalls htaken ?_⟩
    have hasked : askedIn c.inbound.received <+:
        ((peer.thread.exchanges.take k).flatMap Exchange.entries).map fun e => e.call.op := by
      obtain ⟨rest, hrest⟩ := hframes
      have hops : ((peer.thread.exchanges.take k).flatMap Exchange.entries).map
          (fun e => e.call.op) =
          ((peer.thread.exchanges.take k).map Exchange.frame).flatMap
            fun frame => frame.request.ops := by
        rw [List.map_flatMap, List.flatMap_map]
        exact List.flatMap_congr fun x hx => hserved'.exchange_ops (List.mem_of_mem_take hx)
      rw [hops, ← hrest, List.flatMap_append, askedIn, hserved.messages]
      exact List.prefix_append ..
    have hserved_le := (hserved.served_prefix.trans hasked).length_le
    rw [hserved.entries, ← List.length_map (f := fun e : Entry => e.call.op), Thread.entries_eq,
      hteardown, List.map_nil, List.append_nil]
    simpa using hserved_le

end Network

namespace System

/-- What a client has got for the answer to its `k`-th request. -/
def Holds (s : System) (i k : Nat) (f : Frame) : Prop :=
  ∃ c : Client, s.clients[i]? = some (some c) ∧ c.results[k]? = some (some f)

/-- The `k`-th frame on a connection is not all sent, if the connection is there at all. -/
def Unsent (s : System) (j k : Nat) : Prop :=
  ∀ socket : Socket, s.net.sockets[j]? = some socket →
    (assembleFrames socket.inbound.sent).messages.length ≤ k

/-- In the later state `s'` the log has a request that was answered by the time of `s` before
each that was then still to be sent. -/
def InOrder (start : HealthStore) (s s' : System) : Prop :=
  ∀ i k f j k', s.Holds i k f → s.Unsent j k' →
    ∀ (peer : Socket) (y : Exchange), s'.net.sockets[j]? = some peer →
      peer.thread.exchanges[k']? = some y →
      ∃ (socket : Socket) (x : Exchange), s'.net.sockets[i]? = some socket ∧
        socket.thread.exchanges[k]? = some x ∧ x.reply = [f] ∧
        x.Faithful start s'.net.log i (socket.thread.exchanges.take k) ∧
        y.Faithful start s'.net.log j (peer.thread.exchanges.take k') ∧
        x.Precedes s'.net.log j (peer.thread.exchanges.take k') y

end System
end AcceleratorHealth
