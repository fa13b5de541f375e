import AcceleratorHealth.Network

/-! Requests and answers over the network. Whatever the pieces in which bytes travel and
however the threads interleave, the calls made for a connection are those of the frames in
its bytes, each frame once and in their order; and what goes back is their answers. -/
namespace AcceleratorHealth
open Codec Wire Assembly

/-- The store after the calls of a log. -/
def storeAfter (start : HealthStore) (log : List (Nat × Entry)) : HealthStore :=
  Machine.run HealthStore.step start (log.map fun p => p.2.call)

/-- The calls that one connection has made. -/
def entriesOf (i : Nat) (log : List (Nat × Entry)) : List Entry :=
  log.filterMap fun p => if p.1 = i then some p.2 else none

theorem storeAfter_append (start : HealthStore) (log more : List (Nat × Entry)) :
    storeAfter start (log ++ more) = Machine.run HealthStore.step (storeAfter start log)
      (more.map fun p => p.2.call) := by
  rw [storeAfter, List.map_append, Machine.run_append, storeAfter]

theorem entriesOf_append (i : Nat) (log more : List (Nat × Entry)) :
    entriesOf i (log ++ more) = entriesOf i log ++ entriesOf i more := List.filterMap_append

theorem entriesOf_own (i : Nat) (entries : List Entry) :
    entriesOf i (entries.map (i, ·)) = entries := by
  induction entries with
  | nil => rfl
  | cons e rest ih =>
    rw [List.map_cons, entriesOf, List.filterMap_cons, if_pos rfl]
    exact congrArg _ ih

theorem entriesOf_other {i j : Nat} (h : i ≠ j) (entries : List Entry) :
    entriesOf i (entries.map (j, ·)) = [] := by
  induction entries with
  | nil => rfl
  | cons e rest ih =>
    rw [List.map_cons, entriesOf, List.filterMap_cons, if_neg (by simpa using h.symm)]
    exact ih

/-- An exchange as a client may rely on it: the calls that its frame asks for have all
returned, after those of the exchanges before it on the connection and before any other of
the connection, and the answer is made of their result. An answer that is an image is the
store's at that time only if the encoding was left alone. -/
structure Exchange.Faithful (start : HealthStore) (log : List (Nat × Entry)) (i : Nat)
    (before : List Exchange) (x : Exchange) : Prop where
  calls : x.entries.map (fun e => e.call.op) = x.frame.request.ops
  returned : ∀ e ∈ x.entries, e.outcome.isOk = true
  seen : x.seen ≤ log.length
  later : ∀ y ∈ before, y.seen ≤ x.seen
  order : entriesOf i (log.take x.seen) = (before ++ [x]).flatMap Exchange.entries
  reply : x.frame.request.answer.reply (noted x.entries) (x.torn.getD
    (Persistence.encodeStateInternal (storeAfter start (log.take x.seen)))) = .ok x.reply

/-- A log that goes on leaves an exchange as it is. -/
theorem Exchange.Faithful.append {start : HealthStore} {log : List (Nat × Entry)} {i : Nat}
    {before : List Exchange} {x : Exchange} (h : x.Faithful start log i before)
    (more : List (Nat × Entry)) : x.Faithful start (log ++ more) i before where
  calls := h.calls
  returned := h.returned
  seen := by
    rw [List.length_append]
    exact h.seen.trans (by omega)
  later := h.later
  order := by
    rw [List.take_append_of_le_length h.seen]
    exact h.order
  reply := by
    rw [List.take_append_of_le_length h.seen]
    exact h.reply

/-- Where a thread stands with what it has received. -/
def Socket.Standing (c : Socket) : Prop :=
  match c.thread.phase with
  | .reading held =>
    assembleFrames c.inbound.received = { messages := c.thread.frames, held } ∧
      c.thread.current = none ∧ c.thread.teardown = []
  | .working todo text answer =>
    assembleFrames c.inbound.received = { messages := c.thread.frames } ∧ c.thread.teardown = [] ∧
      ∃ frame entries, c.thread.current = some (frame, entries) ∧
        entries.map (fun e => e.call.op) ++ todo = frame.request.ops ∧
        (∀ e ∈ entries, e.outcome.isOk = true) ∧ text = noted entries ∧
        answer = frame.request.answer
  | .sending _ =>
    assembleFrames c.inbound.received = { messages := c.thread.frames } ∧
      c.thread.current = none ∧ c.thread.teardown = []
  | .closing =>
    (assembleFrames c.inbound.received).messages = c.thread.frames ∧ c.thread.teardown = []
  | .gone => (assembleFrames c.inbound.received).messages = c.thread.frames

/-- The bytes that are still to be sent. -/
def Phase.left : Phase → Bytes
  | .sending left => left
  | _ => []

/-- The thread of a connection has done what its frames ask for and nothing else. -/
structure Socket.Served (start : HealthStore) (log : List (Nat × Entry)) (i : Nat) (c : Socket) :
    Prop where
  standing : c.Standing
  entries : entriesOf i log = c.thread.entries
  current : ∀ frame entries, c.thread.current = some (frame, entries) →
    entries.map (fun e => e.call.op) <+: frame.request.ops
  exchanges : ∀ before x after, c.thread.exchanges = before ++ x :: after →
    x.Faithful start log i before
  opened : c.thread.phase ≠ .gone → c.outbound.shut = false
  outbound : ∃ bytes, encodeFrames c.thread.replies = .ok bytes ∧ c.outbound.sent <+: bytes ∧
    (c.thread.phase ≠ .gone → c.outbound.broken = false →
      bytes = c.outbound.sent ++ c.thread.phase.left)

namespace Socket

/-- What an act can do: nothing on the side of the thread, or one step of what the thread
is at. -/
inductive Moves (seen : Nat) (s : HealthStore) (c : Socket) : Turn → Prop
  | peer (inbound outbound : Pipe UInt8) (received : inbound.received = c.inbound.received)
      (sent : outbound.sent = c.outbound.sent) (shut : outbound.shut = c.outbound.shut)
      (broken : outbound.broken = c.outbound.broken) :
      Moves seen s c { store := s, socket := { c with inbound, outbound } }
  | took {held : Bytes} {n wanted : Nat} (phase : c.thread.phase = .reading held)
      (asked : judgeFrame held = .more wanted) (within : n ≤ wanted)
      (some : c.inbound.flight.take n ≠ []) :
      Moves seen s c
        { store := s
          socket :=
            { c with
              inbound := c.inbound.fetch n
              thread := c.thread.take (held ++ c.inbound.flight.take n) } }
  | ended {held : Bytes} (phase : c.thread.phase = .reading held) :
      Moves seen s c { store := s, socket := c.withPhase .closing }
  | called {op : Op} {todo : List Op} {text : String} {answer : Answer} (clk : Readings)
      (phase : c.thread.phase = .working (op :: todo) text answer) :
      Moves seen s c (c.call clk op todo text answer s)
  | answered {text : String} {answer : Answer} (torn : Option (Except Exn Bytes))
      (phase : c.thread.phase = .working [] text answer) :
      Moves seen s c
        { store := s
          socket :=
            { c with
              thread := c.thread.answered seen torn
                (answer.reply text (torn.getD (Persistence.encodeStateInternal s))) } }
  | sent {left : Bytes} (n : Nat) (phase : c.thread.phase = .sending left)
      (sound : c.outbound.broken = false) :
      Moves seen s c
        { store := s
          socket :=
            { c with
              outbound := c.outbound.write (left.take n)
              thread := c.thread.afterSend (left.drop n) } }
  | failed {left : Bytes} (outbound : Pipe UInt8) (phase : c.thread.phase = .sending left)
      (sent : outbound.sent = c.outbound.sent) (shut : outbound.shut = c.outbound.shut)
      (broken : outbound.broken = true) :
      Moves seen s c { store := s, socket := withPhase (.reading []) { c with outbound } }
  | signalled {left : Bytes} (phase : c.thread.phase = .sending left) :
      Moves seen s c { store := s, socket := c, dies := true }
  | closed (clk : Readings) (phase : c.thread.phase = .closing) : Moves seen s c (c.close clk s)

theorem moves_idle (seen : Nat) (s : HealthStore) (c : Socket) :
    c.Moves seen s { store := s, socket := c } := .peer c.inbound c.outbound rfl rfl rfl rfl

theorem moves_act (seen : Nat) (s : HealthStore) (c : Socket) (a : Act) :
    c.Moves seen s (c.act seen s a) := by
  unfold act
  split
  next bytes => exact .peer _ c.outbound (c.inbound.write_received bytes) rfl rfl rfl
  · exact .peer _ c.outbound c.inbound.close_received rfl rfl rfl
  next n => exact .peer c.inbound _ rfl rfl rfl rfl
  next n held hphase =>
    unfold recv
    split
    next wanted hasked =>
      split_ifs with hsome hend
      · exact .took hphase hasked (Nat.min_le_right _ _) hsome
      · exact .ended hphase
      · exact moves_idle ..
    · exact moves_idle ..
  next held hphase => exact .ended hphase
  next clk op todo text answer hphase => exact .called clk hphase
  next torn text answer hphase => exact .answered torn hphase
  next n left hphase =>
    unfold send
    split_ifs with hbroken
    · exact .failed c.outbound hphase rfl rfl hbroken
    · exact .sent n hphase (by simpa using hbroken)
  next left hphase => exact .failed _ hphase rfl rfl rfl
  next left hphase => exact .signalled hphase
  next clk hphase => exact .closed clk hphase
  · exact moves_idle ..

variable {start : HealthStore} {log : List (Nat × Entry)} {i seen : Nat} {s : HealthStore}
  {c : Socket} {turn : Turn}

/-- The call of an act, if any, is its effect on the store. -/
theorem Moves.store (h : c.Moves seen s turn) :
    turn.entries = [] ∧ turn.store = s ∨
      ∃ e, turn.entries = [e] ∧ turn.store = s.step e.call ∧
        e.outcome = (s.exec e.call).result := by
  cases h with
  | called clk phase => exact Or.inr ⟨_, rfl, rfl, rfl⟩
  | closed clk phase =>
    unfold close
    split_ifs
    · exact Or.inr ⟨_, rfl, rfl, rfl⟩
    · exact Or.inl ⟨rfl, rfl⟩
  | _ => exact Or.inl ⟨rfl, rfl⟩

/-! ### What the thread has received -/

theorem Served.reading (h : c.Served start log i) {held : Bytes}
    (hphase : c.thread.phase = .reading held) :
    assembleFrames c.inbound.received = { messages := c.thread.frames, held } ∧
      c.thread.current = none ∧ c.thread.teardown = [] := by
  have hstanding := h.standing
  unfold Standing at hstanding
  rwa [hphase] at hstanding

theorem Served.working (h : c.Served start log i) {todo : List Op} {text : String} {answer : Answer}
    (hphase : c.thread.phase = .working todo text answer) :
    assembleFrames c.inbound.received = { messages := c.thread.frames } ∧ c.thread.teardown = [] ∧
      ∃ frame entries, c.thread.current = some (frame, entries) ∧
        entries.map (fun e => e.call.op) ++ todo = frame.request.ops ∧
        (∀ e ∈ entries, e.outcome.isOk = true) ∧ text = noted entries ∧
        answer = frame.request.answer := by
  have hstanding := h.standing
  unfold Standing at hstanding
  rwa [hphase] at hstanding

theorem Served.sending (h : c.Served start log i) {left : Bytes}
    (hphase : c.thread.phase = .sending left) :
    assembleFrames c.inbound.received = { messages := c.thread.frames } ∧
      c.thread.current = none ∧ c.thread.teardown = [] := by
  have hstanding := h.standing
  unfold Standing at hstanding
  rwa [hphase] at hstanding

theorem Served.closing (h : c.Served start log i) (hphase : c.thread.phase = .closing) :
    (assembleFrames c.inbound.received).messages = c.thread.frames ∧ c.thread.teardown = [] := by
  have hstanding := h.standing
  unfold Standing at hstanding
  rwa [hphase] at hstanding

/-- Where nothing is under way the stream to the peer is what it is in any such phase. -/
theorem Served.outbound_of (h : c.Served start log i) (hleft : c.thread.phase.left = [])
    (hgone : c.thread.phase ≠ .gone) :
    ∃ bytes, encodeFrames c.thread.replies = .ok bytes ∧ c.outbound.sent <+: bytes ∧
      (c.outbound.broken = false → bytes = c.outbound.sent) := by
  obtain ⟨bytes, hbytes, hsent, hall⟩ := h.outbound
  rw [hleft, List.append_nil] at hall
  exact ⟨bytes, hbytes, hsent, hall hgone⟩

/-- A piece of what is asked for goes to the frame under way. -/
theorem Served.assembled (h : c.Served start log i) {held : Bytes} {n wanted : Nat}
    (hphase : c.thread.phase = .reading held) (hasked : judgeFrame held = .more wanted)
    (hwithin : n ≤ wanted) (hsome : c.inbound.flight.take n ≠ []) :
    assembleFrames (c.inbound.fetch n).received =
      frameFormat.settle c.thread.frames (held ++ c.inbound.flight.take n) := by
  obtain ⟨hreceived, -, -⟩ := h.reading hphase
  have hlength : (c.inbound.flight.take n).length ≤ wanted := by
    rw [List.length_take]
    omega
  rw [Pipe.fetch_received, assembleFrames, Format.assemble_append, ← assembleFrames, hreceived]
  exact Format.feed_piece ⟨rfl, hasked⟩ hsome hlength

theorem Served.take (h : c.Served start log i) {held : Bytes} {n wanted : Nat}
    (hphase : c.thread.phase = .reading held) (hasked : judgeFrame held = .more wanted)
    (hwithin : n ≤ wanted) (hsome : c.inbound.flight.take n ≠ []) :
    Served start log i
      { c with
        inbound := c.inbound.fetch n
        thread := c.thread.take (held ++ c.inbound.flight.take n) } := by
  obtain ⟨-, hcurrent, hteardown⟩ := h.reading hphase
  obtain ⟨bytes, hbytes, hsent, hall⟩ := h.outbound_of (by rw [hphase]; rfl) (by rw [hphase]; simp)
  have hopened := h.opened (by rw [hphase]; simp)
  have hentries := h.entries
  have hexchanges := h.exchanges
  have hassembled := h.assembled hphase hasked hwithin hsome
  generalize c.inbound.flight.take n = piece at hassembled ⊢
  cases hjudge : judgeFrame (held ++ piece) with
  | more k =>
    rw [Format.settle_of_more hjudge] at hassembled
    simp only [Thread.take, hjudge]
    exact ⟨⟨hassembled, hcurrent, hteardown⟩, hentries, h.current, hexchanges, fun _ => hopened,
      bytes, hbytes, hsent, fun _ => by simpa [Phase.left] using hall⟩
  | message frame =>
    rw [Format.settle_of_message hjudge] at hassembled
    simp only [Thread.take, hjudge]
    refine ⟨⟨?_, hteardown, frame, [], rfl, rfl, by simp, rfl, rfl⟩, ?_, ?_, hexchanges,
      fun _ => hopened, bytes, hbytes, hsent, fun _ => by simpa [Phase.left] using hall⟩
    · rw [hassembled]
      simp [Thread.frames, hcurrent]
    · rw [hentries]
      simp [Thread.entries, hcurrent]
    · rintro _ _ ⟨⟩
      exact List.nil_prefix
  | refused err =>
    rw [Format.settle_of_refused hjudge] at hassembled
    simp only [Thread.take, hjudge]
    refine ⟨⟨by rw [hassembled]; rfl, hteardown⟩, hentries, h.current, hexchanges, fun _ => hopened,
      bytes, hbytes, hsent, fun _ => by simpa [Phase.left] using hall⟩

theorem Served.peer (h : c.Served start log i) {inbound outbound : Pipe UInt8}
    (hreceived : inbound.received = c.inbound.received) (hsent : outbound.sent = c.outbound.sent)
    (hshut : outbound.shut = c.outbound.shut) (hbroken : outbound.broken = c.outbound.broken) :
    Served start log i { c with inbound, outbound } where
  standing := by
    have hstanding := h.standing
    unfold Standing at hstanding ⊢
    simp only [hreceived]
    exact hstanding
  entries := h.entries
  current := h.current
  exchanges := h.exchanges
  opened := by
    rw [hshut]
    exact h.opened
  outbound := by
    rw [hsent, hbroken]
    exact h.outbound

theorem Served.ended (h : c.Served start log i) {held : Bytes}
    (hphase : c.thread.phase = .reading held) : Served start log i (c.withPhase .closing) := by
  obtain ⟨hreceived, -, hteardown⟩ := h.reading hphase
  obtain ⟨bytes, hbytes, hsent, hall⟩ := h.outbound_of (by rw [hphase]; rfl) (by rw [hphase]; simp)
  have hopened := h.opened (by rw [hphase]; simp)
  exact ⟨⟨congrArg Progress.messages hreceived, hteardown⟩, h.entries, h.current, h.exchanges,
    fun _ => hopened, bytes, hbytes, hsent, fun _ => by simpa [Phase.left, withPhase] using hall⟩

theorem noted_append (entries : List Entry) (call : Call) (r : Reply) :
    noted (entries ++ [⟨call, .ok r⟩]) = r.noted (noted entries) := by
  rw [noted, List.foldl_append]
  rfl

theorem Served.called (h : c.Served start log i) {op : Op} {todo : List Op} {text : String}
    {answer : Answer} (hphase : c.thread.phase = .working (op :: todo) text answer) {e : Entry}
    (hop : e.call.op = op) :
    Served start (log ++ [(i, e)]) i
      { c with thread := c.thread.afterCall e todo text answer } := by
  obtain ⟨hreceived, hteardown, frame, entries, hcurrent, hops, hok, rfl, rfl⟩ := h.working hphase
  obtain ⟨bytes, hbytes, hsent, hall⟩ := h.outbound_of (by rw [hphase]; rfl) (by rw [hphase]; simp)
  have hopened := h.opened (by rw [hphase]; simp)
  have hdone : (entries ++ [e]).map (fun e => e.call.op) ++ todo = frame.request.ops := by
    rw [List.map_append, List.append_assoc, ← hops]
    simp [hop]
  have hframes : (c.thread.afterCall e todo (noted entries) frame.request.answer).frames =
      c.thread.frames := by
    simp [Thread.frames, Thread.afterCall, hcurrent]
  refine ⟨?_, ?_, ?_, ?_, fun _ => hopened, bytes, hbytes, hsent, ?_⟩
  · obtain ⟨call, outcome⟩ := e
    cases outcome with
    | error e => exact ⟨by rw [hreceived]; exact hframes.symm, hteardown⟩
    | ok r =>
      refine ⟨by rw [hreceived, hframes], hteardown, frame, entries ++ [⟨call, .ok r⟩], ?_,
        hdone, ?_, ?_, rfl⟩
      · simp [Thread.afterCall, hcurrent]
      · exact List.forall_mem_append.mpr ⟨hok, List.forall_mem_singleton.mpr rfl⟩
      · exact (noted_append ..).symm
  · rw [entriesOf_append, h.entries]
    simp [Thread.entries, Thread.afterCall, hcurrent, hteardown, entriesOf]
  · intro frame' entries' h'
    simp only [Thread.afterCall, hcurrent, Option.map_some, Option.some.injEq, Prod.mk.injEq] at h'
    obtain ⟨rfl, rfl⟩ := h'
    exact ⟨todo, hdone⟩
  · exact fun before x after hx => (h.exchanges before x after hx).append [(i, e)]
  · intro _ hbroken
    rw [hall hbroken]
    cases hout : e.outcome <;> simp [Thread.afterCall, hout, Phase.left]

/-- The only new element of an extended list is its last. -/
theorem split_concat {α : Type} {l before after : List α} {x y : α}
    (h : l ++ [y] = before ++ x :: after) :
    before = l ∧ x = y ∨ ∃ after', l = before ++ x :: after' := by
  rcases List.eq_nil_or_concat after with rfl | ⟨after', z, rfl⟩
  · obtain ⟨rfl, hx⟩ := List.append_inj' h rfl
    cases hx
    exact Or.inl ⟨rfl, rfl⟩
  · right
    rw [List.concat_eq_append, ← List.cons_append, ← List.append_assoc] at h
    exact ⟨after', (List.append_inj' h rfl).1⟩

theorem encodeFrames_append {frames more : List Frame} {bytes bytes' : Bytes}
    (h : encodeFrames frames = .ok bytes) (h' : encodeFrames more = .ok bytes') :
    encodeFrames (frames ++ more) = .ok (bytes ++ bytes') := by
  induction frames generalizing bytes with
  | nil =>
    cases h
    exact h'
  | cons m rest ih =>
    obtain ⟨f, bytes₁, hf, hrest, rfl⟩ := emitAll_cons_ok.mp h
    rw [List.append_assoc]
    exact emitAll_cons_ok.mpr ⟨f, _, hf, ih hrest, rfl⟩

@[simp] theorem left_afterSend (left : Bytes) (t : Thread) :
    (t.afterSend left).phase.left = left := by
  unfold Thread.afterSend
  split_ifs with hnil
  · exact hnil.symm
  · rfl

theorem standing_afterSend {c : Socket} (left : Bytes)
    (hreceived : assembleFrames c.inbound.received = { messages := c.thread.frames })
    (hcurrent : c.thread.current = none) (hteardown : c.thread.teardown = []) :
    Standing { c with thread := c.thread.afterSend left } := by
  unfold Thread.afterSend
  split_ifs
  · exact ⟨hreceived, hcurrent, hteardown⟩
  · exact ⟨hreceived, hcurrent, hteardown⟩

theorem Served.answered (h : c.Served start log i) {text : String} {answer : Answer}
    (torn : Option (Except Exn Bytes)) (hphase : c.thread.phase = .working [] text answer) :
    Served start log i
      { c with
        thread := c.thread.answered log.length torn
          (answer.reply text (torn.getD
            (Persistence.encodeStateInternal (storeAfter start log)))) } := by
  obtain ⟨hreceived, hteardown, frame, entries, hcurrent, hops, hok, rfl, rfl⟩ := h.working hphase
  obtain ⟨bytes, hbytes, hsent, hall⟩ := h.outbound_of (by rw [hphase]; rfl) (by rw [hphase]; simp)
  have hopened := h.opened (by rw [hphase]; simp)
  have hclosing : Served start log i (c.withPhase .closing) :=
    ⟨⟨congrArg Progress.messages hreceived, hteardown⟩, h.entries, h.current, h.exchanges,
      fun _ => hopened, bytes, hbytes, hsent, fun _ => by simpa [Phase.left, withPhase] using hall⟩
  unfold Thread.answered
  cases hreply : frame.request.answer.reply (noted entries)
      (torn.getD (Persistence.encodeStateInternal (storeAfter start log))) with
  | error e => exact hclosing
  | ok frames =>
    simp only
    cases hencode : encodeFrames frames with
    | error e => exact hclosing
    | ok more =>
      simp only [hcurrent, Option.toList_some, List.map_cons, List.map_nil]
      generalize hx : (⟨frame, entries, log.length, torn, frames⟩ : Exchange) = x
      have hrecorded : entriesOf i log = (c.thread.exchanges ++ [x]).flatMap Exchange.entries := by
        rw [h.entries]
        simp [Thread.entries, hcurrent, hteardown, ← hx]
      have hfaithful : x.Faithful start log i c.thread.exchanges := by
        rw [← hx] at hrecorded ⊢
        refine ⟨by rw [← hops, List.append_nil], hok, Nat.le_refl _, fun y hy => ?_, ?_, ?_⟩
        · obtain ⟨before, after, hsplit⟩ := List.append_of_mem hy
          exact (h.exchanges before y after hsplit).seen
        · rw [List.take_length]
          exact hrecorded
        · rw [List.take_length]
          exact hreply
      have hframe : x.frame = frame := by rw [← hx]
      have hframes : x.reply = frames := by rw [← hx]
      refine ⟨standing_afterSend (c := { c with thread := { c.thread with
        exchanges := c.thread.exchanges ++ [x], current := none } }) more ?_ rfl hteardown,
        ?_, ?_, ?_, fun _ => hopened, bytes ++ more, ?_, hsent.trans (List.prefix_append ..), ?_⟩
      · rw [hreceived]
        simp [Thread.frames, hcurrent, hframe]
      · rw [hrecorded]
        simp [Thread.entries, Thread.afterSend, hteardown]
      · intro frame' entries' hnone
        simp [Thread.afterSend] at hnone
      · intro before y after hsplit
        rcases split_concat hsplit with ⟨rfl, rfl⟩ | ⟨after', hold⟩
        · exact hfaithful
        · exact h.exchanges before y after' hold
      · rw [← hframes] at hencode
        have hreplies := encodeFrames_append hbytes hencode
        simpa [Thread.replies, Thread.afterSend] using hreplies
      · intro _ hbroken
        rw [left_afterSend, hall hbroken]

theorem Served.sent (h : c.Served start log i) {left : Bytes} (n : Nat)
    (hphase : c.thread.phase = .sending left) (hsound : c.outbound.broken = false) :
    Served start log i
      { c with
        outbound := c.outbound.write (left.take n)
        thread := c.thread.afterSend (left.drop n) } := by
  obtain ⟨hreceived, hcurrent, hteardown⟩ := h.sending hphase
  obtain ⟨bytes, hbytes, -, hall⟩ := h.outbound
  have hopened := h.opened (by rw [hphase]; simp)
  replace hall := hall (by rw [hphase]; simp)
  rw [hphase] at hall
  have hwritten : (c.outbound.write (left.take n)).sent = c.outbound.sent ++ left.take n := by
    unfold Pipe.write
    rw [if_neg (by simp [hopened, hsound])]
  have hbytes' : bytes = c.outbound.sent ++ left.take n ++ left.drop n := by
    rw [hall hsound, List.append_assoc, List.take_append_drop]
    rfl
  refine ⟨standing_afterSend (c := { c with outbound := c.outbound.write (left.take n) }) _
    hreceived hcurrent hteardown, h.entries, h.current, h.exchanges, ?_, bytes, hbytes, ?_, ?_⟩
  · rw [Pipe.write_shut]
    exact fun _ => hopened
  · rw [hwritten, hbytes']
    exact List.prefix_append ..
  · rw [hwritten, left_afterSend]
    exact fun _ _ => hbytes'

theorem Served.failed (h : c.Served start log i) {left : Bytes} {outbound : Pipe UInt8}
    (hphase : c.thread.phase = .sending left) (hsent : outbound.sent = c.outbound.sent)
    (hshut : outbound.shut = c.outbound.shut) (hbroken : outbound.broken = true) :
    Served start log i (withPhase (.reading []) { c with outbound }) := by
  obtain ⟨hreceived, hcurrent, hteardown⟩ := h.sending hphase
  obtain ⟨bytes, hbytes, hfront, -⟩ := h.outbound
  have hopened := h.opened (by rw [hphase]; simp)
  refine ⟨⟨hreceived, hcurrent, hteardown⟩, h.entries, h.current, h.exchanges, ?_, bytes,
    hbytes, ?_, ?_⟩
  · exact fun _ => hshut.trans hopened
  · simp only [withPhase, hsent]
    exact hfront
  · simp only [withPhase, hbroken]
    simp

theorem Served.messages (h : c.Served start log i) :
    (assembleFrames c.inbound.received).messages = c.thread.frames := by
  have hstanding := h.standing
  unfold Standing at hstanding
  cases hphase : c.thread.phase <;> simp only [hphase] at hstanding
  · exact congrArg Progress.messages hstanding.1
  · exact congrArg Progress.messages hstanding.1
  · exact congrArg Progress.messages hstanding.1
  · exact hstanding.1
  · exact hstanding

/-- The end of a thread, whatever it was at. -/
theorem Served.gone (h : c.Served start log i) : Served start log i c.gone := by
  obtain ⟨bytes, hbytes, hsent, -⟩ := h.outbound
  exact ⟨h.messages, h.entries, h.current, h.exchanges, fun hne => absurd rfl hne, bytes,
    hbytes, hsent, fun hne => absurd rfl hne⟩

/-- The call of a teardown goes on record. -/
theorem Served.tornDown (h : c.Served start log i) (hphase : c.thread.phase = .closing)
    (e : Entry) :
    Served start (log ++ [(i, e)]) i
      (Socket.gone { c with thread := { c.thread with teardown := [e] } }) := by
  obtain ⟨hmessages, hteardown⟩ := h.closing hphase
  obtain ⟨bytes, hbytes, hsent, -⟩ := h.outbound
  refine ⟨hmessages, ?_, h.current, ?_, fun hne => absurd rfl hne, bytes, hbytes, hsent,
    fun hne => absurd rfl hne⟩
  · rw [entriesOf_append, h.entries]
    simp [Thread.entries, hteardown, entriesOf, Socket.gone, withPhase]
  · exact fun before x after hx => (h.exchanges before x after hx).append [(i, e)]

/-- Every act leaves the thread of its connection with what its frames ask for. -/
theorem Served.moves (h : c.Served start log i)
    (hmoves : c.Moves log.length (storeAfter start log) turn) :
    turn.socket.Served start (log ++ turn.entries.map (i, ·)) i := by
  cases hmoves with
  | called clk phase => exact h.called phase rfl
  | closed clk phase =>
    unfold close
    split_ifs
    · exact h.tornDown phase _
    · simpa using h.gone
  | peer inbound outbound received sent shut broken =>
    simpa using h.peer received sent shut broken
  | took phase asked within some => simpa using h.take phase asked within some
  | ended phase => simpa using h.ended phase
  | answered torn phase => simpa using h.answered torn phase
  | sent n phase sound => simpa using h.sent n phase sound
  | failed outbound phase sent shut broken => simpa using h.failed phase sent shut broken
  | signalled phase => simpa using h

/-- Calls of other connections are none of its own. -/
theorem Served.others (h : c.Served start log i) {j : Nat} (hne : i ≠ j) (entries : List Entry) :
    c.Served start (log ++ entries.map (j, ·)) i where
  standing := h.standing
  entries := by
    rw [entriesOf_append, entriesOf_other hne, List.append_nil]
    exact h.entries
  current := h.current
  exchanges before x after hx := (h.exchanges before x after hx).append _
  opened := h.opened
  outbound := h.outbound

/-- A connection just accepted. -/
theorem served_new (start : HealthStore) {log : List (Nat × Entry)} {i : Nat}
    (hnone : entriesOf i log = []) : Served start log i {} where
  standing := ⟨rfl, rfl, rfl⟩
  entries := hnone
  current := by simp
  exchanges := by simp
  opened := fun _ => rfl
  outbound := ⟨[], rfl, List.prefix_refl _, fun _ _ => rfl⟩

end Socket

namespace Network

/-- What holds in every network that the coordinator gets to. -/
structure Traced (start : HealthStore) (n : Network) : Prop where
  store : n.store = storeAfter start n.log
  outcomes : ∀ before i e after, n.log = before ++ (i, e) :: after →
    e.outcome = ((storeAfter start before).exec e.call).result
  sockets : ∀ i c, n.sockets[i]? = some c → Socket.Served start n.log i c
  absent : ∀ i, n.sockets.length ≤ i → entriesOf i n.log = []

theorem traced_start (start : HealthStore) : Traced start { store := start } where
  store := rfl
  outcomes := by simp
  sockets := by simp
  absent := fun _ _ => rfl

/-- The calls of an act come out as the store says, wherever in the log they stand. -/
theorem outcomes_append {start : HealthStore} {log : List (Nat × Entry)} {i : Nat} {turn : Turn}
    {c : Socket} {seen : Nat}
    (h : ∀ before j e after, log = before ++ (j, e) :: after →
      e.outcome = ((storeAfter start before).exec e.call).result)
    (hmoves : c.Moves seen (storeAfter start log) turn) :
    ∀ before j e after, log ++ turn.entries.map (i, ·) = before ++ (j, e) :: after →
      e.outcome = ((storeAfter start before).exec e.call).result := by
  intro before j e after hsplit
  rcases hmoves.store with ⟨hnone, -⟩ | ⟨e', hone, -, hout⟩
  · rw [hnone, List.map_nil, List.append_nil] at hsplit
    exact h before j e after hsplit
  · rw [hone] at hsplit
    rcases Socket.split_concat hsplit with ⟨rfl, he⟩ | ⟨after', hold⟩
    · cases he
      exact hout
    · exact h before j e after' hold

theorem Traced.accept {start : HealthStore} {n : Network} (h : n.Traced start) :
    Traced start { n with sockets := n.sockets ++ [{}] } where
  store := h.store
  outcomes := h.outcomes
  sockets i c hc := by
    rcases Nat.lt_or_ge i n.sockets.length with hlt | hge
    · rw [List.getElem?_append_left hlt] at hc
      exact h.sockets i c hc
    · rw [List.getElem?_append_right hge] at hc
      obtain rfl : c = {} := by
        rw [List.getElem?_singleton] at hc
        split_ifs at hc
        exact (Option.some.inj hc).symm
      exact Socket.served_new start (h.absent i hge)
  absent i hi := h.absent i (by
    rw [List.length_append] at hi
    omega)

theorem Traced.act {start : HealthStore} {n : Network} (h : n.Traced start) {i : Nat} {c : Socket}
    (hc : n.sockets[i]? = some c) (a : Act) : (n.act i c a).Traced start := by
  have hi : i < n.sockets.length := (List.getElem?_eq_some_iff.mp hc).1
  have hmoves := Socket.moves_act n.log.length n.store c a
  rw [h.store] at hmoves
  unfold Network.act
  rw [h.store]
  generalize c.act n.log.length (storeAfter start n.log) a = turn at hmoves
  have hserved : ∀ j c', (n.sockets.set i turn.socket)[j]? = some c' →
      Socket.Served start (n.log ++ turn.entries.map (i, ·)) j c' := by
    intro j c' hj
    rw [List.getElem?_set] at hj
    split_ifs at hj with hij
    · cases hj
      rw [← hij]
      exact (h.sockets i c hc).moves hmoves
    · exact (h.sockets j c' hj).others (fun heq => hij heq.symm) turn.entries
  refine ⟨?_, outcomes_append h.outcomes hmoves, ?_, ?_⟩
  · simp only
    rw [storeAfter_append, List.map_map]
    rcases hmoves.store with ⟨hnone, hsame⟩ | ⟨e, hone, hstep, -⟩
    · rw [hnone, hsame]
      rfl
    · rw [hone, hstep]
      rfl
  · intro j c' hj
    simp only at hj
    split_ifs at hj
    · rw [List.getElem?_map] at hj
      obtain ⟨before, hbefore, rfl⟩ := Option.map_eq_some_iff.mp hj
      exact (hserved j before hbefore).gone
    · exact hserved j c' hj
  · intro j hj
    have hlength : n.sockets.length ≤ j := by
      simp only at hj
      split_ifs at hj <;> simpa using hj
    rw [entriesOf_append, h.absent j hlength, List.nil_append]
    exact entriesOf_other (by omega) _

/-- Every event leaves a network in which each thread has done what its frames ask for. -/
theorem Traced.step {start : HealthStore} {n : Network} (h : n.Traced start) (e : NetEvent) :
    (n.step e).Traced start := by
  cases e with
  | accept =>
    simp only [Network.step]
    split_ifs
    · exact h.accept
    · exact h
  | on i a =>
    simp only [Network.step]
    cases hc : n.sockets[i]? with
    | none => exact h
    | some c => exact h.act hc a

theorem traced_after (start : HealthStore) (events : List NetEvent) :
    (after start events).Traced start :=
  Machine.run_invariant (C := fun _ _ => True) (fun _ e hn _ => hn.step e) (traced_start start)
    (Machine.along_of_forall fun _ _ _ => trivial)

end Network
end AcceleratorHealth
