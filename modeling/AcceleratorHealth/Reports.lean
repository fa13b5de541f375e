import AcceleratorHealth.Correlation
import AcceleratorHealth.Fencing

/-! Observations reported over the network. A client takes its report for accepted when the
acknowledgement says so, and that is when its own call on the store has accepted it. So the
fence of the store holds between clients: of all the reports under one incarnation of a
worker, whoever sends them, those taken for accepted have different generations. -/
namespace AcceleratorHealth
open Codec Wire

/-- The outcome of `sendAndExpect` for the frame that has come back. -/
def Frame.accepted (f : Frame) : Bool :=
  match f.type with
  | .ack =>
    match readAckBody.run { data := f.payload } with
    | .error _ => false
    | .ok ((_, ok, _), _) => ok
  | .snapshotResponse => true
  | _ => false

/-- The `k`-th request of the `i`-th client is this report, and this is what the client has
been told of it. -/
def System.Told (s : System) (i k : Nat) (env : AuthorityEnvelope) (obs : AcceleratorObservation)
    (verdict : Bool) : Prop :=
  ∃ (c : Client) (request answer : Frame) (r : Reader), s.clients[i]? = some (some c) ∧
    c.program.requests[k]? = some request ∧ request.type = .observation ∧
    readObsBody.run { data := request.payload } = .ok ((env, obs), r) ∧
    c.results[k]? = some (some answer) ∧ answer.accepted = verdict

section Frames
attribute [local irreducible] readObsBody readAckBody readRegBody readValBody readFaultBody

theorem accepted_of_ack {type : MessageType} {accepted : Bool} {msg : Str} {f : Frame}
    (h : sendFrame .ack (ackBody type accepted msg) = .ok f) : f.accepted = accepted := by
  unfold sendFrame at h
  cases hbody : ackBody type accepted msg with
  | error e =>
    rw [hbody] at h
    cases h
  | ok payload =>
    rw [hbody] at h
    simp only at h
    split_ifs at h with hsize
    cases h
    obtain ⟨r, hrun, -⟩ := run_of_reads (reads_ackBody type accepted msg) [] hbody
      (by unfold kMaxFramePayload at hsize; omega) (r := { data := payload }) rfl
      (by rw [List.append_nil]; rfl)
    unfold Frame.accepted
    simp only [hrun]

theorem accepted_of_verdict {text : String} {image : Except Exn Bytes} {f : Frame}
    (h : Answer.verdict.reply text image = .ok [f]) : f.accepted = decide (text = "accepted") := by
  unfold Answer.reply at h
  cases hsent : sendFrame .ack (ackBody .observation (text = "accepted") (str text)) with
  | error e =>
    rw [hsent] at h
    cases h
  | ok f' =>
    rw [hsent] at h
    cases h
    exact accepted_of_ack hsent

/-- A frame asks only for calls that handlers make, and registers only the incarnation that it
introduces. -/
theorem request_ops (frame : Frame) : ∀ op ∈ frame.request.ops, op.serves = true ∧
    ∀ worker boot, op = .registerWorker worker boot → frame.introduces = some (worker, boot) := by
  obtain ⟨type, payload⟩ := frame
  intro op hop
  cases type with
  | register =>
    unfold Frame.request at hop
    unfold Frame.introduces
    cases hread : readRegBody.run { data := payload } with
    | error e => simp [hread] at hop
    | ok x =>
      obtain ⟨⟨hello, devices⟩, r⟩ := x
      cases devices with
      | none =>
        simp only [hread, List.mem_singleton] at hop
        subst hop
        refine ⟨rfl, ?_⟩
        rintro worker boot ⟨⟩
        rfl
      | some devices =>
        simp only [hread, List.mem_cons, List.mem_append, List.mem_map, List.not_mem_nil,
          or_false] at hop
        rcases hop with rfl | ⟨d, -, rfl⟩ | rfl
        · refine ⟨rfl, ?_⟩
          rintro worker boot ⟨⟩
          rfl
        · exact ⟨rfl, by rintro _ _ ⟨⟩⟩
        · exact ⟨rfl, by rintro _ _ ⟨⟩⟩
  | observation =>
    unfold Frame.request at hop
    cases hread : readObsBody.run { data := payload } with
    | error e => simp [hread] at hop
    | ok x =>
      simp only [hread, List.mem_singleton] at hop
      subst hop
      exact ⟨rfl, by rintro _ _ ⟨⟩⟩
  | validationResult =>
    unfold Frame.request at hop
    cases hread : readValBody.run { data := payload } with
    | error e => simp [hread] at hop
    | ok x =>
      simp only [hread, List.mem_singleton] at hop
      subst hop
      exact ⟨rfl, by rintro _ _ ⟨⟩⟩
  | faultReport =>
    unfold Frame.request at hop
    cases hread : readFaultBody.run { data := payload } with
    | error e => simp [hread] at hop
    | ok x =>
      simp only [hread, List.mem_singleton] at hop
      subst hop
      exact ⟨rfl, by rintro _ _ ⟨⟩⟩
  | _ => simp [Frame.request] at hop

theorem request_report {frame : Frame} {env : AuthorityEnvelope} {obs : AcceleratorObservation}
    {r : Reader} (htype : frame.type = .observation)
    (hread : readObsBody.run { data := frame.payload } = .ok ((env, obs), r)) :
    frame.request = { ops := [.acceptObservation obs env], answer := .verdict } := by
  obtain ⟨type, payload⟩ := frame
  simp only at htype
  subst htype
  exact Session.request_observation hread

end Frames

/-! ### The log -/

theorem mem_entriesOf {i : Nat} {e : Entry} {log : List (Nat × Entry)} :
    e ∈ entriesOf i log ↔ (i, e) ∈ log := by
  unfold entriesOf
  rw [List.mem_filterMap]
  constructor
  · rintro ⟨⟨j, e'⟩, hmem, hif⟩
    split_ifs at hif with hij
    simp only at hij
    cases hij
    cases hif
    exact hmem
  · exact fun hmem => ⟨(i, e), hmem, if_pos rfl⟩

/-- The last of the first calls of a connection, where it stands in the log. -/
theorem split_entriesOf {i : Nat} {entries : List Entry} {e : Entry} {log : List (Nat × Entry)}
    (h : entries ++ [e] <+: entriesOf i log) :
    ∃ before after, log = before ++ (i, e) :: after ∧ entriesOf i before = entries := by
  induction log using List.reverseRecOn with
  | nil => simp [entriesOf] at h
  | append_singleton log p ih =>
    obtain ⟨j, e'⟩ := p
    rw [entriesOf_append] at h
    by_cases hij : i = j
    · subst hij
      have hlast : entriesOf i [(i, e')] = [e'] := entriesOf_own i [e']
      rw [hlast] at h
      rcases List.prefix_concat_iff.mp h with heq | hfront
      · obtain ⟨hentries, hcons⟩ := List.append_inj' heq rfl
        cases hcons
        exact ⟨log, [], rfl, hentries.symm⟩
      · obtain ⟨before, after, rfl, hbefore⟩ := ih hfront
        exact ⟨before, after ++ [(i, e')], by simp, hbefore⟩
    · have hnone : entriesOf i [(j, e')] = [] := entriesOf_other hij [e']
      rw [hnone, List.append_nil] at h
      obtain ⟨before, after, rfl, hbefore⟩ := ih h
      exact ⟨before, after ++ [(j, e')], by simp, hbefore⟩

section
variable {start : HealthStore} {s : System} {i k : Nat} {env : AuthorityEnvelope}
  {obs : AcceleratorObservation} {verdict : Bool}

/-- A call of the log is one that a frame has asked for, or withdraws a worker. -/
theorem System.Linked.logged (h : s.Linked start) {i : Nat} {e : Entry} (he : (i, e) ∈ s.net.log) :
    (∃ socket, s.net.sockets[i]? = some socket ∧ e.call.op ∈ askedIn socket.inbound.received) ∨
      ∃ worker boot, e.call.op = .invalidateWorker worker boot := by
  have hmem := mem_entriesOf.mpr he
  have hi : i < s.net.sockets.length := by
    by_contra habsent
    rw [h.traced.absent i (Nat.le_of_not_lt habsent)] at hmem
    cases hmem
  have hsocket := List.getElem?_eq_getElem hi
  generalize s.net.sockets[i] = socket at hsocket
  have hserved := h.traced.sockets i socket hsocket
  rw [hserved.entries] at hmem
  have hop := List.mem_map_of_mem (f := fun e : Entry => e.call.op) hmem
  rw [Thread.entries_eq, List.mem_append] at hop
  rcases hop with hop | hop
  · exact Or.inl ⟨socket, hsocket, hserved.served_prefix.subset hop⟩
  · right
    rcases (h.withdraws i socket hsocket).once with hnone | ⟨-, clk, outcome, hone⟩
    · simp [hnone] at hop
    · rw [hone] at hop
      exact ⟨_, _, List.mem_singleton.mp hop⟩

theorem System.Linked.wired (h : s.Linked start) : ∀ p ∈ s.net.log,
    p.2.call.op.serves = true ∨ ∃ worker boot, p.2.call.op = .invalidateWorker worker boot := by
  rintro ⟨i, e⟩ hmem
  rcases h.logged hmem with ⟨socket, -, hasked⟩ | hleft
  · obtain ⟨frame, -, hop⟩ := List.mem_flatMap.mp hasked
    exact Or.inl (request_ops frame _ hop).1
  · exact Or.inr hleft

theorem System.Linked.loads (h : s.Linked start) : ∀ p ∈ s.net.log, p.2.call.op.loads = false := by
  intro p hp
  rcases h.wired p hp with hserves | ⟨worker, boot, hop⟩
  · exact HealthStore.loads_of_serves hserves
  · rw [hop]
    rfl

/-- What a client has been told is the outcome of one call: this report, on the store as the
calls before it have left it. The calls of the connection before it are those of the
requests before it. -/
theorem System.Told.call (h : s.Told i k env obs verdict) (hlinked : s.Linked start) :
    ∃ (socket : Socket) (x : Exchange) (before after : List (Nat × Entry)) (e : Entry)
      (text : String),
      s.net.sockets[i]? = some socket ∧ socket.thread.exchanges[k]? = some x ∧ x.entries = [e] ∧
      s.net.log = before ++ (i, e) :: after ∧
      entriesOf i before = (socket.thread.exchanges.take k).flatMap Exchange.entries ∧
      e.call.op = .acceptObservation obs env ∧
      ((storeAfter start before).exec e.call).result = .ok (.text text) ∧
      verdict = decide (text = "accepted") := by
  obtain ⟨c, request, answer, r, hclient, hrequest, htype, hread, hanswer, rfl⟩ := h
  obtain ⟨socket, hsocket, -, hcorrelated⟩ := hlinked.connection hclient
  obtain ⟨x, hx, hframe, hreply, hfaithful⟩ := hcorrelated.answered k answer hanswer
  obtain rfl : request = x.frame := Option.some.inj (hrequest.symm.trans hframe)
  have hops := request_report htype hread
  -- the report is the only call of its exchange
  obtain ⟨e, hentries, hop⟩ : ∃ e, x.entries = [e] ∧ e.call.op = .acceptObservation obs env := by
    have hcalls := hfaithful.calls
    rw [hops] at hcalls
    simpa [List.map_eq_singleton_iff] using hcalls
  have horder := hfaithful.order
  rw [List.flatMap_append, List.flatMap_singleton, hentries] at horder
  have hlast : (socket.thread.exchanges.take k).flatMap Exchange.entries ++ [e] <+:
      entriesOf i (s.net.log.take x.seen) := by
    rw [horder]
  obtain ⟨before, rest, hsplit, hbefore⟩ := split_entriesOf hlast
  have hlog : s.net.log = before ++ (i, e) :: (rest ++ s.net.log.drop x.seen) := by
    calc
      s.net.log = s.net.log.take x.seen ++ s.net.log.drop x.seen :=
        (List.take_append_drop ..).symm
      _ = before ++ (i, e) :: (rest ++ s.net.log.drop x.seen) := by rw [hsplit]; simp
  have hresult := hlinked.traced.outcomes before i e _ hlog
  have hok := hfaithful.returned e (by rw [hentries]; exact List.mem_singleton_self e)
  obtain ⟨text, htext⟩ : ∃ text, e.outcome = .ok (.text text) := by
    rw [hresult] at hok ⊢
    simp only [HealthStore.exec, hop] at hok ⊢
    cases hreport : ((storeAfter start before).acceptObservation e.call.clk obs env).result with
    | error err =>
      rw [Exit.mapResult, hreport] at hok
      cases hok
    | ok text =>
      exact ⟨text, by rw [Exit.mapResult, hreport]; rfl⟩
  refine ⟨socket, x, before, _, e, text, hsocket, hx, hentries, hlog, hbefore, hop,
    hresult.symm.trans htext, ?_⟩
  have hmade := hfaithful.reply
  rw [hops, hentries, hreply] at hmade
  apply accepted_of_verdict
  simpa [noted, htext, Except.toOption, Reply.noted] using hmade

end

/-- The verdict that a client has been told is the store's on its own call: if it is good the
call has accepted the report, if not the call has left the store as it was. -/
def System.VerdictsTold (start : HealthStore) (s : System) : Prop :=
  ∀ i k env obs verdict, s.Told i k env obs verdict →
    ∃ before e after, s.net.log = before ++ (i, e) :: after ∧
      e.call.op = .acceptObservation obs env ∧
      (verdict = true → (storeAfter start before).Accepts e.call obs env) ∧
      (verdict = false → (storeAfter start before).step e.call = storeAfter start before)

/-- No client is told anything but what has become of its own report. -/
theorem verdicts_told (start : HealthStore) (events : List SystemEvent) :
    (System.after start events).VerdictsTold start := by
  intro i k env obs verdict htold
  obtain ⟨-, -, before, after, e, text, -, -, -, hlog, -, hop, hresult, rfl⟩ :=
    htold.call (System.linked_after start events)
  refine ⟨before, e, after, hlog, hop, fun htrue => ⟨hop, ?_⟩, fun hfalse => ?_⟩
  · rw [hresult, of_decide_eq_true htrue]
  · exact HealthStore.step_of_rejected hop hresult (of_decide_eq_false hfalse)

/-! ### The fence between clients -/

namespace HealthStore
variable {s : HealthStore} {calls : List Call}

/-- The fence never falls. -/
theorem fence_run (hloads : ∀ c ∈ calls, c.op.loads = false) (key : WorkerId ×ₗ WorkerBootId)
    {g : ObservationGeneration} (hg : s.lastObservedGeneration.find? key = some g) :
    ∃ g', (Machine.run step s calls).lastObservedGeneration.find? key = some g' ∧ g ≤ g' := by
  induction calls generalizing s g with
  | nil => exact ⟨g, hg, Nat.le_refl _⟩
  | cons c rest ih =>
    rw [List.forall_mem_cons] at hloads
    obtain ⟨g₁, hg₁, hle₁⟩ := step_fence hloads.1 key g hg
    obtain ⟨g₂, hg₂, hle₂⟩ := ih hloads.2 hg₁
    exact ⟨g₂, hg₂, Nat.le_trans hle₁ hle₂⟩

/-- What is accepted later under the same incarnation has a later generation. -/
theorem Accepts.lt {c c' : Call} {obs obs' : AcceleratorObservation} {env env' : AuthorityEnvelope}
    (h : s.Accepts c obs env) (hloads : ∀ c ∈ calls, c.op.loads = false)
    (h' : (Machine.run step (s.step c) calls).Accepts c' obs' env')
    (hworker : env'.workerId = env.workerId) (hboot : env'.workerBootId = env.workerBootId) :
    env.observationGeneration < env'.observationGeneration := by
  obtain ⟨g, hg, hle⟩ := accepts_fence h
  obtain ⟨g', hg', hle'⟩ := fence_run hloads _ hg
  obtain ⟨d, -, hfence, -⟩ := accepts_cases h'
  have hlt := (Locked.fence_eq_none hfence).2.2.1 g' (by rw [hworker, hboot]; exact hg')
  exact Nat.lt_of_le_of_lt (Nat.le_trans hle hle') hlt

end HealthStore

section
variable {start : HealthStore} {s : System} {i k i' k' : Nat} {env env' : AuthorityEnvelope}
  {obs obs' : AcceleratorObservation}

/-- Of two places in a log the shorter front is a front of the other. -/
theorem split_between {α : Type} {before after before' after' : List α} {p p' : α}
    (h : before ++ p :: after = before' ++ p' :: after') (hlt : before.length < before'.length) :
    ∃ mid, before' = before ++ p :: mid := by
  have hfront : before ++ [p] <+: before' ++ p' :: after' := ⟨after, by rw [← h]; simp⟩
  have hlength : (before ++ [p]).length ≤ before'.length := by
    rw [List.length_append, List.length_singleton]
    omega
  obtain ⟨mid, hmid⟩ := List.prefix_of_prefix_length_le hfront (List.prefix_append _ _) hlength
  exact ⟨mid, by rw [← hmid]; simp⟩

/-- A report that a client takes for accepted has been accepted by the store. -/
theorem System.Told.accepts (h : s.Told i k env obs true) (hlinked : s.Linked start) :
    ∃ (socket : Socket) (x : Exchange) (before after : List (Nat × Entry)) (e : Entry),
      s.net.sockets[i]? = some socket ∧ socket.thread.exchanges[k]? = some x ∧ x.entries = [e] ∧
      s.net.log = before ++ (i, e) :: after ∧
      entriesOf i before = (socket.thread.exchanges.take k).flatMap Exchange.entries ∧
      (storeAfter start before).Accepts e.call obs env := by
  obtain ⟨socket, x, before, after, e, text, hsocket, hx, hentries, hlog, hbefore, hop,
      hresult, htext⟩ :=
    h.call hlinked
  exact ⟨socket, x, before, after, e, hsocket, hx, hentries, hlog, hbefore, hop,
    by rw [hresult, of_decide_eq_true htext.symm]⟩

/-- One after the other in the log. -/
theorem System.Linked.accepted_lt (h : s.Linked start)
    {before before' after after' : List (Nat × Entry)}
    {e e' : Entry} (hlog : s.net.log = before ++ (i, e) :: after)
    (hlog' : s.net.log = before' ++ (i', e') :: after') (hlt : before.length < before'.length)
    (haccepts : (storeAfter start before).Accepts e.call obs env)
    (haccepts' : (storeAfter start before').Accepts e'.call obs' env')
    (hworker : env'.workerId = env.workerId) (hboot : env'.workerBootId = env.workerBootId) :
    env.observationGeneration < env'.observationGeneration := by
  obtain ⟨mid, rfl⟩ := split_between (hlog.symm.trans hlog') hlt
  have hloads : ∀ c ∈ mid.map fun p => p.2.call, c.op.loads = false := by
    intro c hc
    obtain ⟨p, hp, rfl⟩ := List.mem_map.mp hc
    exact h.loads p (by rw [hlog']; simp [hp])
  rw [storeAfter_append] at haccepts'
  exact haccepts.lt hloads haccepts' hworker hboot

/-- The calls of a connection before a later request of the client are more. -/
theorem entries_lt {xs : List Exchange} {x : Exchange} {e : Entry} (hx : xs[k]? = some x)
    (hentries : x.entries = [e]) (hlt : k < k') :
    ((xs.take k).flatMap Exchange.entries).length <
      ((xs.take k').flatMap Exchange.entries).length := by
  have hfront : xs.take k ++ [x] <+: xs.take k' := by
    have hsucc : xs.take (k + 1) = xs.take k ++ [x] := by
      rw [List.take_add_one, hx, Option.toList_some]
    rw [← hsucc]
    exact List.take_prefix_take_left hlt
  obtain ⟨rest, hrest⟩ := hfront
  rw [← hrest, List.flatMap_append, List.flatMap_append, List.flatMap_singleton, hentries]
  simp only [List.length_append, List.length_singleton]
  omega

/-- Of two reports of one client that are taken, the later has the later generation. -/
theorem System.Linked.ascending (hlinked : s.Linked start) (htold : s.Told i k env obs true)
    (htold' : s.Told i k' env' obs' true) (hk : k < k') (hworker : env'.workerId = env.workerId)
    (hboot : env'.workerBootId = env.workerBootId) :
    env.observationGeneration < env'.observationGeneration := by
  obtain ⟨socket, x, before, after, e, hsocket, hx, hentries, hlog, hbefore, haccepts⟩ :=
    htold.accepts hlinked
  obtain ⟨socket', x', before', after', e', hsocket', hx', hentries', hlog', hbefore', haccepts'⟩ :=
    htold'.accepts hlinked
  rw [hsocket] at hsocket'
  cases hsocket'
  have hfewer := entries_lt hx hentries hk
  rw [← hbefore, ← hbefore'] at hfewer
  have hlt : before.length < before'.length := by
    by_contra hge
    -- a front of the log holds at most as many calls of the connection
    have hfront : before <+: s.net.log := ⟨_, hlog.symm⟩
    have hfront' : before' <+: s.net.log := ⟨_, hlog'.symm⟩
    obtain ⟨more, rfl⟩ := List.prefix_of_prefix_length_le hfront' hfront (Nat.le_of_not_lt hge)
    rw [entriesOf_append, List.length_append] at hfewer
    omega
  exact hlinked.accepted_lt hlog hlog' hlt haccepts haccepts' hworker hboot

end

/-- Of the reports under one incarnation of a worker that clients take for accepted, no two
have the same generation, and those of one client have them in ascending order. -/
structure System.AcceptedOnce (s : System) : Prop where
  distinct : ∀ i k env obs i' k' env' obs', s.Told i k env obs true → s.Told i' k' env' obs' true →
    (i, k) ≠ (i', k') → env'.workerId = env.workerId → env'.workerBootId = env.workerBootId →
      env.observationGeneration ≠ env'.observationGeneration
  ascending : ∀ i k k' env obs env' obs', s.Told i k env obs true → s.Told i k' env' obs' true →
    k < k' → env'.workerId = env.workerId → env'.workerBootId = env.workerBootId →
      env.observationGeneration < env'.observationGeneration

/-- Whatever peers do, an incarnation has each generation accepted at most once. -/
theorem accepted_once (start : HealthStore) (events : List SystemEvent) :
    (System.after start events).AcceptedOnce := by
  have hlinked := System.linked_after start events
  generalize System.after start events = s at hlinked
  constructor
  · intro i k env obs i' k' env' obs' htold htold' hne hworker hboot heq
    obtain ⟨socket, x, before, after, e, hsocket, hx, hentries, hlog, hbefore, haccepts⟩ :=
      htold.accepts hlinked
    obtain ⟨socket', x', before', after', e', hsocket', hx', hentries', hlog', hbefore',
        haccepts'⟩ :=
      htold'.accepts hlinked
    rcases Nat.lt_trichotomy before.length before'.length with hlt | hlen | hlt
    · have hless := hlinked.accepted_lt hlog hlog' hlt haccepts haccepts' hworker hboot
      rw [heq] at hless
      exact Nat.lt_irrefl _ hless
    · -- one place in the log is one request of one client
      obtain ⟨rfl, hcons⟩ := List.append_inj (hlog.symm.trans hlog') hlen
      obtain ⟨⟨rfl, -⟩, -⟩ : (i = i' ∧ e = e') ∧ after = after' := by simpa using hcons
      rw [hsocket] at hsocket'
      cases hsocket'
      have hlengths := congrArg List.length (hbefore.symm.trans hbefore')
      rcases Nat.lt_trichotomy k k' with hk | rfl | hk
      · have := entries_lt hx hentries hk
        omega
      · exact hne rfl
      · have := entries_lt hx' hentries' hk
        omega
    · have hless := hlinked.accepted_lt hlog' hlog hlt haccepts' haccepts hworker.symm hboot.symm
      rw [heq] at hless
      exact Nat.lt_irrefl _ hless
  · exact fun i k k' env obs env' obs' htold htold' => hlinked.ascending htold htold'

/-! ### What an accepted report shows -/

namespace HealthStore
variable {s : HealthStore} {calls : List Call}

/-- No device is at generation 0. -/
def Numbered (s : HealthStore) : Prop :=
  ∀ k d, s.devices.find? k = some d → (⟨1⟩ : DeviceGeneration) ≤ d.generation

/-- Devices start at generation 1 and never go back. -/
theorem numbered_step {c : Call} (h : s.Numbered) (hload : c.op.loads = false) :
    (s.step c).Numbered := by
  intro k d' hd'
  rcases step_device hload hd' with ⟨d, hd, rfl | ⟨l, l', rfl, -, htouch, rfl⟩⟩ |
    ⟨uuid, node, -, -, -, rfl⟩
  · exact h k d' hd
  · exact Nat.le_trans (h k _ hd) htouch.continues.generation
  · exact Nat.le_refl _

theorem numbered_run (h : s.Numbered) (hloads : ∀ c ∈ calls, c.op.loads = false) :
    (Machine.run step s calls).Numbered :=
  Machine.run_invariant (C := fun _ c => c.op.loads = false) (fun _ _ => numbered_step) h
    (Machine.along_of_forall fun c hc _ => hloads c hc)

/-- Calls that come over the network leave the epoch alone. -/
theorem epoch_run (hwired : ∀ c ∈ calls, c.op.serves = true ∨
      ∃ worker boot, c.op = .invalidateWorker worker boot) :
    (Machine.run step s calls).coordinatorEpoch = s.coordinatorEpoch := by
  induction calls generalizing s with
  | nil => rfl
  | cons c rest ih =>
    rw [List.forall_mem_cons] at hwired
    rw [Machine.run_cons, ih hwired.2]
    rcases hwired.1 with hserves | ⟨worker, boot, hop⟩
    · rw [step_coordinatorEpoch (loads_of_serves hserves)]
      cases hop : c.op <;> simp [hop, Op.serves] at hserves ⊢
    · have hload : c.op.loads = false := by
        rw [hop]
        rfl
      rw [step_coordinatorEpoch hload, hop]

/-- A registered incarnation was registered at the start or by one of the calls. -/
theorem introduced_run (hloads : ∀ c ∈ calls, c.op.loads = false) {worker : WorkerId}
    {boot : WorkerBootId}
    (h : (Machine.run step s calls).workerBootRegistry.find? worker = some boot) :
    s.workerBootRegistry.find? worker = some boot ∨
      ∃ c ∈ calls, c.op = .registerWorker worker boot := by
  induction calls generalizing s with
  | nil => exact Or.inl h
  | cons c rest ih =>
    rw [List.forall_mem_cons] at hloads
    rcases ih hloads.2 h with hbefore | ⟨c', hc', hop⟩
    · rcases step_registry hloads.1 hbefore with hop | ⟨hkept, -⟩
      · exact Or.inr ⟨c, List.mem_cons_self, hop⟩
      · exact Or.inl hkept
    · exact Or.inr ⟨c', List.mem_cons_of_mem c hc', hop⟩

end HealthStore

/-- Some peer has sent a REGISTER frame of the incarnation. -/
def System.Introduced (s : System) (worker : WorkerId) (boot : WorkerBootId) : Prop :=
  ∃ (j : Nat) (socket : Socket) (frame : Frame), s.net.sockets[j]? = some socket ∧
    frame ∈ (assembleFrames socket.inbound.received).messages ∧
      frame.introduces = some (worker, boot)

/-- What a client may conclude when its report is taken: the envelope has the epoch the
coordinator was started with, its incarnation has been introduced to this coordinator, and it
is not at device generation 0. -/
structure System.Current (start : HealthStore) (s : System) (env : AuthorityEnvelope) : Prop where
  epoch : env.coordinatorEpoch = start.coordinatorEpoch
  introduced : start.workerBootRegistry.find? env.workerId = some env.workerBootId ∨
    s.Introduced env.workerId env.workerBootId
  numbered : start.Numbered → (⟨1⟩ : DeviceGeneration) ≤ env.deviceGeneration

theorem System.Linked.current {start : HealthStore} {s : System} {i k : Nat}
    {env : AuthorityEnvelope}
    {obs : AcceleratorObservation} (h : s.Linked start) (htold : s.Told i k env obs true) :
    s.Current start env := by
  obtain ⟨-, -, before, after, e, -, -, -, hlog, -, haccepts⟩ := htold.accepts h
  obtain ⟨d, hd, hfence, -⟩ := HealthStore.accepts_cases haccepts
  obtain ⟨hepoch, hboot, -, hgeneration⟩ := Locked.fence_eq_none hfence
  have hbefore : ∀ p ∈ before, p ∈ s.net.log := by
    intro p hp
    rw [hlog]
    exact List.mem_append_left _ hp
  have hloads : ∀ c ∈ before.map fun p => p.2.call, c.op.loads = false := by
    intro c hc
    obtain ⟨p, hp, rfl⟩ := List.mem_map.mp hc
    exact h.loads p (hbefore p hp)
  constructor
  · rw [hepoch]
    refine HealthStore.epoch_run fun c hc => ?_
    obtain ⟨p, hp, rfl⟩ := List.mem_map.mp hc
    exact h.wired p (hbefore p hp)
  · refine (HealthStore.introduced_run hloads hboot).imp_right ?_
    rintro ⟨c, hc, hop⟩
    obtain ⟨⟨j, e'⟩, hp, rfl⟩ := List.mem_map.mp hc
    rcases h.logged (hbefore _ hp) with ⟨socket, hsocket, hasked⟩ | ⟨worker, boot, hleft⟩
    · obtain ⟨frame, hframe, hasks⟩ := List.mem_flatMap.mp hasked
      exact ⟨j, socket, frame, hsocket, hframe, (request_ops frame _ hasks).2 _ _ hop⟩
    · rw [hop] at hleft
      cases hleft
  · exact fun hnumbered =>
      Nat.le_trans (HealthStore.numbered_run hnumbered hloads _ d hd) hgeneration

end AcceleratorHealth
