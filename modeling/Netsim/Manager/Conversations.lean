import Netsim.Lib.Selection
import Netsim.Manager.Clients

/-!
# Every request is answered once

Whatever the simulators write, however the bytes are cut on the way and in whatever order the
handlers run: the requests of a simulator are handled in order and each once, and the responses that
it receives are those to its requests, in order (`conversed_after`). This needs that no new
connection comes from an endpoint that is still in `sessions_`.
-/

namespace Netsim

open TcpSession ManagerCodec

/-- A response is the one to a request from an endpoint. -/
structure Answers (cfg : NetSimManagerConfig) (ep : TcpEndpoint) (req : NetSimManagerRequest)
    (resp : NetSimManagerResponse) : Prop where
  requestId : resp.requestId = req.id.getD 0
  status : ∃ pre, NetSimManager.StopsAfter cfg ep req.nav pre resp.status

namespace SimulatorConnection

/-- What the simulator and the manager have heard of each other. -/
structure Conversation (cfg : NetSimManagerConfig) (codec : ManagerCodec)
    (conn : SimulatorConnection) : Prop where
  ep : conn.ep ≠ ManagerClients.noEndpoint
  transmits : ∀ req ∈ conn.written, codec.Transmits req
  requests : conn.requests.Carries codec.encode (conn.written.map codec.requestMessage)
  session : ∀ pbName, conn.requests.reader.callbacks pbName = [()]
  handled : conn.handled = conn.written.take conn.requests.reader.dispatched.length
  simulator : conn.responses.reader.callbacks responseName = [()]
  posted : conn.responses.reader.posted.map (·.2) = conn.responses.reader.dispatched
  responses : ∃ resps, List.Forall₂ (Answers cfg conn.ep) (conn.handled.take resps.length) resps ∧
    conn.responses.Carries codec.encode (resps.map codec.responseMessage) ∧
      (conn.connected → resps.length = conn.handled.length)

section Conversation

variable {cfg : NetSimManagerConfig} {codec : ManagerCodec} {conn : SimulatorConnection}

theorem properName_requestMessage (req : NetSimManagerRequest) :
    ProperName (codec.requestMessage req) := by
  have hname : delimiter ∉ requestName ∧ endOfLine ∉ requestName := by decide +kernel
  exact hname

theorem properName_responseMessage (resp : NetSimManagerResponse) :
    ProperName (codec.responseMessage resp) := by
  have hname : delimiter ∉ responseName ∧ endOfLine ∉ responseName := by decide +kernel
  exact hname

theorem conversation_init {ep : TcpEndpoint} (hep : ep ≠ ManagerClients.noEndpoint) :
    Conversation cfg codec { ep := ep } where
  ep := hep
  transmits := by simp
  requests := ⟨[], [], rfl, rfl, rfl⟩
  session _ := rfl
  handled := rfl
  simulator := by simp [callbacks]
  posted := rfl
  responses := ⟨[], .nil, ⟨[], [], rfl, rfl, rfl⟩, fun _ => rfl⟩

theorem Conversation.request (h : Conversation cfg codec conn) {req : NetSimManagerRequest}
    (hreq : codec.Transmits req) :
    Conversation cfg codec (conn.request codec req) := by
  rw [SimulatorConnection.request]
  split_ifs
  · have hlength : conn.requests.reader.dispatched.length ≤ conn.written.length := by
      simpa using h.requests.dispatched.1.length_le
    refine ⟨h.ep, ?_, ?_, h.session, ?_, h.simulator, h.posted, h.responses⟩
    · exact List.forall_mem_append.2 ⟨h.transmits, by simpa using hreq⟩
    · rw [List.map_append, List.map_singleton]
      exact h.requests.write _
    · exact h.handled.trans (List.take_append_of_le_length hlength).symm
  · exact h

theorem Conversation.arriveAtServer (h : Conversation cfg codec conn) (n : ℕ) :
    Conversation cfg codec { conn with requests := conn.requests.arrive n } where
  ep := h.ep
  transmits := h.transmits
  requests := h.requests.arrive n
  session pbName := (Wire.callbacks_arrive n pbName).trans (h.session pbName)
  handled := by simpa using h.handled
  simulator := h.simulator
  posted := h.posted
  responses := h.responses

theorem Conversation.arriveAtSimulator (h : Conversation cfg codec conn) (n : ℕ) :
    Conversation cfg codec { conn with responses := conn.responses.arrive n } where
  ep := h.ep
  transmits := h.transmits
  requests := h.requests
  session := h.session
  handled := h.handled
  simulator := by simpa using h.simulator
  posted := by simpa using h.posted
  responses := by
    obtain ⟨resps, hanswers, hcarries, hall⟩ := h.responses
    exact ⟨resps, hanswers, hcarries.arrive n, hall⟩

theorem Conversation.lost (h : Conversation cfg codec conn) :
    Conversation cfg codec { conn with connected := false } where
  ep := h.ep
  transmits := h.transmits
  requests := h.requests
  session := h.session
  handled := h.handled
  simulator := h.simulator
  posted := h.posted
  responses := by
    obtain ⟨resps, hanswers, hcarries, -⟩ := h.responses
    exact ⟨resps, hanswers, hcarries, by simp⟩

variable (hcodec : DecodesLines codec.decode codec.encode)
include hcodec

theorem Conversation.handleResponse (h : Conversation cfg codec conn) :
    Conversation cfg codec { conn with responses := conn.responses.handle codec.decode } := by
  by_cases hready : conn.responses.Ready
  · obtain ⟨resps, hanswers, hcarries, hall⟩ := h.responses
    have hnames : ∀ message ∈ resps.map codec.responseMessage, ProperName message := by
      intro message hmem
      obtain ⟨resp, -, rfl⟩ := List.mem_map.1 hmem
      exact properName_responseMessage resp
    obtain ⟨hcarries', message, hmessage, hdispatched, hposted⟩ :=
      hcarries.handle hcodec hnames hready
    refine ⟨h.ep, h.transmits, h.requests, h.session, h.handled, ?_, ?_, resps, hanswers,
      hcarries', hall⟩
    · simpa using h.simulator
    · -- the message is a response, for which there is a callback
      obtain ⟨resp, -, rfl⟩ := List.mem_map.1 (List.mem_of_getElem? hmessage)
      have hcallbacks : conn.responses.reader.callbacks (codec.responseMessage resp).fullName =
          [()] := h.simulator
      simp only [hposted, hdispatched, hcallbacks, List.map_append, List.map_singleton, h.posted]
  · simpa only [Wire.handle_of_not_ready hready] using h

/-- The read handler of the session finds the next request. -/
theorem Conversation.exists_request (h : Conversation cfg codec conn)
    (hready : conn.requests.Ready) : ∃ req ∈ conn.written,
    (conn.requests.handle codec.decode).reader.posted = conn.requests.reader.posted ++
      [((), requestName, codec.serializeRequest req)] ∧
    (conn.requests.handle codec.decode).Carries codec.encode
      (conn.written.map codec.requestMessage) ∧
    conn.handled ++ [req] = conn.written.take
      (conn.requests.handle codec.decode).reader.dispatched.length := by
  have hnames : ∀ message ∈ conn.written.map codec.requestMessage, ProperName message := by
    intro message hmem
    obtain ⟨req, -, rfl⟩ := List.mem_map.1 hmem
    exact properName_requestMessage req
  obtain ⟨hcarries, message, hmessage, hdispatched, hposted⟩ :=
    h.requests.handle hcodec hnames hready
  rw [List.getElem?_map, Option.map_eq_some_iff] at hmessage
  obtain ⟨req, hreq, rfl⟩ := hmessage
  refine ⟨req, List.mem_of_getElem? hreq, ?_, hcarries, ?_⟩
  · rw [hposted, h.session]
    rfl
  · rw [hdispatched, List.length_append, List.length_singleton, List.take_add_one, hreq,
      ← h.handled]
    rfl

omit hcodec in
/-- A request that is handled while the connection is lost is not answered. -/
theorem Conversation.handled_of_lost (h : Conversation cfg codec conn) (hlost : ¬ conn.connected)
    {requests : Wire Unit} {req : NetSimManagerRequest}
    (hsession : ∀ pbName, requests.reader.callbacks pbName = [()])
    (hcarries : requests.Carries codec.encode (conn.written.map codec.requestMessage))
    (hhandled : conn.handled ++ [req] = conn.written.take requests.reader.dispatched.length) :
    Conversation cfg codec
      { conn with requests := requests, handled := conn.handled ++ [req] } where
  ep := h.ep
  transmits := h.transmits
  requests := hcarries
  session := hsession
  handled := hhandled
  simulator := h.simulator
  posted := h.posted
  responses := by
    obtain ⟨resps, hanswers, hcarries', hall⟩ := h.responses
    have hle : resps.length ≤ conn.handled.length := by
      have := hanswers.length_eq
      rw [List.length_take] at this
      omega
    exact ⟨resps, by rwa [List.take_append_of_le_length hle], hcarries',
      fun hconnected => absurd hconnected hlost⟩

omit hcodec in
/-- A request that is handled otherwise is answered. -/
theorem Conversation.respond (h : Conversation cfg codec conn) (hconnected : conn.connected)
    {requests : Wire Unit} {req : NetSimManagerRequest} {resp : NetSimManagerResponse}
    (hsession : ∀ pbName, requests.reader.callbacks pbName = [()])
    (hcarries : requests.Carries codec.encode (conn.written.map codec.requestMessage))
    (hhandled : conn.handled ++ [req] = conn.written.take requests.reader.dispatched.length)
    (hanswer : Answers cfg conn.ep req resp) :
    Conversation cfg codec (SimulatorConnection.respond codec
      { conn with requests := requests, handled := conn.handled ++ [req] } resp) := by
  rw [SimulatorConnection.respond, if_pos hconnected]
  refine ⟨h.ep, h.transmits, hcarries, hsession, hhandled, h.simulator, h.posted, ?_⟩
  obtain ⟨resps, hanswers, hcarries', hall⟩ := h.responses
  have hlength := hall hconnected
  rw [hlength, List.take_length] at hanswers
  refine ⟨resps ++ [resp], ?_, ?_, fun _ => by simp [hlength]⟩
  · rw [List.length_append, List.length_singleton, hlength, List.take_of_length_le (by simp)]
    exact List.rel_append hanswers (.cons hanswer .nil)
  · rw [List.map_append, List.map_singleton]
    exact hcarries'.write _

end Conversation

end SimulatorConnection

namespace ManagerClients

variable {cfg : NetSimManagerConfig} {manager : NetSimManager} {codec : ManagerCodec}
  {s s' : ManagerClients}

/-- The invariant of a run. -/
structure Inv (cfg : NetSimManagerConfig) (codec : ManagerCodec) (s : ManagerClients) : Prop where
  numbered : s.server.Numbered
  next : s.server.next = s.connections.length
  found : s.server.Found
  noEntry : s.server.sessions.lookup noEndpoint = none
  remote : ∀ id session, s.server.live id = some session →
    ∃ conn : SimulatorConnection, s.connections[id]? = some conn ∧ session.remote = conn.ep
  conversation : ∀ (id : ℕ) (conn : SimulatorConnection), s.connections[id]? = some conn →
    conn.Conversation cfg codec

theorem inv_init : Inv cfg codec {} where
  numbered := TcpServer.numbered_after noEndpoint []
  next := rfl
  found id session h := by cases h
  noEntry := by simp
  remote id session h := by cases h
  conversation id conn h := by simp at h

/-- A connection changes. -/
theorem Inv.modify (h : Inv cfg codec s) {id : ℕ} {f : SimulatorConnection → SimulatorConnection}
    (hep : ∀ conn, (f conn).ep = conn.ep)
    (hf : ∀ conn, s.connections[id]? = some conn → (f conn).Conversation cfg codec) :
    Inv cfg codec (s.modify id f) where
  numbered := h.numbered
  next := by simpa [ManagerClients.modify] using h.next
  found := h.found
  noEntry := h.noEntry
  remote id' session hlive := by
    obtain ⟨conn, hconn, hremote⟩ := h.remote id' session hlive
    refine ⟨if id = id' then f conn else conn, ?_, ?_⟩
    · simp only [ManagerClients.modify, List.getElem?_modify, hconn]
      split_ifs <;> rfl
    · split_ifs
      · rw [hep, hremote]
      · exact hremote
  conversation id' conn hconn := by
    simp only [ManagerClients.modify, List.getElem?_modify, Option.map_eq_map,
      Option.map_eq_some_iff] at hconn
    obtain ⟨conn', hconn', rfl⟩ := hconn
    split_ifs with hid
    · exact hf conn' (hid ▸ hconn')
    · exact h.conversation id' conn' hconn'

/-- A write changes none of the endpoints. -/
theorem Inv.serverWrite (h : Inv cfg codec s) (message : Message) (ep : TcpEndpoint) :
    Inv cfg codec { s with server := s.server.write message ep } := by
  have hnumbered := h.numbered.write message ep
  have hfound := h.found.write message ep
  rcases TcpServer.write_cases s.server message ep with
    ⟨-, heq⟩ | ⟨id, session, -, hlive, heq⟩ | ⟨id, -, -, heq⟩
  · rw [heq]
    exact h
  · rw [heq] at hnumbered hfound ⊢
    refine ⟨hnumbered, by simpa using h.next, hfound, by simpa using h.noEntry, ?_, h.conversation⟩
    intro id' session' hlive'
    rw [TcpServer.live_queue] at hlive'
    split_ifs at hlive' with hid
    · rw [hlive, Option.map_some, Option.some_inj] at hlive'
      obtain ⟨conn, hconn, hremote⟩ := h.remote id session hlive
      exact ⟨conn, hid ▸ hconn, hlive' ▸ hremote⟩
    · exact h.remote id' session' hlive'
  · rw [heq] at hnumbered hfound ⊢
    refine ⟨hnumbered, h.next, hfound, ?_, h.remote, h.conversation⟩
    by_cases hep : noEndpoint = ep
    · rw [hep]
      exact AList.lookup_erase _ _
    · exact (AList.lookup_erase_ne hep).trans h.noEntry

theorem Inv.accept (h : Inv cfg codec s) {ep : TcpEndpoint}
    (hfresh : s.Proper codec (.accept (some ep))) :
    Inv cfg codec { server := s.server.accept (some ep)
                    connections := s.connections ++ [{ ep := ep }] } where
  numbered := h.numbered.accept ep
  next := by simp [TcpServer.accept, h.next]
  found := h.found.accept hfresh.2
  noEntry := by
    have hmem : ep ∉ s.server.sessions := AList.lookup_eq_none.1 hfresh.2
    simp only [TcpServer.accept, if_neg hmem]
    rw [AList.lookup_insert_ne (Ne.symm hfresh.1), h.noEntry]
  remote id session hlive := by
    simp only [TcpServer.accept, Function.update_apply] at hlive
    split_ifs at hlive with hid
    · obtain rfl := Option.some_inj.1 hlive
      exact ⟨{ ep := ep }, by rw [hid, h.next]; simp, rfl⟩
    · obtain ⟨conn, hconn, hremote⟩ := h.remote id session hlive
      exact ⟨conn, List.getElem?_append_left (List.getElem?_eq_some_iff.1 hconn).1 ▸ hconn, hremote⟩
  conversation id conn hconn := by
    rcases List.mem_append.1 (List.mem_of_getElem? hconn) with hmem | hmem
    · obtain ⟨id', hid'⟩ := List.mem_iff_getElem?.1 hmem
      exact h.conversation id' conn hid'
    · obtain rfl := List.mem_singleton.1 hmem
      exact SimulatorConnection.conversation_init hfresh.1

theorem modify_modify (id : ℕ) (f g : SimulatorConnection → SimulatorConnection) :
    (s.modify id f).modify id g = s.modify id (g ∘ f) := by
  simp [ManagerClients.modify, List.modify_modify_eq]

/-- A response to the endpoint of a session is written on it. -/
theorem write_modify {resp : NetSimManagerResponse} {ep : TcpEndpoint} {id : ℕ}
    {session : ServerSession TcpEndpoint} (hlookup : s.server.sessions.lookup ep = some id)
    (hlive : s.server.live id = some session) (f : SimulatorConnection → SimulatorConnection) :
    (s.modify id f).write codec resp ep =
      ManagerClients.modify { s with server := s.server.write (codec.responseMessage resp) ep } id
        ((·.respond codec resp) ∘ f) := by
  simp [ManagerClients.write, ManagerClients.modify, hlookup, hlive, List.modify_modify_eq]

theorem write_of_lookup_none {resp : NetSimManagerResponse} {ep : TcpEndpoint}
    (hlookup : s.server.sessions.lookup ep = none) : s.write codec resp ep = s := by
  simp [ManagerClients.write, TcpServer.write, hlookup]

/-- The read handler of a session handles a request, and its response is written on the session. -/
theorem Inv.exists_handleRequest (h : Inv cfg codec s)
    (hmanager : NetSimManager.Configures cfg manager)
    (hcodec : DecodesLines codec.decode codec.encode) (id : ℕ) (now : ℕ → PTime) :
    ∃ s', s.handleRequest manager codec id now = some s' ∧ Inv cfg codec s' := by
  unfold ManagerClients.handleRequest
  cases hlive : s.server.live id with
  | none => exact ⟨s, rfl, h⟩
  | some session =>
      obtain ⟨conn, hconn, hremote⟩ := h.remote id session hlive
      have hconversation := h.conversation id conn hconn
      simp only [hconn]
      by_cases hready : conn.requests.Ready
      · obtain ⟨req, hreq, hposted, hcarries, hhandled⟩ :=
          hconversation.exists_request hcodec hready
        obtain ⟨status, out, pre, hrun, hstop, -, hresponses⟩ :=
          NetSimManager.handled_processRequest hmanager req
            (if conn.connected then session.remote else noEndpoint) now
        simp only [hposted, List.drop_left, List.foldlM_cons, List.foldlM_nil, post, if_true,
          (hconversation.transmits req hreq).1, hrun, Option.map_some, hresponses, List.foldl_cons,
          List.foldl_nil, modify_modify, Option.bind_eq_bind, Option.bind_some, Option.pure_def]
        refine ⟨_, rfl, ?_⟩
        have hsession := fun pbName =>
          (Wire.callbacks_handle pbName :
            (conn.requests.handle codec.decode).reader.callbacks pbName = _).trans
              (hconversation.session pbName)
        by_cases hconnected : conn.connected
        -- the session is the one that is found under its endpoint
        · have hlookup := h.found id session hlive
          rw [if_pos hconnected] at hstop ⊢
          rw [write_modify hlookup hlive]
          refine (h.serverWrite _ _).modify ?_ fun conn' hconn' => ?_
          · intro conn'
            simp only [Function.comp_apply, SimulatorConnection.respond]
            split_ifs <;> rfl
          · obtain rfl := Option.some_inj.1 (hconn.symm.trans hconn')
            rw [hremote] at hstop
            exact hconversation.respond hconnected hsession hcarries hhandled
              ⟨rfl, pre, hstop⟩
        · rw [if_neg hconnected, write_of_lookup_none (s := s.modify _ _) h.noEntry]
          refine h.modify (fun _ => rfl) fun conn' hconn' => ?_
          obtain rfl := Option.some_inj.1 (hconn.symm.trans hconn')
          exact hconversation.handled_of_lost hconnected hsession hcarries hhandled
      · simp only [Wire.handle_of_not_ready hready, List.drop_length, List.foldlM_nil]
        refine ⟨_, rfl, h.modify (fun _ => rfl) fun conn' hconn' => ?_⟩
        obtain rfl := Option.some_inj.1 (hconn.symm.trans hconn')
        exact hconversation

/-- The end of a session leaves the others. -/
theorem Inv.disconnect (h : Inv cfg codec s) (id : ℕ) :
    Inv cfg codec { s with server := s.server.step noEndpoint (.disconnect id) } where
  numbered := (h.numbered.disconnect id : (s.server.step noEndpoint (.disconnect id)).Numbered)
  next := h.next
  found := (h.found.disconnect id : (s.server.step noEndpoint (.disconnect id)).Found)
  noEntry := h.noEntry
  remote id' session hlive := by
    simp only [TcpServer.step, Function.update_apply] at hlive
    split_ifs at hlive
    exact h.remote id' session hlive
  conversation := h.conversation

/-- The invariant is kept by every event. -/
theorem Inv.exists_step (h : Inv cfg codec s) (hmanager : NetSimManager.Configures cfg manager)
    (hcodec : DecodesLines codec.decode codec.encode) {e : SimulatorEvent}
    (hproper : s.Proper codec e) : ∃ s', s.step manager codec e = some s' ∧ Inv cfg codec s' := by
  cases e with
  | accept remote =>
      refine ⟨_, rfl, ?_⟩
      rw [TcpServer.step]
      split_ifs
      · cases remote with
        | none =>
            simpa using { h with numbered := ⟨h.numbered.sessions, h.numbered.live⟩ }
        | some ep => exact h.accept hproper
      · simpa using h
  | request id req =>
      refine ⟨_, rfl, h.modify (fun conn => ?_) fun conn hconn => ?_⟩
      · rw [SimulatorConnection.request]
        split_ifs <;> rfl
      · exact (h.conversation id conn hconn).request hproper
  | arriveAtServer id n =>
      refine ⟨_, rfl, ?_⟩
      split_ifs
      · refine h.modify (fun conn => ?_) fun conn hconn => ?_
        · split_ifs <;> rfl
        · split_ifs
          · exact (h.conversation id conn hconn).arriveAtServer n
          · exact h.conversation id conn hconn
      · exact h
  | handleRequest id now => exact h.exists_handleRequest hmanager hcodec id now
  | arriveAtSimulator id n =>
      refine ⟨_, rfl, h.modify (fun conn => ?_) fun conn hconn => ?_⟩
      · split_ifs <;> rfl
      · split_ifs
        · exact (h.conversation id conn hconn).arriveAtSimulator n
        · exact h.conversation id conn hconn
  | handleResponse id =>
      exact ⟨_, rfl, h.modify (fun _ => rfl) fun conn hconn =>
        (h.conversation id conn hconn).handleResponse hcodec⟩
  | lost id =>
      exact ⟨_, rfl, h.modify (fun _ => rfl) fun conn hconn => (h.conversation id conn hconn).lost⟩
  | disconnect id => exact ⟨_, rfl, h.disconnect id⟩

/-- What a connection has come to: the requests were handled in order and each once, the responses
received are those to them, and nothing is missing once nothing is on its way. -/
structure Answered (cfg : NetSimManagerConfig) (codec : ManagerCodec)
    (conn : SimulatorConnection) : Prop where
  handled : conn.handled <+: conn.written
  received : ∃ resps, List.Forall₂ (Answers cfg conn.ep) (conn.handled.take resps.length) resps ∧
    conn.received codec <+: resps ∧ (conn.connected → conn.requests.Settled →
      conn.responses.Settled → conn.received codec = resps ∧ conn.handled = conn.written ∧
        resps.length = conn.written.length)

theorem answered_of_conversation {conn : SimulatorConnection}
    (h : conn.Conversation cfg codec) : Answered cfg codec conn where
  handled := h.handled ▸ List.take_prefix _ _
  received := by
    obtain ⟨resps, hanswers, hcarries, hall⟩ := h.responses
    -- what the simulator parses are the responses
    have hreceived : conn.received codec =
        conn.responses.reader.dispatched.map fun m => codec.parseResponse m.2 := by
      rw [SimulatorConnection.received, ← h.posted, List.map_map]
      rfl
    have hparse : ∀ resp ∈ resps, codec.parseResponse (codec.serializeResponse resp) = resp := by
      intro resp hresp
      obtain ⟨req, hreq, hanswer⟩ := Selection.exists_left_of_mem hanswers hresp
      have hhandled := List.mem_of_mem_take hreq
      rw [h.handled] at hhandled
      simpa [← hanswer.requestId] using
        (h.transmits req (List.mem_of_mem_take hhandled)).2 resp.status
    have hparsed : ((resps.map codec.responseMessage).map Wire.fields).map
        (fun m => codec.parseResponse m.2) = resps := by
      rw [List.map_map, List.map_map]
      exact List.map_congr_left hparse |>.trans (List.map_id resps)
    obtain ⟨hbegins, hsettled⟩ := hcarries.dispatched
    refine ⟨resps, hanswers, ?_, fun hconnected hrequests hresponses => ?_⟩
    · rw [hreceived, ← hparsed]
      exact hbegins.map _
    · have hhandled : conn.handled = conn.written := by
        have hdispatched := congrArg List.length (h.requests.dispatched.2 hrequests)
        rw [List.length_map, List.length_map] at hdispatched
        rw [h.handled, hdispatched, List.take_length]
      refine ⟨?_, hhandled, by rw [hall hconnected, hhandled]⟩
      rw [hreceived, hsettled hresponses, hparsed]

variable (cfg manager codec)

/-- In every run in which new connections come from endpoints without an entry in `sessions_`,
nothing throws, the requests of every simulator are handled in order and each once, and what it
receives are the responses to its requests, in order and each once: all of them if it is still
connected and nothing is on its way. -/
theorem conversed_after (hcfg : NetSimManager.processConfiguration cfg = some manager)
    (hcodec : DecodesLines codec.decode codec.encode) (es : List SimulatorEvent)
    (hproper : Run.ExecAlways (step manager codec) {} (Proper codec) es) :
    ∃ s, after manager codec es = some s ∧ ∀ conn ∈ s.connections, Answered cfg codec conn := by
  have hmanager := NetSimManager.configures_of_processConfiguration hcfg
  obtain ⟨s, hs, hinv⟩ := Run.exec_induction (step manager codec) {} (P := fun _ => True)
    (I := fun _ s => Inv cfg codec s) (fun _ _ _ => trivial) inv_init
    (fun _ _ _ _ h hguard => h.exists_step hmanager hcodec hguard) es trivial hproper
  refine ⟨s, hs, fun conn hconn => ?_⟩
  obtain ⟨id, hid⟩ := List.mem_iff_getElem?.1 hconn
  exact answered_of_conversation (hinv.conversation id conn hid)

deriving instance DecidableEq for NetSimManagerRequest

instance (req : NetSimManagerRequest) : Decidable (codec.Transmits req) :=
  decidable_of_iff (codec.parseRequest (codec.serializeRequest req) = req ∧
      ∀ status ∈ [UpdateStatus.UPDATE_ACCEPTED, .UPDATE_FAILED_INVALID_MODEM_TCP_PORT,
        .UPDATE_FAILED_INVALID_SOURCE_ADDRESS, .UPDATE_FAILED_OUT_OF_DEFINED_REGION],
        codec.parseResponse (codec.serializeResponse ⟨req.id.getD 0, status⟩) =
          ⟨req.id.getD 0, status⟩)
    (and_congr_right fun _ =>
      ⟨fun h status => h status (by cases status <;> simp), fun h status _ => h status⟩)

instance (s : ManagerClients) : DecidablePred (s.Proper codec)
  | .accept (some ep) => inferInstanceAs
      (Decidable (ep ≠ noEndpoint ∧ s.server.sessions.lookup ep = none))
  | .request _ req => inferInstanceAs (Decidable (codec.Transmits req))
  | .accept none | .arriveAtServer .. | .handleRequest .. | .arriveAtSimulator ..
  | .handleResponse _ | .lost _ | .disconnect _ => inferInstanceAs (Decidable True)

/-- The wire format of requests and responses whose fields are varints of one byte. -/
def oneByteCodec : ManagerCodec where
  encode := Base64.encode
  decode := Base64.decode
  serializeRequest req := [8, UInt8.ofNat (req.id.getD 0).toInt.toNat]
  parseRequest
    | [8, id] => { id := some (Int32.ofNat id.toNat), nav := [] }
    | _ => { id := none, nav := [] }
  serializeResponse resp := [8, UInt8.ofNat resp.requestId.toInt.toNat, 16,
    match resp.status with
    | .UPDATE_ACCEPTED => 1
    | .UPDATE_FAILED_INVALID_MODEM_TCP_PORT => 2
    | .UPDATE_FAILED_INVALID_SOURCE_ADDRESS => 3
    | .UPDATE_FAILED_OUT_OF_DEFINED_REGION => 4]
  parseResponse
    | [8, id, 16, 2] => ⟨Int32.ofNat id.toNat, .UPDATE_FAILED_INVALID_MODEM_TCP_PORT⟩
    | [8, id, 16, 3] => ⟨Int32.ofNat id.toNat, .UPDATE_FAILED_INVALID_SOURCE_ADDRESS⟩
    | [8, id, 16, 4] => ⟨Int32.ofNat id.toNat, .UPDATE_FAILED_OUT_OF_DEFINED_REGION⟩
    | [8, id, 16, _] => ⟨Int32.ofNat id.toNat, .UPDATE_ACCEPTED⟩
    | _ => ⟨0, .UPDATE_ACCEPTED⟩

/-- Two simulators write three requests without updates, whose bytes arrive in pieces. -/
def twoSimulators : List SimulatorEvent :=
  let now : ℕ → PTime := fun _ => ⟨12, 0, 0, 0, 1, 1, 2021⟩
  [.accept (some ⟨"127.0.0.1", 50000⟩), .accept (some ⟨"127.0.0.1", 50001⟩),
    .request 0 { id := some 7, nav := [] }, .request 1 { id := some 8, nav := [] },
    .request 0 { id := some 9, nav := [] }, .arriveAtServer 0 20, .arriveAtServer 1 500,
    .handleRequest 1 now, .arriveAtServer 0 500, .handleRequest 0 now, .arriveAtSimulator 0 500,
    .handleRequest 0 now, .handleResponse 0, .arriveAtSimulator 1 500, .handleResponse 1,
    .arriveAtSimulator 0 500, .handleResponse 0]

/-- Each of the two receives the responses to its own requests. -/
theorem answered_twoSimulators :
    let cfg : NetSimManagerConfig := { simEnvPair := [], envBounds := [] }
    ∃ manager s, NetSimManager.processConfiguration cfg = some manager ∧
      after manager oneByteCodec twoSimulators = some s ∧
        (∀ conn ∈ s.connections, Answered cfg oneByteCodec conn) ∧
          s.connections.map (·.received oneByteCodec) =
            [[⟨7, .UPDATE_ACCEPTED⟩, ⟨9, .UPDATE_ACCEPTED⟩], [⟨8, .UPDATE_ACCEPTED⟩]] := by
  intro cfg
  let manager : NetSimManager := ⟨∅, ∅⟩
  have hproper : Run.checkAlways (step manager oneByteCodec) (Proper oneByteCodec) {}
      twoSimulators = true := by
    decide +kernel
  obtain ⟨s, hs, hanswered⟩ := conversed_after cfg manager oneByteCodec rfl
    Base64.decode_filter_encode twoSimulators (Run.execAlways_of_check _ _ hproper)
  have hrun : (after manager oneByteCodec twoSimulators).map
      (fun s => s.connections.map (·.received oneByteCodec)) =
        some [[⟨7, .UPDATE_ACCEPTED⟩, ⟨9, .UPDATE_ACCEPTED⟩], [⟨8, .UPDATE_ACCEPTED⟩]] := by
    decide +kernel
  rw [hs, Option.map_some, Option.some_inj] at hrun
  exact ⟨manager, s, rfl, hs, hanswered, hrun⟩

end ManagerClients

end Netsim
