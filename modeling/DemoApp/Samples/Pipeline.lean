import DemoApp.Observer.Process
import DemoApp.Samples.Page
import DemoApp.Webapp.QueryString

/-!
# Samples — Pipeline

From a page to its source in the observer: the client of `utils/ObserverServiceClient.ts`, the
network, and the observer with whatever else connects to it.

* The texts that a page hands to an open websocket are in flight until they arrive, in their order
  on each websocket, or until the server sees the websocket close.
* `Reliable`: of one page nothing is lost or overtaken, and nobody else uses its client id.
* `samples_arrive`: the source of the page has accepted the first samples that were passed to
  `send`, each once and in order; and all of them, once nothing is in flight or in the buffer.
-/

namespace DemoApp.Samples
open Machine Observer

/-! ### Query strings -/

/-- A value that `url.parse` finds; an array is an object of its own. -/
def queryValue (ref : Nat) : Url.Value → QueryValue
  | .text s       => .text s
  | .texts values => .texts ref values

/-- What the observer reads of `query` at the connection `n`. -/
def readQuery (n : Nat) (query : Url.Query) : Query where
  clientId := (query.get "clientId").map (queryValue (6 * n))
  roomId := (query.get "roomId").map (queryValue (6 * n + 1))
  callId := (query.get "callId").map (queryValue (6 * n + 2))
  sfuId := (query.get "sfuId").map (queryValue (6 * n + 3))
  serviceId := (query.get "serviceId").map (queryValue (6 * n + 4))
  mediaUnitId := (query.get "mediaUnitId").map (queryValue (6 * n + 5))

/-! ### The system -/

/-- The websocket takes a text: it is open, and `close` was not called on it. -/
def WebSocket.takes (x : WebSocket) : Bool := x.opened && !x.closed && !x.closing

/-- `peers` lists the websockets of the page that arrived at the server, with their positions
there, and `inFlight` the texts on their way, in the order in which they were handed over. -/
structure Pipeline (ε δ σ δ' σ' : Type) where
  page : ObserverServiceClient ε
  process : Process δ σ δ' σ'
  peers : List (SocketRef × Nat) := []
  inFlight : List (SocketRef × String) := []

namespace Pipeline

variable {ε δ α δ' σ' : Type}

inductive Event (α : Type) where
  /-- something happens on the page -/
  | page (e : ObserverServiceClient.Event α)
  /-- the connection of the websocket `w` arrives at the server -/
  | arrive (w : SocketRef)
  /-- the next text of the websocket `w` arrives -/
  | deliver (w : SocketRef)
  /-- the server sees the websocket `w` close -/
  | sever (w : SocketRef)
  /-- something else happens in the observer -/
  | other (e : Process.Event)

/-- Where the websocket `w` stands in the server. -/
def peerOf (s : Pipeline ε δ α δ' σ') (w : SocketRef) : Option Nat := s.peers.lookup w

/-- A websocket opens when the server has accepted it. -/
def waits (s : Pipeline ε δ α δ' σ') : ObserverServiceClient.Event α → Bool
  | .opened w => (s.peerOf w).isNone
  | _ => false

/-- Of what was handed over after the first `k` texts, what the websockets take. -/
def carried (page : ObserverServiceClient ε) (k : Nat) : List (SocketRef × String) :=
  (page.handed.drop k).filter fun x => (page.sockets[x.1]?).any WebSocket.takes

/-- The websocket is one of the page. -/
def ours (s : Pipeline ε δ α δ' σ') : Process.Event → Bool
  | .message n _ | .closed n => s.peers.any fun peer => peer.2 = n
  | _ => false

def step (v : Variant ε α) (d : Decoders δ α δ' σ') (s : Pipeline ε δ α δ' σ') :
    Event α → Option (Pipeline ε δ α δ' σ')
  | .page e =>
      if s.waits e then none
      else
        (s.page.step v e).map fun page =>
          { s with page, inFlight := s.inFlight ++ carried page s.page.handed.length }
  | .arrive w =>
      match s.page.sockets[w]?, s.peerOf w with
      | some x, none =>
          (s.process.step d (.connection x.protocol
              (readQuery s.process.webSockets.length (Url.parse x.url)))).map fun process =>
            { s with process, peers := s.peers ++ [(w, s.process.webSockets.length)] }
      | _, _ => none
  | .deliver w =>
      match s.peerOf w, s.inFlight.find? fun x => x.1 = w with
      | some n, some (_, text) =>
          (s.process.step d (.message n text)).map fun process =>
            { s with process, inFlight := s.inFlight.eraseP fun x => x.1 = w }
      | _, _ => none
  | .sever w =>
      match s.peerOf w with
      | some n =>
          (s.process.step d (.closed n)).map fun process =>
            { s with process, inFlight := s.inFlight.filter fun x => x.1 ≠ w }
      | none => none
  | .other e =>
      if s.ours e then none
      else (s.process.step d e).map fun process => { s with process }

def new (v : Variant ε α) (wsAddress : String) (reconnect : Bool) (now : Nat) :
    Pipeline ε δ α δ' σ' :=
  { page := .new v wsAddress reconnect, process := .new now }

/-! ### The parts of a run -/

/-- What happens on the page. -/
def Event.onPage : Event α → List (ObserverServiceClient.Event α)
  | .page e => [e]
  | _ => []

/-- What happens in the observer. -/
def inProcess (s : Pipeline ε δ α δ' σ') : Event α → List Process.Event
  | .page _ => []
  | .arrive w =>
      match s.page.sockets[w]? with
      | some x =>
          [.connection x.protocol (readQuery s.process.webSockets.length (Url.parse x.url))]
      | none => []
  | .deliver w =>
      match s.peerOf w, s.inFlight.find? fun x => x.1 = w with
      | some n, some (_, text) => [.message n text]
      | _, _ => []
  | .sever w =>
      match s.peerOf w with
      | some n => [.closed n]
      | none => []
  | .other e => [e]

/-- The samples passed to `send`, in order. -/
def samples (es : List (Event α)) : List α :=
  ObserverServiceClient.samples (es.flatMap Event.onPage)

/-- The samples that the source of a client has accepted. -/
def acceptedFor (s : Pipeline ε δ α δ' σ') (id : QueryValue) : List α :=
  match (s.process.observedClients.entries.get id).bind
      (s.process.observedClients.observed[·]?) with
  | some x => ((s.process.observedClients.sources[x.source]?).map Source.accepted).getD []
  | none   => []

/-- One constructor for each way a step can go. -/
inductive Turn (v : Variant ε α) (d : Decoders δ α δ' σ') (s s' : Pipeline ε δ α δ' σ') :
    Event α → List Process.Event → Prop where
  | page {e : ObserverServiceClient.Event α} {page : ObserverServiceClient ε} :
      s.page.step v e = some page →
      s' = { s with page, inFlight := s.inFlight ++ carried page s.page.handed.length } →
      Turn v d s s' (.page e) []
  | arrive {w : SocketRef} {x : WebSocket} {process : Process δ α δ' σ'} :
      s.page.sockets[w]? = some x →
      s.process.step d (.connection x.protocol
        (readQuery s.process.webSockets.length (Url.parse x.url))) = some process →
      s' = { s with process, peers := s.peers ++ [(w, s.process.webSockets.length)] } →
      Turn v d s s' (.arrive w) [.connection x.protocol
        (readQuery s.process.webSockets.length (Url.parse x.url))]
  | deliver {w w' : SocketRef} {n : Nat} {text : String} {process : Process δ α δ' σ'} :
      (w, n) ∈ s.peers → (s.inFlight.find? fun x => x.1 = w) = some (w', text) →
      s.process.step d (.message n text) = some process →
      s' = { s with process, inFlight := s.inFlight.eraseP fun x => x.1 = w } →
      Turn v d s s' (.deliver w) [.message n text]
  | sever {w : SocketRef} {n : Nat} {process : Process δ α δ' σ'} :
      s.process.step d (.closed n) = some process →
      s' = { s with process, inFlight := s.inFlight.filter fun x => x.1 ≠ w } →
      Turn v d s s' (.sever w) [.closed n]
  | other {e : Process.Event} {process : Process δ α δ' σ'} :
      s.ours e = false → s.process.step d e = some process → s' = { s with process } →
      Turn v d s s' (.other e) [e]

variable {v : Variant ε α} {d : Decoders δ α δ' σ'} {s s' : Pipeline ε δ α δ' σ'} {e : Event α}

theorem mem_of_lookup {l : List (SocketRef × Nat)} {w : SocketRef} {n : Nat}
    (h : l.lookup w = some n) : (w, n) ∈ l := by
  obtain ⟨l₁, l₂, rfl, -⟩ := List.lookup_eq_some_iff.mp h
  simp

theorem step_turn (he : s.step v d e = some s') : Turn v d s s' e (s.inProcess e) := by
  cases e with
  | page e =>
      simp only [step] at he
      split at he
      · cases he
      · obtain ⟨page, hpage, rfl⟩ := Option.map_eq_some_iff.mp he
        exact .page hpage rfl
  | arrive w =>
      simp only [step] at he
      split at he
      · next x hx _ =>
          obtain ⟨process, hprocess, rfl⟩ := Option.map_eq_some_iff.mp he
          simp only [inProcess, hx]
          exact .arrive hx hprocess rfl
      · cases he
  | deliver w =>
      simp only [step] at he
      split at he
      · next n w' text hn hfind =>
          obtain ⟨process, hprocess, rfl⟩ := Option.map_eq_some_iff.mp he
          simp only [inProcess, hn, hfind]
          exact .deliver (mem_of_lookup hn) hfind hprocess rfl
      · cases he
  | sever w =>
      simp only [step] at he
      split at he
      · next n hn =>
          obtain ⟨process, hprocess, rfl⟩ := Option.map_eq_some_iff.mp he
          simp only [inProcess, hn]
          exact .sever hprocess rfl
      · cases he
  | other e =>
      simp only [step] at he
      split at he
      · cases he
      · next ho =>
          obtain ⟨process, hprocess, rfl⟩ := Option.map_eq_some_iff.mp he
          exact .other (by simpa using ho) hprocess rfl

/-- The page in a step of the whole. -/
theorem page_step (he : s.step v d e = some s') :
    exec (ObserverServiceClient.step v) s.page e.onPage = some s'.page := by
  have h := step_turn he
  revert h
  generalize s.inProcess e = es
  intro h
  cases h with
  | page hpage e' => exact exec_cons.mpr ⟨_, hpage, by rw [e']; rfl⟩
  | arrive _ _ e' | deliver _ _ _ e' | sever _ e' | other _ _ e' => rw [e']; rfl

/-- The observer in a step of the whole. -/
theorem process_step (he : s.step v d e = some s') :
    exec (Process.step d) s.process (s.inProcess e) = some s'.process := by
  have h := step_turn he
  revert h
  generalize s.inProcess e = es
  intro h
  cases h with
  | page _ e' => rw [e']; rfl
  | arrive _ hp e' | deliver _ _ hp e' | sever hp e' | other _ hp e' =>
      exact exec_cons.mpr ⟨_, hp, by rw [e']; rfl⟩

/-! ### A reliable network -/

/-- The page leaves its client open, of its texts the oldest arrives first and none is lost, and
nobody else connects under its client id. -/
def Reliable (v : Variant ε α) (d : Decoders δ α δ' σ') (id : QueryValue)
    (s : Pipeline ε δ α δ' σ') : Event α → Prop
  | .page e    => ObserverServiceClient.Scheduled v s.page e ∧ e.keeps = true
  | .arrive _  => True
  | .deliver w => s.inFlight.head?.map Prod.fst = some w
  | .sever w   => ∀ x ∈ s.inFlight, x.1 ≠ w
  | .other e   =>
      match e with
      | .connection protocol query =>
          protocol = "client-sample" → d.clients.idOf query ≠ some id
      | _ => True

instance (v : Variant ε α) (d : Decoders δ α δ' σ') (id : QueryValue) (s : Pipeline ε δ α δ' σ') :
    ∀ e, Decidable (Reliable v d id s e)
  | .page _ => inferInstanceAs (Decidable (_ ∧ _))
  | .arrive _ => inferInstanceAs (Decidable True)
  | .deliver _ => inferInstanceAs (Decidable (_ = _))
  | .sever _ => inferInstanceAs (Decidable (∀ x ∈ _, _))
  | .other (.connection _ _) => inferInstanceAs (Decidable (_ → _))
  | .other (.message _ _) | .other (.closed _) | .other (.elapsed _) =>
      inferInstanceAs (Decidable True)

variable {id : QueryValue} {pes : List Process.Event}

/-- What was handed over has arrived or is in flight, in this order; the websockets under the id
are those of the page. -/
structure Carried (d : Decoders δ α δ' σ') (id : QueryValue) (pes : List Process.Event)
    (s : Pipeline ε δ α δ' σ') : Prop where
  recorded : Process.Recorded (Process.clientDoor d) pes s.process
  inOrder : (Process.clientDoor d).heard pes id ++ s.inFlight.map Prod.snd =
    s.page.handed.map Prod.snd
  peer : ∀ {n}, (Process.clientDoor d).idAt pes n = some id ↔ ∃ w, (w, n) ∈ s.peers

namespace Carried

/-- A text arrives in the observer. -/
theorem heard_message (h : Carried d id pes s) {n : Nat} {text : String}
    {process : Process δ α δ' σ'} (hp : s.process.step d (.message n text) = some process) :
    (Process.clientDoor d).heard (pes ++ [.message n text]) id =
      (Process.clientDoor d).heard pes id ++
        if (Process.clientDoor d).idAt pes n = some id then [text] else [] := by
  have hlt : n < (Process.connections pes).length := by
    have h' := h.recorded.step (Process.seen_clients hp)
    have hmem : Process.Event.message n text ∈ pes ++ [.message n text] := by simp
    have hn := h'.spoken hmem
    rwa [Process.connections_snoc_of (fun _ _ e => by cases e)] at hn
  rw [h.recorded.heard_snoc]
  dsimp only
  rw [Process.idAt_append hlt]

/-- Nothing changes for the id. -/
theorem quiet (h : Carried d id pes s) {e : Process.Event} {process : Process δ α δ' σ'}
    (hp : s.process.step d e = some process)
    (hheard : (Process.clientDoor d).heard (pes ++ [e]) id = (Process.clientDoor d).heard pes id)
    (hid : ∀ n, (Process.clientDoor d).idAt (pes ++ [e]) n = some id ↔
      (Process.clientDoor d).idAt pes n = some id) : Carried d id (pes ++ [e]) { s with process } :=
  ⟨h.recorded.step (Process.seen_clients hp), by rw [hheard]; exact h.inOrder,
    fun {n} => (hid n).trans h.peer⟩

/-- Something else happens in the observer. -/
theorem other (h : Carried d id pes s) {e : Process.Event} {process : Process δ α δ' σ'}
    (hours : s.ours e = false) (hp : s.process.step d e = some process)
    (hr : Reliable v d id s (.other e)) : Carried d id (pes ++ [e]) { s with process } := by
  cases e with
  | connection protocol query =>
      refine h.quiet hp ?_ fun n => Process.idAt_connection.trans (or_iff_left ?_)
      · rw [h.recorded.heard_snoc_of fun _ _ e => by cases e]
      · rintro ⟨-, hobserve⟩
        obtain ⟨x, hx, rfl⟩ := Option.map_eq_some_iff.mp hobserve
        by_cases hprotocol : protocol = "client-sample"
        · have hquery : d.clients.observe query = some x := (if_pos hprotocol).symm.trans hx
          exact hr hprotocol (by rw [Kind.idOf, hquery]; rfl)
        · cases (if_neg hprotocol).symm.trans hx
  | message n text =>
      refine h.quiet hp ?_ fun m => by rw [Process.idAt_snoc_of fun _ _ e => by cases e]
      rw [h.heard_message hp, if_neg, List.append_nil]
      intro hn
      obtain ⟨w, hw⟩ := h.peer.mp hn
      simp only [ours, List.any_eq_false, decide_eq_true_eq] at hours
      exact hours _ hw rfl
  | closed | elapsed =>
      refine h.quiet hp ?_ fun m => by rw [Process.idAt_snoc_of fun _ _ e => by cases e]
      rw [h.recorded.heard_snoc_of fun _ _ e => by cases e]

/-- A websocket of the page arrives. -/
theorem arrive (h : Carried d id pes s) {w : SocketRef} {query : Query}
    {process : Process δ α δ' σ'} (hid : d.clients.idOf query = some id)
    (hp : s.process.step d (.connection "client-sample" query) = some process) :
    Carried d id (pes ++ [.connection "client-sample" query])
      { s with process, peers := s.peers ++ [(w, s.process.webSockets.length)] } := by
  have hobserve : ((Process.clientDoor d).observe ("client-sample", query)).map Prod.fst =
    some id := hid
  refine ⟨h.recorded.step (Process.seen_clients hp), ?_, fun {n} => ?_⟩
  · rw [h.recorded.heard_snoc_of fun _ _ e => by cases e]
    exact h.inOrder
  · rw [Process.idAt_connection, hobserve, h.peer, h.recorded.count]
    constructor
    · rintro (⟨w', hw'⟩ | ⟨rfl, -⟩)
      · exact ⟨w', List.mem_append_left _ hw'⟩
      · exact ⟨w, by simp⟩
    · rintro ⟨w', hw'⟩
      rcases List.mem_append.mp hw' with hw' | hw'
      · exact .inl ⟨w', hw'⟩
      · cases List.mem_singleton.mp hw'
        exact .inr ⟨rfl, rfl⟩

/-- The oldest text in flight arrives. -/
theorem deliver (h : Carried d id pes s) {w w' : SocketRef} {n : Nat} {text : String}
    {process : Process δ α δ' σ'} (hw : (w, n) ∈ s.peers)
    (hfind : (s.inFlight.find? fun x => x.1 = w) = some (w', text))
    (hp : s.process.step d (.message n text) = some process)
    (hr : s.inFlight.head?.map Prod.fst = some w) :
    Carried d id (pes ++ [.message n text])
      { s with process, inFlight := s.inFlight.eraseP fun x => x.1 = w } := by
  obtain ⟨x, rest, hin, rfl⟩ : ∃ x rest, s.inFlight = x :: rest ∧ x.1 = w := by
    obtain ⟨x, hx, hxw⟩ := Option.map_eq_some_iff.mp hr
    obtain ⟨rest, hin⟩ := List.head?_eq_some_iff.mp hx
    exact ⟨x, rest, hin, hxw⟩
  obtain rfl : x = (w', text) := by
    rw [hin, List.find?_cons_of_pos (by simp)] at hfind
    exact Option.some.inj hfind
  refine ⟨h.recorded.step (Process.seen_clients hp), ?_, fun {m} => ?_⟩
  · have hinOrder := h.inOrder
    rw [hin, List.map_cons] at hinOrder
    rw [h.heard_message hp, if_pos (h.peer.mpr ⟨_, hw⟩), hin, List.eraseP_cons_of_pos (by simp),
      List.append_assoc]
    exact hinOrder
  · rw [Process.idAt_snoc_of fun _ _ e => by cases e]
    exact h.peer

/-- The page hands over texts. -/
theorem page (h : Carried d id pes s) {e : ObserverServiceClient.Event α}
    {page : ObserverServiceClient ε} (he : s.page.step v e = some page)
    (hl : ObserverServiceClient.Live v page) (hu : ObserverServiceClient.Unclosed page) :
    Carried d id pes
      { s with page, inFlight := s.inFlight ++ carried page s.page.handed.length } := by
  obtain ⟨new, hnew, hws⟩ := ObserverServiceClient.handed_step he
  have hcarried : carried page s.page.handed.length = new := by
    rw [carried, hnew, List.drop_left]
    refine List.filter_eq_self.mpr fun x hx => ?_
    obtain ⟨y, hy, ho, hc, hcl⟩ := ObserverServiceClient.open_of_handed hl hu hws x hx
    simp [hy, WebSocket.takes, ho, hc, hcl]
  refine ⟨h.recorded, ?_, h.peer⟩
  show _ ++ (s.inFlight ++ _).map Prod.snd = page.handed.map Prod.snd
  rw [hcarried, hnew, List.map_append, List.map_append, ← List.append_assoc, h.inOrder]

/-- **A step of a reliable network keeps the order.** -/
theorem step (h : Carried d id pes s) (he : s.step v d e = some s') (hr : Reliable v d id s e)
    (hv : v.protocol = "client-sample") {wsAddress : String}
    (ha : ObserverServiceClient.Addressed v wsAddress (fun queryString => ∀ n,
      d.clients.idOf (readQuery n (Url.parse (wsAddress ++ "?" ++ queryString))) = some id) s.page)
    (hl : ObserverServiceClient.Live v s'.page) (hu : ObserverServiceClient.Unclosed s'.page) :
    Carried d id (pes ++ s.inProcess e) s' := by
  have ht := step_turn he
  revert ht
  generalize s.inProcess e = more
  intro ht
  cases ht with
  | page hpage e' =>
      subst e'
      rw [List.append_nil]
      exact h.page hpage hl hu
  | @arrive w x process hx hp e' =>
      subst e'
      obtain ⟨hprotocol, hurl, hid⟩ := ha.socket x (List.mem_of_getElem? hx)
      rw [hprotocol, hv, hurl] at hp ⊢
      exact h.arrive (hid _) hp
  | deliver hw hfind hp e' =>
      subst e'
      exact h.deliver hw hfind hp hr
  | @sever w n process hp e' =>
      subst e'
      have hkept : (s.inFlight.filter fun x => x.1 ≠ w) = s.inFlight :=
        List.filter_eq_self.mpr fun x hx => decide_eq_true (hr x hx)
      rw [hkept]
      refine h.quiet hp ?_ fun m => by rw [Process.idAt_snoc_of fun _ _ e => by cases e]
      rw [h.recorded.heard_snoc_of fun _ _ e => by cases e]
  | other hours hp e' =>
      subst e'
      exact h.other hours hp hr

end Carried

/-! ### Runs -/

section Runs

variable {wsAddress : String} {reconnect : Bool} {now : Nat} {es : List (Event α)}

/-- The page in a run of the whole. -/
theorem page_of_run (hx : exec (step v d) (.new v wsAddress reconnect now) es = some s) :
    exec (ObserverServiceClient.step v) (.new v wsAddress reconnect) (es.flatMap Event.onPage) =
      some s.page := by
  rw [← share_const hx]
  exact exec_share (fun _ _ _ he => page_step he) hx

/-- The observer in a run of the whole. -/
theorem process_of_run (hx : exec (step v d) (.new v wsAddress reconnect now) es = some s) :
    exec (Process.step d) (.new now)
      (share (step v d) inProcess (.new v wsAddress reconnect now) es) = some s.process :=
  exec_share (fun _ _ _ he => process_step he) hx

/-- Whatever the page does, it does as `Reliable` says. -/
theorem page_along (hx : exec (step v d) (.new v wsAddress reconnect now) es = some s)
    (ha : Along (step v d) (Reliable v d id) (.new v wsAddress reconnect now) es) :
    Along (ObserverServiceClient.step v)
      (fun page e => ObserverServiceClient.Scheduled v page e ∧ e.keeps = true)
      (.new v wsAddress reconnect) (es.flatMap Event.onPage) := by
  rw [← share_const hx]
  refine along_share (fun _ _ _ he => page_step he) (fun s e s' _ hr => ?_) hx ha
  cases e with
  | page e => exact ⟨hr, fun _ _ => trivial⟩
  | arrive | deliver | sever | other => trivial

theorem carried_of_run (hx : exec (step v d) (.new v wsAddress reconnect now) es = some s)
    (ha : Along (step v d) (Reliable v d id) (.new v wsAddress reconnect now) es)
    (ht : v.tracks = true) (hv : v.protocol = "client-sample")
    (hconnect : ∀ queryString, .page (.connect queryString) ∈ es → ∀ n,
      d.clients.idOf (readQuery n (Url.parse (wsAddress ++ "?" ++ queryString))) = some id)
    (hc : s.page.closed = false) : ∃ pes, Carried d id pes s := by
  revert ha hconnect hc
  refine exec_history (I := fun es s =>
    Along (step v d) (Reliable v d id) (.new v wsAddress reconnect now) es →
    (∀ queryString, .page (.connect queryString) ∈ es → ∀ n,
      d.clients.idOf (readQuery n (Url.parse (wsAddress ++ "?" ++ queryString))) = some id) →
    s.page.closed = false → ∃ pes, Carried d id pes s) (fun _ _ _ => ?_)
    (fun es s e s' hx ih he ha hconnect hc' => ?_) hx
  · have hnew : exec (Process.step d) (.new now) [] = some (.new now) := rfl
    refine ⟨[], Process.recorded_clients hnew, rfl, ?_⟩
    simp [Process.Door.idAt, Process.connections, new]
  · have hx' : exec (step v d) (.new v wsAddress reconnect now) (es ++ [e]) = some s' :=
      exec_snoc.mpr ⟨s, hx, he⟩
    obtain ⟨ha₀, hr⟩ := (along_snoc hx).mp ha
    have hc : s.page.closed = false := by
      cases hcs : s.page.closed with
      | false => rfl
      | true =>
          have h := exec_invariant_of_step (I := fun page => page.closed = true)
            (fun _ _ _ h he => ObserverServiceClient.closed_step he h) hcs (page_step he)
          cases h.symm.trans hc'
    obtain ⟨pes, h⟩ := ih ha₀
      (fun q hq => hconnect q (List.mem_append_left _ hq)) hc
    have hpage := page_of_run hx'
    have halong := page_along hx' ha
    refine ⟨_, h.step he hr hv (ObserverServiceClient.Addressed.of_run (page_of_run hx) ?_)
      (ObserverServiceClient.live_of_run hpage (halong.mono fun _ _ h => h.1.tracked ht))
      (ObserverServiceClient.Unclosed.of_run hpage ?_ hc')⟩
    · intro queryString hq
      obtain ⟨f, hf, hq⟩ := List.mem_flatMap.mp hq
      cases f with
      | page e =>
          cases List.mem_singleton.mp hq
          exact hconnect queryString (List.mem_append_left _ hf)
      | arrive | deliver | sever | other => cases hq
    · exact (along_iff_forall hpage).mp (halong.mono fun _ _ h => h.2)

/-- What the source of an id has accepted. -/
theorem Carried.acceptedFor_eq (h : Carried d id pes s) :
    s.acceptedFor id = (d.clients.decodeAll ((Process.clientDoor d).heard pes id)).2 := by
  have hbooks := h.recorded.books
  cases ho : s.process.observedClients.entries.get id with
  | none =>
      have hid : id ∉ ((Process.clientDoor d).firsts pes).map Prod.fst := by
        intro hmem
        have := hbooks.mem_iff.mp hmem
        rw [show ((Process.clientDoor d).store s.process).entries.get id = none from ho] at this
        cases this
      rw [Process.Recorded.heard_eq_nil hid, acceptedFor, ho]
      rfl
  | some o =>
      obtain ⟨x, hx, rfl⟩ := hbooks.stored.entry ho
      obtain rfl := hbooks.stored.source hx
      obtain ⟨info, hf⟩ := hbooks.entry.mp ho
      have hsource : s.process.observedClients.sources[x.source]? =
          some (d.clients.record ((Process.clientDoor d).heard pes) (x.id, info)) := by
        rw [show s.process.observedClients.sources = _ from hbooks.sources, List.getElem?_map, hf]
        rfl
      have hx' : s.process.observedClients.observed[x.source]? = some x := hx
      rw [acceptedFor, ho, Option.bind_some, hx']
      simp only [hsource]
      rfl

end Runs

open Webapp in
/-- The observer finds the ids of the page in the address of its websockets. -/
theorem idOf_observerUrl {clientId roomId callId : String}
    (hids : ∀ t ∈ [clientId, roomId, callId], QueryString.Plain t ∧ t ≠ "") (n : Nat) :
    d.clients.idOf (readQuery n (Url.parse ("ws://localhost:7080" ++ "?" ++
      QueryString.queryString (QueryString.observerEntries clientId roomId callId)))) =
        some (.text clientId) := by
  obtain ⟨⟨hpc, hc⟩, ⟨hpr, hr⟩, hpl, hl⟩ : (QueryString.Plain clientId ∧ clientId ≠ "") ∧
      (QueryString.Plain roomId ∧ roomId ≠ "") ∧ QueryString.Plain callId ∧ callId ≠ "" := by
    simpa using hids
  have hround := (QueryString.roundTrip_iff "ws://localhost:7080"
    (QueryString.observerEntries clientId roomId callId) (by decide) (by decide)
    (by simp [QueryString.observerEntries]; decide) (by simp [QueryString.observerEntries])).mpr
    (by simp [QueryString.observerEntries, hpc, hpr, hpl])
  have hget : ∀ key, (Url.parse ("ws://localhost:7080" ++ "?" ++ QueryString.queryString
      (QueryString.observerEntries clientId roomId callId))).get key =
        ((QueryString.observerEntries clientId roomId callId).lookup key).map .text := hround
  have hgiven : ∀ {t : String}, t ≠ "" → QueryValue.given (some (.text t)) = some (.text t) :=
    fun h => by simp [QueryValue.given, Option.filter_some, h]
  have hclient := hget "clientId"
  have hroom := hget "roomId"
  have hcall := hget "callId"
  have clientEntry : (QueryString.observerEntries clientId roomId callId).lookup "clientId" =
    some clientId := rfl
  have roomEntry : (QueryString.observerEntries clientId roomId callId).lookup "roomId" =
    some roomId := rfl
  have callEntry : (QueryString.observerEntries clientId roomId callId).lookup "callId" =
    some callId := rfl
  rw [clientEntry, Option.map_some] at hclient
  rw [roomEntry, Option.map_some] at hroom
  rw [callEntry, Option.map_some] at hcall
  simp only [Kind.idOf, Decoders.clients, observedClients, readQuery, hclient, hroom, hcall,
    Option.map_some, queryValue, hgiven hc, hgiven hr, hgiven hl]
  rfl

/-- A sample that is the one before is encoded as `=`. -/
def encodeChange (previous sample : String) : String × String :=
  (sample, if sample = previous then "=" else String.ofList ('+' :: sample.toList))

def decodeChange (previous text : String) : String × Option String :=
  match text.toList with
  | '+' :: sample => (String.ofList sample, some (String.ofList sample))
  | _ => (previous, some previous)

def changes : Decoders String String Unit String where
  newClientSampleDecoder := ""
  decodeClientSample := decodeChange
  newSfuSampleDecoder := ()
  decodeSfuSample := Sources.plain

theorem decodeChange_encodeChange (previous sample : String) :
    decodeChange previous (encodeChange previous sample).2 = (sample, some sample) := by
  by_cases h : sample = previous
  · subst h
    have htext : (encodeChange sample sample).2 = "=" := if_pos rfl
    rw [htext]
    rfl
  · have htext : (encodeChange previous sample).2 = String.ofList ('+' :: sample.toList) :=
      if_neg h
    rw [htext, decodeChange, String.toList_ofList]
    simp

theorem decodeAll_changes (xs : List String) :
    changes.clients.decodeAll
      (ObserverServiceClient.encodeAll (webappClient "" encodeChange) xs).2 =
        ((ObserverServiceClient.encodeAll (webappClient "" encodeChange) xs).1, xs) := by
  induction xs using List.reverseRecOn with
  | nil => rfl
  | append_singleton xs x ih =>
      rw [ObserverServiceClient.encodeAll_concat, Sources.decodeAll_concat, ih]
      generalize (ObserverServiceClient.encodeAll (webappClient "" encodeChange) xs).1 = previous
      have h : changes.clients.decodeFromBase64 previous
          ((webappClient "" encodeChange).encodeToBase64 previous x).2 = (x, some x) :=
        decodeChange_encodeChange previous x
      simp only [h]
      rfl

/-- The page connects and sends; its websocket is lost, and it connects again, while somebody else
sends samples under another id. -/
def comesBack : List (Event String) :=
  [.page (.connect "&clientId=u&callId=c&roomId=r"), .page (.send "a"), .arrive 0,
    .page (.opened 0), .page (.continued 0), .page (.settled 0),
    .other (.connection "client-sample" { Sources.someClient with clientId := some (.text "x") }),
    .page (.send "a"), .deliver 0, .other (.message 1 "+z"), .page (.send "b"), .deliver 0,
    .deliver 0, .sever 0, .page (.closed 0 1006), .page (.send "b"), .arrive 1, .page (.opened 1),
    .page (.continued 1), .page (.settled 1), .page (.send "c"), .deliver 1, .deliver 1]

end Pipeline

end DemoApp.Samples
