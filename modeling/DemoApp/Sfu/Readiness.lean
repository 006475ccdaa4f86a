import DemoApp.Sfu.Delivery

/-!
# Sfu — Readiness

Whether a client can consume: it needs its receiving transport and its capabilities.

* `capable_of_run`: a client has the capabilities that it has sent, as long as it is in the room.
-/

namespace DemoApp.Sfu.Room
open Machine

section Capable

variable {s s' : Room} {e : Event} {r c : ClientRef}

theorem capable_modify {f : Client → Client}
    (hf : ∀ x : Client, x.rtpCapabilities.isSome = true → (f x).rtpCapabilities.isSome = true)
    (h : (s.client c).rtpCapabilities.isSome = true) :
    ((s.modify r f).client c).rtpCapabilities.isSome = true := by
  rw [client_modify]
  split
  · next e => exact hf _ (e ▸ h)
  · exact h

theorem client_runLoop (s : Room) (h : HandlerRef) (r : ClientRef) (loop : Loop) :
    (s.runLoop h r loop).client = s.client := by
  obtain ⟨x, out, e⟩ := runLoop_frame s h r loop
  rw [e]

theorem client_consumeFrom (s : Room) (h : HandlerRef) (r : ClientRef) (loop : Loop)
    (call : ConsumeCall) : (s.consumeFrom h r loop call).client = s.client := by
  obtain ⟨a, e⟩ := consumeFrom_frame s h r loop call
  rw [e]
  rfl

/-- The capabilities of a client stay. -/
theorem capable_turn (ht : Turn s e s') (hc : c < s.added)
    (h : (s.client c).rtpCapabilities.isSome = true) :
    (s'.client c).rtpCapabilities.isSome = true := by
  have closed : ∀ {T : TransportId → Prop} {s₁ s₂ : Room}, Closes T s₁ s₂ →
      (s₁.client c).rtpCapabilities.isSome = true →
        (s₂.client c).rtpCapabilities.isSome = true := fun hcl h => by
    rw [hcl.rtpCapabilities]
    exact h
  cases ht with
  | @add ctx =>
      have e : (s.add ctx).client c = s.client c := by simp [add, Nat.ne_of_lt hc]
      rw [e]
      exact h
  | @socketClosed r =>
      by_cases he : (s.client r).eventsClosed = true
      · rw [socketClosed_of_closed he]
        exact capable_modify (fun _ => id) h
      · obtain ⟨s₂, hcl, -, -, e⟩ := socketClosed_spec (by simpa using he)
        have hq : ((s.quit r).client c).rtpCapabilities.isSome = true :=
          capable_modify (f := fun c => { c with socketClosed := true, eventsClosed := true })
            (fun _ => id) h
        rw [e]
        split
        · exact closed (closes_of_close s₂) (closed hcl hq)
        · exact closed hcl hq
  | capabilities => exact capable_modify (fun _ _ => rfl) h
  | joinCallRequest =>
      rw [joinCallRequest, client_runLoop]
      exact h
  | spawn | ignored | answered | consumeFailed | ended | elapsed => exact h
  | @transportCreated g info q _ role o hs =>
      obtain ⟨out, -, e⟩ := transportCreated_eq s g q _ role info
      rw [e]
      show (((s.grown [⟨q, role, false⟩] [] []).modify q fun c =>
        c.setTransport role s.router.transports.length).client c).rtpCapabilities.isSome = true
      exact capable_modify (fun x => by cases role <;> exact id) h
  | @produced g q _ t kind rtp hs =>
      obtain ⟨out, -, e⟩ := produced_eq s g q _ t kind
      rw [e, client_runLoop]
      show (((s.grown [] [⟨q, t, kind, false⟩] []).modify q fun c =>
        { c with producers := c.producers.set s.router.producers.length kind }).client
          c).rtpCapabilities.isSome = true
      exact capable_modify (f := fun c =>
        { c with producers := c.producers.set s.router.producers.length kind }) (fun _ => id) h
  | @consumed g rtp q loop call o hs =>
      rw [consumed_eq, client_consumeFrom]
      show (((s.grown [] [] [⟨call.consuming, o.transport, o.producerId, false⟩]).modify
        call.consuming fun c =>
          { c with consumers := c.consumers.set s.router.consumers.length o.producerId }).client
            c).rtpCapabilities.isSome = true
      exact capable_modify (f := fun c =>
        { c with consumers := c.consumers.set s.router.consumers.length o.producerId })
          (fun _ => id) h
  | resumed =>
      rw [client_runLoop]
      exact h
  | consumerClosed => exact closed (closes_of_closeConsumer _ _) h
  | routerClosed => exact closed (closes_of_closeRouter s) h
  | close => exact closed (closes_of_close s) h

/-- The client has sent its capabilities. -/
def ToldCapabilities (r : ClientRef) (es : List Event) : Prop :=
  ∃ caps, .message r (.clientRtpCapabilities caps) ∈ es

/-- **A client that told its capabilities has them**, unless it has left. -/
theorem capable_of_run {config : RoomConfig} {id : CallId} {caps : RtpCapabilities}
    {es : List Event} (hx : exec step (.new config (createRouter id caps)) es = some s)
    (ht : ToldCapabilities r es) : r < s.added ∧
      ((s.client r).eventsClosed = false → (s.client r).rtpCapabilities.isSome = true) := by
  refine exec_history (I := fun es s => ToldCapabilities r es → r < s.added ∧
    ((s.client r).eventsClosed = false → (s.client r).rtpCapabilities.isSome = true))
    (fun ⟨_, hm⟩ => (by cases hm)) (fun es s e s' _ ih he ⟨caps, hm⟩ => ?_) hx ht
  have hcore := core_step he
  have hadded := Core.added_step hcore
  rcases List.mem_append.mp hm with hm | hm
  · obtain ⟨hr, hcap⟩ := ih ⟨caps, hm⟩
    refine ⟨Nat.lt_of_lt_of_le hr hadded, fun ho => capable_turn (step_turn he) hr (hcap ?_)⟩
    by_contra hopen
    have hclosed : (s.client r).eventsClosed = true := by simpa using hopen
    exact Bool.false_ne_true (ho.symm.trans (Core.eventsClosed_step hcore hr hclosed))
  · obtain rfl := (List.mem_singleton.mp hm).symm
    obtain ⟨hr, rfl⟩ := message_step he
    refine ⟨Nat.lt_of_lt_of_le hr hadded, fun ho => ?_⟩
    by_cases hclosed : (s.client r).eventsClosed = true
    · rw [receive, if_pos hclosed] at ho
      exact absurd (ho.symm.trans hclosed) Bool.false_ne_true
    · simp [receive, hclosed, client_modify]

end Capable

end DemoApp.Sfu.Room
