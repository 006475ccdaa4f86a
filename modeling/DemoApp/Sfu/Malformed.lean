import DemoApp.Sfu.Wire

/-!
# Sfu — Malformed

Frames that are no message of the protocol.  `_receive` catches what `JSON.parse` throws and drops a
message without a type, but it destructures `null`, and takes a `type` of any kind for the name of a
listener.

* `harmless_iff`: in every reachable state, a frame is harmless if and only if it is not `null`, its
  `type` is not `close` while the `close` listener is there, and a `type` that is an array or an
  object can be written as a string and is then no listener's name.  Of a run of such frames, those
  that carry no message can be left out.
* `frame_throws`: `null` ends the process.
-/

namespace DemoApp.Sfu

theorem MessageType.ofName_name (type : MessageType) : ofName type.name = some type := by
  cases type <;> rfl

theorem MessageType.name_of_ofName {name : String} {type : MessageType}
    (h : ofName name = some type) : type.name = name :=
  eq_of_beq (List.find?_some (p := fun type : MessageType => type.name == name) h)

/-- No number is the name of a message. -/
theorem MessageType.ofName_number (n : NumberText) : ofName n.text = none := by
  cases h : ofName n.text with
  | none => rfl
  | some type =>
      have hstart := n.start
      rw [← name_of_ofName h] at hstart
      cases type <;> exact absurd hstart (by decide)

namespace Wire
open Machine ClientEvents

/-- A frame of `r` can arrive. -/
def Open (w : Wire) (r : ClientRef) : Prop :=
  w.crashed = false ∧ r < w.room.added ∧ (w.room.client r).socketClosed = false

/-- The frame is an object that carries the type of a message which `r` has a listener for. -/
def carries (w : Wire) (r : ClientRef) : Option Json → Bool
  | some (.obj message) =>
      match Json.field message "type" with
      | some (.str name) => (MessageType.ofName name).isSome && w.listens r name
      | _ => false
  | _ => false

/-- `_receive` returns; and where the frame carries no message, it is dropped, the state stays, and
whatever follows happens as if the frame had not arrived. -/
structure Harmless (reader : Reader) (w : Wire) (r : ClientRef) (frame : Option Json) : Prop where
  returns : ClientEvents.receive (w.listens r) frame ≠ .throws
  dropped : w.carries r frame = false → ClientEvents.receive (w.listens r) frame = .dropped
  same : w.carries r frame = false → w.receive reader r frame = w
  later : w.carries r frame = false →
    ∀ es, exec (step reader) w (.frame r frame :: es) = exec (step reader) w es

/-- The frame is not `null`.  If its type is a string, it is not that of the `close` listener; if it
is an array, it is not written as the name of a listener; if it is an object, it has no property
`toString` of its own. -/
def tame (w : Wire) (r : ClientRef) : Option Json → Bool
  | some .null => false
  | some (.obj message) =>
      match Json.field message "type" with
      | some (.str name)   => !(name == "close" && w.listens r name)
      | some (.arr items)  => (Json.toText (.arr items)).any fun text => !w.listens r text
      | some (.obj fields) => !fields.any fun x => x.1 == "toString"
      | _ => true
  | _ => true

/-- The step is no frame, or a tame one. -/
def tameStep (w : Wire) : Event → Bool
  | .frame r frame => w.tame r frame
  | _ => true

/-- What can be left out of a run: frames that carry no message. -/
def matters (w : Wire) : Event → Bool
  | .frame r frame => w.carries r frame
  | _ => true

variable {reader : Reader} {w w' : Wire} {r : ClientRef}

/-- Only messages and `close` have listeners. -/
theorem listens_cases {name : String} (h : w.listens r name = true) :
    (MessageType.ofName name).isSome = true ∨ name = "close" := by
  rw [listens] at h
  split at h
  · cases h
  · rcases Bool.or_eq_true_iff.mp h with hm | hc
    · exact .inl hm
    · exact .inr (eq_of_beq (Bool.and_eq_true_iff.mp hc).1)

theorem not_listens {name : String} (hm : MessageType.ofName name = none) (hc : name ≠ "close") :
    w.listens r name = false := by
  refine Bool.eq_false_iff.mpr fun h => ?_
  rcases listens_cases h with h | h
  · rw [hm] at h
    cases h
  · exact hc h

/-- A name that starts like a number has no listener. -/
theorem not_listens_number (n : NumberText) : w.listens r n.text = false := by
  refine not_listens (MessageType.ofName_number n) fun hc => ?_
  have hstart := n.start
  rw [hc] at hstart
  exact absurd hstart (by decide)

/-! ### Objects -/

section Objects
variable {message : List (String × Json)} {type : Json}

theorem receive_obj_falsy (h : Json.truthy (Json.field message "type") = false) :
    ClientEvents.receive (w.listens r) (some (.obj message)) = .dropped := by
  simp [ClientEvents.receive, h]

theorem receive_obj_unreadable (ht : Json.field message "type" = some type)
    (htruthy : Json.truthy (some type) = true) (hn : type.toText = none) :
    ClientEvents.receive (w.listens r) (some (.obj message)) = .throws := by
  simp [ClientEvents.receive, ht, htruthy, hn]

theorem receive_obj_text {name : String} (ht : Json.field message "type" = some type)
    (htruthy : Json.truthy (some type) = true) (hn : type.toText = some name) :
    ClientEvents.receive (w.listens r) (some (.obj message)) =
      if w.listens r name then .emitted name message else .dropped := by
  simp [ClientEvents.receive, ht, htruthy, hn]

/-- A type that is not a string is not that of a message. -/
theorem carries_obj_other (ht : Json.field message "type" = some type)
    (hs : ∀ name, type ≠ .str name) : w.carries r (some (.obj message)) = false := by
  cases type with
  | str name => exact absurd rfl (hs name)
  | null | bool | num | arr | obj => simp [carries, ht]

theorem carries_obj_str {name : String} (ht : Json.field message "type" = some (.str name)) :
    w.carries r (some (.obj message)) =
      ((MessageType.ofName name).isSome && w.listens r name) := by
  simp [carries, ht]

/-- An object carries a message if its type is the name of one that is listened for. -/
theorem carries_iff {frame : Option Json} :
    w.carries r frame = true ↔ ∃ message type, frame = some (.obj message) ∧
      Json.field message "type" = some (.str (MessageType.name type)) ∧
      w.listens r type.name = true := by
  constructor
  · intro h
    unfold carries at h
    split at h
    · next message =>
        split at h
        · next name ht =>
            obtain ⟨hm, hl⟩ := Bool.and_eq_true_iff.mp h
            obtain ⟨type, htype⟩ := Option.isSome_iff_exists.mp hm
            obtain rfl := MessageType.name_of_ofName htype
            exact ⟨message, type, rfl, ht, hl⟩
        · cases h
    · cases h
  · rintro ⟨message, type, rfl, ht, hl⟩
    rw [carries_obj_str ht, MessageType.ofName_name, hl]
    rfl

/-- An object whose type is readable is dropped exactly when there is no listener for it. -/
theorem dropped_iff {name : String} (ht : Json.field message "type" = some type)
    (htruthy : Json.truthy (some type) = true) (hn : type.toText = some name) :
    ClientEvents.receive (w.listens r) (some (.obj message)) = .dropped ↔
      w.listens r name = false := by
  rw [receive_obj_text ht htruthy hn]
  cases w.listens r name <;> simp

/-- Whether or not it counts as a type. -/
theorem dropped_of_unheard {name : String} (ht : Json.field message "type" = some type)
    (hn : type.toText = some name) (hl : w.listens r name = false) :
    ClientEvents.receive (w.listens r) (some (.obj message)) = .dropped := by
  cases htruthy : Json.truthy (some type) with
  | true => exact (dropped_iff ht htruthy hn).mpr hl
  | false => exact receive_obj_falsy (by rw [ht, htruthy])

end Objects

/-! ### The condition -/

/-- What of a frame's harmlessness is about `_receive`. -/
def Handled (w : Wire) (r : ClientRef) (frame : Option Json) : Prop :=
  ClientEvents.receive (w.listens r) frame ≠ .throws ∧
    (w.carries r frame = false → ClientEvents.receive (w.listens r) frame = .dropped)

/-- Dropped frames are handled. -/
theorem handled_of_dropped {frame : Option Json}
    (h : ClientEvents.receive (w.listens r) frame = .dropped) : w.Handled r frame :=
  ⟨by simp [h], fun _ => h⟩

/-- A type that is a string. -/
theorem handled_str_iff {message : List (String × Json)} {name : String}
    (ht : Json.field message "type" = some (.str name)) :
    w.Handled r (some (.obj message)) ↔ ¬(name = "close" ∧ w.listens r name = true) := by
  by_cases hempty : name = ""
  · subst hempty
    refine iff_of_true (handled_of_dropped (receive_obj_falsy ?_)) fun h => absurd h.1 (by decide)
    simp [ht, Json.truthy]
  · have htruthy : Json.truthy (some (.str name)) = true := by simpa [Json.truthy] using hempty
    have htext : Json.toText (.str name) = some name := by simp [Json.toText]
    cases hl : w.listens r name with
    | false =>
        exact iff_of_true (handled_of_dropped ((dropped_iff ht htruthy htext).mpr hl))
          fun h => by cases h.2
    | true =>
        have hrec : ClientEvents.receive (w.listens r) (some (.obj message)) =
            .emitted name message := by rw [receive_obj_text ht htruthy htext, if_pos hl]
        have hcarries : w.carries r (some (.obj message)) =
            (MessageType.ofName name).isSome := by rw [carries_obj_str ht, hl, Bool.and_true]
        rw [Handled, hrec, hcarries]
        constructor
        · rintro ⟨-, h⟩ ⟨rfl, -⟩
          cases h rfl
        · intro h
          refine ⟨by simp, fun hm => ?_⟩
          have hclose : name = "close" := (listens_cases hl).resolve_left (by simp [hm])
          exact absurd ⟨hclose, rfl⟩ h

/-- A type of any other kind that is not dropped for want of a type. -/
theorem handled_other_iff {message : List (String × Json)} {type : Json}
    (ht : Json.field message "type" = some type) (htruthy : Json.truthy (some type) = true)
    (hs : ∀ name, type ≠ .str name) :
    w.Handled r (some (.obj message)) ↔
      (type.toText.any fun name => !w.listens r name) = true := by
  have hcarries := carries_obj_other (w := w) (r := r) ht hs
  cases hn : type.toText with
  | none =>
      refine iff_of_false (fun h => h.1 (receive_obj_unreadable ht htruthy hn)) ?_
      simp
  | some name =>
      have hdrop : w.Handled r (some (.obj message)) ↔ w.listens r name = false :=
        ⟨fun h => (dropped_iff ht htruthy hn).mp (h.2 hcarries),
          fun h => handled_of_dropped ((dropped_iff ht htruthy hn).mpr h)⟩
      simpa using hdrop

/-- **What `_receive` can handle.** -/
theorem handled_iff (w : Wire) (r : ClientRef) (frame : Option Json) :
    w.Handled r frame ↔ w.tame r frame = true := by
  cases frame with
  | none => exact iff_of_true (handled_of_dropped rfl) rfl
  | some value =>
      cases value with
      | null => exact iff_of_false (fun h => h.1 rfl) fun h => by cases h
      | bool | num | str | arr => exact iff_of_true (handled_of_dropped rfl) rfl
      | obj message =>
          cases ht : Json.field message "type" with
          | none =>
              refine iff_of_true (handled_of_dropped (receive_obj_falsy ?_)) (by simp [tame, ht])
              rw [ht]
              rfl
          | some type =>
              -- only a string, an array or an object is ever written as a name that matters
              cases type with
              | str name => exact (handled_str_iff ht).trans (by simp [tame, ht, imp_iff_not_or])
              | arr items =>
                  simpa only [tame, ht] using handled_other_iff ht rfl fun name e => by cases e
              | obj fields =>
                  rw [handled_other_iff ht rfl fun name e => by cases e]
                  have hl : w.listens r "[object Object]" = false :=
                    not_listens (by decide) (by decide)
                  cases hf : fields.any fun x => x.1 == "toString" <;>
                    simp [tame, ht, Json.toText, hf, hl]
              | null =>
                  have htext : Json.toText .null = some "null" := by simp [Json.toText]
                  exact iff_of_true (handled_of_dropped (dropped_of_unheard ht htext
                    (not_listens (by decide) (by decide)))) (by simp [tame, ht])
              | bool b =>
                  have htext : Json.toText (.bool b) = some (if b then "true" else "false") := by
                    simp [Json.toText]
                  refine iff_of_true (handled_of_dropped (dropped_of_unheard ht htext ?_))
                    (by simp [tame, ht])
                  cases b <;> exact not_listens (by decide) (by decide)
              | num n =>
                  have htext : Json.toText (.num n) = some n.text := by simp [Json.toText]
                  exact iff_of_true (handled_of_dropped (dropped_of_unheard ht htext
                    (not_listens_number n))) (by simp [tame, ht])

/-! ### Steps and runs -/

/-- What is dropped leaves no trace. -/
theorem receive_dropped (reader : Reader) {frame : Option Json}
    (h : ClientEvents.receive (w.listens r) frame = .dropped) : w.receive reader r frame = w := by
  simp [receive, h]

theorem step_frame (reader : Reader) (ho : w.Open r) (frame : Option Json) :
    w.step reader (.frame r frame) = some (w.receive reader r frame) := by
  obtain ⟨hcrashed, hr, hsocket⟩ := ho
  simp [step, hcrashed, hr, hsocket]

theorem harmless_iff_handled (reader : Reader) (ho : w.Open r) (frame : Option Json) :
    w.Harmless reader r frame ↔ w.Handled r frame := by
  constructor
  · intro h
    exact ⟨h.returns, h.dropped⟩
  · rintro ⟨hreturns, hdropped⟩
    have hsame : w.carries r frame = false → w.receive reader r frame = w := fun hc =>
      receive_dropped reader (hdropped hc)
    refine ⟨hreturns, hdropped, hsame, fun hc es => ?_⟩
    rw [exec, step_frame reader ho, hsame hc]
    rfl

theorem crashed_emitClose (w : Wire) (r : ClientRef) (cause : Cause) :
    (w.emitClose r cause).crashed = w.crashed := by
  rw [emitClose]
  split <;> rfl

theorem crashed_closeEvents (w : Wire) (r : ClientRef) (cause : Cause) :
    (w.closeEvents r cause).crashed = w.crashed := by
  rw [closeEvents]
  split
  · rfl
  · exact crashed_emitClose
      { w with room := w.room.modify r fun c => { c with eventsClosed := true } } r cause

/-- A tame frame does not end the process. -/
theorem crashed_receive {frame : Option Json} (ht : w.tame r frame = true) :
    (w.receive reader r frame).crashed = w.crashed := by
  have hreturns := ((handled_iff w r frame).mpr ht).1
  rw [receive]
  cases hf : ClientEvents.receive (w.listens r) frame with
  | throws => exact absurd hf hreturns
  | dropped => rfl
  | emitted name message =>
      dsimp only
      split
      · next type _ => cases read reader message type <;> rfl
      · exact crashed_emitClose w r .frame

theorem crashed_step {e : Event} (ht : w.tameStep e = true) (he : w.step reader e = some w') :
    w'.crashed = w.crashed := by
  cases step_turn he with
  | frame => exact crashed_receive ht
  | socketClosed =>
      exact crashed_closeEvents { w with room := w.room.modify _ fun c =>
        { c with socketClosed := true } } _ _
  | closeEvents => exact crashed_closeEvents w _ _
  | strayCreated | room => rfl

/-- A tame step that does not matter changes nothing. -/
theorem step_left_out {e : Event} (ht : w.tameStep e = true) (hm : w.matters e = false)
    (he : w.step reader e = some w') : w' = w := by
  cases step_turn he with
  | @frame r frame =>
      exact receive_dropped reader (((handled_iff w r frame).mpr ht).2 hm)
  | socketClosed | closeEvents | strayCreated | room => cases hm

/-- **Malformed frames are harmless**, exactly if they are tame, at every client whose websocket is
open in a state that a run reaches, whatever frames came before.  After tame frames the process is
alive, in the state that it reaches without those that carry no message. -/
theorem harmless_iff {config : RoomConfig} {id : CallId} {caps : RtpCapabilities}
    {es : List Event} (hx : exec (step reader) (start config id caps) es = some w) :
    (∀ r, w.Open r → ∀ frame, w.Harmless reader r frame ↔ w.tame r frame = true) ∧
      (Along (step reader) (fun w e => w.tameStep e = true) (start config id caps) es →
        w.crashed = false ∧
        exec (step reader) (start config id caps)
          (thin (step reader) matters (start config id caps) es) = some w) := by
  constructor
  · intro r ho frame
    exact (harmless_iff_handled reader ho frame).trans (handled_iff w r frame)
  · intro ha
    constructor
    · exact exec_invariant (I := fun w : Wire => w.crashed = false)
        (fun w e w' hw ht he => (crashed_step ht he).trans hw) rfl ha hx
    · exact exec_thin hx (ha.mono fun w e ht hm w' he => step_left_out ht hm he)

/-- A client sends what is no message at all, and what is nearly one, before and after it joins. -/
def rambles : List Event :=
  [.room (.add { clientId := "a", userId := "u" }), .frame 0 none, .frame 0 (some (.bool false)),
    .frame 0 (some (.arr [.null, .str "join-call-request"])),
    .frame 0 (some (.obj [("requestId", .str "1")])),
    .frame 0 (some (.obj [("type", .str "join-call-request"), ("requestId", .str "1")])),
    .frame 0 (some (.obj [("type", .obj [("name", .str "close")])])),
    .frame 0 (some (.obj [("type", .str "join-call-response")]))]

theorem harmless_iff_rambles :
    ∃ w, exec (step plain) (start ⟨"0.0.0.0", "127.0.0.1", "lobby"⟩ "call-1" "opus") rambles =
        some w ∧
      w.Harmless plain 0 (some (.obj [("type", .bool true)])) ∧
      exec (step plain) (start ⟨"0.0.0.0", "127.0.0.1", "lobby"⟩ "call-1" "opus")
        [.room (.add { clientId := "a", userId := "u" }),
          .frame 0 (some (.obj [("type", .str "join-call-request"), ("requestId", .str "1")]))] =
        some w := by
  obtain ⟨w, hx, ho⟩ : ∃ w, exec (step plain)
      (start ⟨"0.0.0.0", "127.0.0.1", "lobby"⟩ "call-1" "opus") rambles = some w ∧ w.Open 0 :=
    ⟨_, rfl, rfl, by decide, rfl⟩
  exact ⟨w, hx, ((harmless_iff hx).1 0 ho _).mpr rfl, ((harmless_iff hx).2 (by decide)).2⟩

/-- **A frame throws**: a connected client sends `null`, and its next message finds no process. -/
theorem frame_throws :
    ∃ w, exec (step plain) (start ⟨"0.0.0.0", "127.0.0.1", "lobby"⟩ "call-1" "opus")
        [.room (.add { clientId := "a", userId := "u" })] = some w ∧
      w.Open 0 ∧
      ClientEvents.receive (w.listens 0) (some .null) = .throws ∧
      ¬w.Harmless plain 0 (some .null) ∧
      (w.receive plain 0 (some .null)).crashed = true ∧
      exec (step plain) w [.frame 0 (some .null),
        .frame 0 (some (.obj [("type", .str "join-call-request"), ("requestId", .str "1")]))] =
        none :=
  ⟨_, rfl, ⟨rfl, by decide, rfl⟩, rfl, fun h => h.returns rfl, rfl, rfl⟩

end Wire

end DemoApp.Sfu
