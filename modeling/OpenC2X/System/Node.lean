import OpenC2X.Dcc.Network
import OpenC2X.Ldm.Answers
import OpenC2X.Lib.LabelledRun
import OpenC2X.Lib.Multipart

/-!
# A service and the LDM of its node

CaService and DenService pass messages in the same way.  A message that is generated goes,
encoded, to DCC and then, converted, to the LDM of the own node.  A message from DCC is decoded,
converted and sent to the same LDM by another thread.  Both services are instances of `Service`.

The two threads share the socket to the LDM, and no mutex guards it.  Each of them sends a
message in two parts, and the LDM takes the parts two by two, so that it reads something else
than a message where the parts of both get mixed (`mixed_run`).  As long as the threads do not
send at the same time (`SendsApart`), the LDM receives what was sent, in this order
(`stored_sublist`).
-/

namespace OpenC2X.System

open Dcc Ldm LabelledRun

/-! ## Services -/

/-- What differs between the services: their inputs, their states, their messages, the
messages for the LDM, and the thread that receives them there. -/
structure Service (Input S M P : Type*) where
  /-- The type of the messages in `DATA` packages. -/
  type : DATA.Kind
  /-- The state after an input, with the message that is generated and its package; `none` if
  an exception ends the service. -/
  handle : Input → S → Option (S × Option (M × DATA))
  decode : List UInt8 → Option M
  /-- `none` if the conversion reads from a null pointer. -/
  convertAsn1toProtoBuf : M → Option P
  /-- The station of a service, and of a message for the LDM. -/
  mStationID : S → UInt64
  stationid : P → UInt64
  /-- The thread of the LDM, and the messages that it receives. -/
  receiver : LdmThread
  ldmMessage : P → LdmMessage
  protos : LdmMessage → List P

section

variable {Input S M P : Type*}

/-- What the receiving thread of the service makes of a message from DCC. -/
def Service.convert (service : Service Input S M P) (message : Message) : Option P :=
  (service.decode message.content).bind service.convertAsn1toProtoBuf

/-- The service sends packages from which its messages can be decoded, and converted, and that
name its station. -/
structure Service.Lawful (service : Service Input S M P) : Prop where
  mStationID_eq : ∀ {i s s' sent}, service.handle i s = some (s', sent) →
    service.mStationID s' = service.mStationID s
  type_eq : ∀ {i s s' m data}, service.handle i s = some (s', some (m, data)) →
    data.type = service.type
  decode_carried : ∀ {i s s' m data}, service.handle i s = some (s', some (m, data)) →
    service.decode (carried data).content = some m
  convert : ∀ {i s s' m data}, service.handle i s = some (s', some (m, data)) →
    ∃ p, service.convertAsn1toProtoBuf m = some p ∧ service.stationid p = service.mStationID s
  protos_ldmMessage : ∀ p, service.protos (service.ldmMessage p) = [p]

end

/-! ## The socket to the LDM -/

/-- The threads of a service that send to the LDM. -/
inductive ServiceThread
  /-- The thread that generates messages. -/
  | generate
  /-- The thread that receives messages from DCC. -/
  | receive
  deriving DecidableEq

/-- A part of what is sent to the LDM, by what it is for the receiver there. -/
inductive Part (P : Type*)
  | envelope
  | message (proto : P)
  /-- A part of a message with another envelope, as it would be parsed. -/
  | other (proto : P)

section

variable {P : Type*}

/-- The receiver subscribes to the first byte of the envelope, and no message begins with it. -/
def Part.subscribed : Part P → Bool
  | .envelope => true
  | _ => false

/-- What the receiver gets by parsing the part.  The text of an envelope is no message, which
leaves all fields unset. -/
def Part.value [Inhabited P] : Part P → P
  | .envelope => default
  | .message proto => proto
  | .other proto => proto

end

/-! ## The node -/

/-- Where the thread stands that generates messages. -/
inductive Sending (M P : Type*)
  | idle
  /-- The message has been sent to DCC, and not yet to the LDM. -/
  | converting (m : M)
  /-- Its envelope has been sent to the LDM. -/
  | sending (p : P)
  /-- The envelope of a message of another kind has been sent there. -/
  | other (p : P)

structure Node (S M P : Type*) where
  /-- The state of the service, `none` after it has ended. -/
  service : Option S
  generating : Sending M P
  /-- The message from DCC whose envelope has been sent to the LDM. -/
  receiving : Option P
  /-- The messages on the way from DCC. -/
  fromDcc : List Message
  toLdm : Multipart.Socket ServiceThread (Part P)
  ldm : LdmConfig

inductive NodeEvent (Input M P : Type*)
  /-- DCC forwards messages. -/
  | arrive (messages : List Message)
  /-- An input after which no message is sent. -/
  | input (i : Input)
  /-- A message is generated and sent to DCC. -/
  | send (i : Input) (m : M) (data : DATA)
  /-- The message is converted, and its envelope sent to the LDM. -/
  | convert (m : M)
  /-- The message is sent to the LDM. -/
  | push (p : P)
  /-- The envelope of a message of another kind is sent to the LDM, then the message. -/
  | convertOther (p : P)
  | pushOther (p p' : P)
  /-- A message from DCC is received and converted, and its envelope sent to the LDM. -/
  | receive (message : Message)
  /-- A message from DCC is received that cannot be decoded. -/
  | discard (message : Message)
  /-- The message that was received is sent to the LDM. -/
  | forward (p : P)
  /-- The LDM receives two parts, and puts a message into its cache. -/
  | store (first last : Part P)
  /-- Another step of the LDM. -/
  | ldm (t : LdmThread) (e : ServiceEvent)
  /-- An exception ends the service. -/
  | exception
  /-- The service reads from a null pointer. -/
  | crash
  | loseFromDcc
  | loseToLdm

/-- The LDM is started on this database. -/
def nodeStart {S : Type*} (M P : Type*) (start : S) (tables : Tables) : Node S M P where
  service := some start
  generating := .idle
  receiving := none
  fromDcc := []
  toLdm := .new
  ldm := ldmStart tables

variable {Input S M P : Type*} [Inhabited P]

inductive NodeStep (sqlite : Sqlite) (service : Service Input S M P) :
    Node S M P → NodeEvent Input M P → Node S M P → Prop
  | arrive (x : Node S M P) (messages : List Message) :
      NodeStep sqlite service x (.arrive messages) { x with fromDcc := x.fromDcc ++ messages }
  | input {x : Node S M P} {i : Input} {s s' : S} (hservice : x.service = some s)
      (h : service.handle i s = some (s', none)) :
      NodeStep sqlite service x (.input i) { x with service := some s' }
  | exception {x : Node S M P} {i : Input} {s : S} (hservice : x.service = some s)
      (h : service.handle i s = none) :
      NodeStep sqlite service x .exception { x with service := none }
  | send {x : Node S M P} {i : Input} {s s' : S} {m : M} {data : DATA}
      (hservice : x.service = some s) (hidle : x.generating = .idle)
      (h : service.handle i s = some (s', some (m, data))) :
      NodeStep sqlite service x (.send i m data)
        { x with service := some s', generating := .converting m }
  | convert {x : Node S M P} {s : S} {m : M} {p : P}
      {toLdm : Multipart.Socket ServiceThread (Part P)} (hservice : x.service = some s)
      (hgenerating : x.generating = .converting m)
      (h : service.convertAsn1toProtoBuf m = some p)
      (htoLdm : Multipart.Step Part.subscribed x.toLdm (.sendmore .generate .envelope) toLdm) :
      NodeStep sqlite service x (.convert m) { x with generating := .sending p, toLdm := toLdm }
  | convertCrash {x : Node S M P} {s : S} {m : M} (hservice : x.service = some s)
      (hgenerating : x.generating = .converting m)
      (h : service.convertAsn1toProtoBuf m = none) :
      NodeStep sqlite service x .crash { x with service := none }
  | push {x : Node S M P} {s : S} {p : P} {toLdm : Multipart.Socket ServiceThread (Part P)}
      (hservice : x.service = some s) (hgenerating : x.generating = .sending p)
      (htoLdm : Multipart.Step Part.subscribed x.toLdm (.send .generate .envelope (.message p))
        toLdm) :
      NodeStep sqlite service x (.push p) { x with generating := .idle, toLdm := toLdm }
  -- `sendCamInfo` of CaService
  | convertOther {x : Node S M P} {s : S} {p : P}
      {toLdm : Multipart.Socket ServiceThread (Part P)} (hservice : x.service = some s)
      (hidle : x.generating = .idle)
      (htoLdm : Multipart.Step Part.subscribed x.toLdm (.sendmore .generate (.other p)) toLdm) :
      NodeStep sqlite service x (.convertOther p)
        { x with generating := .other p, toLdm := toLdm }
  | pushOther {x : Node S M P} {s : S} {p p' : P}
      {toLdm : Multipart.Socket ServiceThread (Part P)} (hservice : x.service = some s)
      (hgenerating : x.generating = .other p)
      (htoLdm : Multipart.Step Part.subscribed x.toLdm
        (.send .generate (.other p) (.other p')) toLdm) :
      NodeStep sqlite service x (.pushOther p p') { x with generating := .idle, toLdm := toLdm }
  | receive {x : Node S M P} {s : S} {message : Message} {messages : List Message} {p : P}
      {toLdm : Multipart.Socket ServiceThread (Part P)} (hservice : x.service = some s)
      (hidle : x.receiving = none) (hfrom : x.fromDcc = message :: messages)
      (h : service.convert message = some p)
      (htoLdm : Multipart.Step Part.subscribed x.toLdm (.sendmore .receive .envelope) toLdm) :
      NodeStep sqlite service x (.receive message)
        { x with receiving := some p, fromDcc := messages, toLdm := toLdm }
  -- Failed to decode
  | discard {x : Node S M P} {s : S} {message : Message} {messages : List Message}
      (hservice : x.service = some s) (hidle : x.receiving = none)
      (hfrom : x.fromDcc = message :: messages)
      (hdecode : service.decode message.content = none) :
      NodeStep sqlite service x (.discard message) { x with fromDcc := messages }
  | receiveCrash {x : Node S M P} {s : S} {message : Message} {messages : List Message} {m : M}
      (hservice : x.service = some s) (hidle : x.receiving = none)
      (hfrom : x.fromDcc = message :: messages)
      (hdecode : service.decode message.content = some m)
      (h : service.convertAsn1toProtoBuf m = none) :
      NodeStep sqlite service x .crash { x with service := none, fromDcc := messages }
  | forward {x : Node S M P} {s : S} {p : P}
      {toLdm : Multipart.Socket ServiceThread (Part P)} (hservice : x.service = some s)
      (hreceiving : x.receiving = some p)
      (htoLdm : Multipart.Step Part.subscribed x.toLdm (.send .receive .envelope (.message p))
        toLdm) :
      NodeStep sqlite service x (.forward p) { x with receiving := none, toLdm := toLdm }
  | store {x : Node S M P} {first last : Part P}
      {toLdm : Multipart.Socket ServiceThread (Part P)} {ldm : LdmConfig}
      (htoLdm : Multipart.Step Part.subscribed x.toLdm (.receive first last) toLdm)
      (hldm : Interleaving.Step (LdmAct sqlite) x.ldm
        (service.receiver, .access (.store (service.ldmMessage last.value))) ldm) :
      NodeStep sqlite service x (.store first last) { x with toLdm := toLdm, ldm := ldm }
  | ldm {x : Node S M P} {t : LdmThread} {e : ServiceEvent} {ldm : LdmConfig}
      (hldm : Interleaving.Step (LdmAct sqlite) x.ldm (t, e) ldm)
      (hother : e.received.flatMap service.protos = []) :
      NodeStep sqlite service x (.ldm t e) { x with ldm := ldm }
  | loseFromDcc {x : Node S M P} {before after : List Message} {message : Message}
      (hfrom : x.fromDcc = before ++ message :: after) :
      NodeStep sqlite service x .loseFromDcc { x with fromDcc := before ++ after }
  | loseToLdm {x : Node S M P} {toLdm : Multipart.Socket ServiceThread (Part P)}
      (htoLdm : Multipart.Step Part.subscribed x.toLdm .lose toLdm) :
      NodeStep sqlite service x .loseToLdm { x with toLdm := toLdm }

/-! ## What a trace tells -/

namespace NodeEvent

def arrived : NodeEvent Input M P → List Message
  | arrive messages => messages
  | _ => []

/-- The messages that the service generates, and the packages that carry them. -/
def generated : NodeEvent Input M P → List M
  | send _ m _ => [m]
  | _ => []

def published : NodeEvent Input M P → List DATA
  | send _ _ data => [data]
  | _ => []

/-- The generated messages that are sent to the LDM. -/
def pushed : NodeEvent Input M P → List P
  | push p => [p]
  | _ => []

/-- The messages from DCC. -/
def received : NodeEvent Input M P → List Message
  | receive message => [message]
  | discard message => [message]
  | _ => []

/-- The messages from DCC that are sent to the LDM. -/
def forwarded : NodeEvent Input M P → List P
  | forward p => [p]
  | _ => []

/-- All messages that are sent to the LDM. -/
def put (e : NodeEvent Input M P) : List P := e.pushed ++ e.forwarded

/-- The messages that the LDM receives. -/
def stored : NodeEvent Input M P → List P
  | store _ last => [last.value]
  | _ => []

/-- What is done with the socket to the LDM. -/
def onSocket : NodeEvent Input M P → List (Multipart.Event ServiceThread (Part P))
  | convert _ => [.sendmore .generate .envelope]
  | push p => [.send .generate .envelope (.message p)]
  | convertOther p => [.sendmore .generate (.other p)]
  | pushOther p p' => [.send .generate (.other p) (.other p')]
  | receive _ => [.sendmore .receive .envelope]
  | forward p => [.send .receive .envelope (.message p)]
  | store first last => [.receive first last]
  | loseToLdm => [.lose]
  | _ => []

/-- What is done in the LDM. -/
def onLdm (service : Service Input S M P) : NodeEvent Input M P → LdmTrace
  | store _ last => [(service.receiver, .access (.store (service.ldmMessage last.value)))]
  | ldm t e => [(t, e)]
  | _ => []

end NodeEvent

/-- The threads of the service do not send to the LDM at the same time. -/
def SendsApart (tr : List (NodeEvent Input M P)) : Prop :=
  Multipart.Apart (tr.flatMap NodeEvent.onSocket)

/-! ## Runs -/

variable {sqlite : Sqlite} {service : Service Input S M P} {start : S} {tables : Tables}
  {x x' : Node S M P} {e : NodeEvent Input M P} {tr : List (NodeEvent Input M P)}

/-- The message for the LDM that the generating thread has, or will have. -/
def Sending.proto (service : Service Input S M P) : Sending M P → List P
  | idle => []
  | converting m => (service.convertAsn1toProtoBuf m).toList
  | sending p => [p]
  | other _ => []

omit [Inhabited P] in
theorem convert_of_decode_eq_none {message : Message}
    (h : service.decode message.content = none) : service.convert message = none := by
  rw [Service.convert, h, Option.bind_none]

/-- Nothing is put into a queue, and nothing is taken. -/
theorem sublist_of_kept {Item : Type*} (items : List Item) :
    ([] ++ items).Sublist (items ++ []) := by
  rw [List.append_nil]
  exact List.Sublist.refl items

/-- The threads of the service make up no messages. -/
structure Flows (service : Service Input S M P) (x : Node S M P) (e : NodeEvent Input M P)
    (x' : Node S M P) : Prop where
  fromDcc : (e.received ++ x'.fromDcc).Sublist (x.fromDcc ++ e.arrived)
  generating : (e.pushed ++ x'.generating.proto service).Sublist
    (x.generating.proto service ++ e.generated.filterMap service.convertAsn1toProtoBuf)
  receiving : (e.forwarded ++ x'.receiving.toList).Sublist
    (x.receiving.toList ++ e.received.filterMap service.convert)

theorem step_flows (h : NodeStep sqlite service x e x') : Flows service x e x' := by
  cases h with
  | arrive messages => exact ⟨List.Sublist.refl _, sublist_of_kept _, sublist_of_kept _⟩
  | input | exception | convertCrash | store | ldm | loseToLdm =>
      exact ⟨sublist_of_kept _, sublist_of_kept _, sublist_of_kept _⟩
  | @send i s s' m data _ hidle _ =>
      refine ⟨sublist_of_kept _, ?_, sublist_of_kept _⟩
      rw [hidle]
      cases hconvert : service.convertAsn1toProtoBuf m <;>
        simp [NodeEvent.pushed, NodeEvent.generated, Sending.proto, hconvert]
  | convert _ hgenerating hconvert _ =>
      refine ⟨sublist_of_kept _, ?_, sublist_of_kept _⟩
      rw [hgenerating, Sending.proto, hconvert]
      exact sublist_of_kept _
  | push _ hgenerating _ =>
      refine ⟨sublist_of_kept _, ?_, sublist_of_kept _⟩
      rw [hgenerating]
      exact List.Sublist.refl _
  | convertOther _ hidle _ =>
      refine ⟨sublist_of_kept _, ?_, sublist_of_kept _⟩
      rw [hidle]
      exact sublist_of_kept _
  | pushOther _ hgenerating _ =>
      refine ⟨sublist_of_kept _, ?_, sublist_of_kept _⟩
      rw [hgenerating]
      exact sublist_of_kept _
  | @receive s message messages p toLdm _ hidle hfrom hconvert _ =>
      refine ⟨?_, sublist_of_kept _, ?_⟩
      · rw [hfrom]
        exact sublist_of_kept (message :: messages)
      · rw [hidle, NodeEvent.received, List.filterMap_cons_some hconvert]
        exact List.Sublist.refl _
  | @discard s message messages _ hidle hfrom hdecode =>
      refine ⟨?_, sublist_of_kept _, ?_⟩
      · rw [hfrom]
        exact sublist_of_kept (message :: messages)
      · rw [NodeEvent.received, List.filterMap_cons_none (convert_of_decode_eq_none hdecode)]
        exact sublist_of_kept _
  | @receiveCrash s message messages _ _ _ hfrom _ _ =>
      refine ⟨?_, sublist_of_kept _, sublist_of_kept _⟩
      rw [hfrom]
      exact (List.sublist_cons_self message messages).trans (sublist_of_kept (message :: messages))
  | forward _ hreceiving _ =>
      refine ⟨sublist_of_kept _, sublist_of_kept _, ?_⟩
      rw [hreceiving]
      exact List.Sublist.refl _
  | @loseFromDcc before after message hfrom =>
      refine ⟨?_, sublist_of_kept _, sublist_of_kept _⟩
      rw [hfrom]
      exact ((List.sublist_cons_self message after).append_left before).trans (sublist_of_kept _)

section

variable (h : Run (NodeStep sqlite service) (nodeStart M P start tables) tr x)

include h

/-- The service receives what arrives, in this order and up to losses. -/
theorem received_sublist : (tr.flatMap NodeEvent.received ++ x.fromDcc).Sublist
    (tr.flatMap NodeEvent.arrived) :=
  h.queue NodeEvent.arrived NodeEvent.received Node.fromDcc rfl
    fun _ _ _ hstep => (step_flows hstep).fromDcc

/-- The thread that generates messages sends them to the LDM in their order. -/
theorem pushed_sublist : (tr.flatMap NodeEvent.pushed ++ x.generating.proto service).Sublist
    ((tr.flatMap NodeEvent.generated).filterMap service.convertAsn1toProtoBuf) := by
  have hqueue := h.queue (fun e => e.generated.filterMap service.convertAsn1toProtoBuf)
    NodeEvent.pushed (fun x => x.generating.proto service) rfl
    fun _ _ _ hstep => (step_flows hstep).generating
  rwa [← List.filterMap_flatMap] at hqueue

theorem forwarded_sublist : (tr.flatMap NodeEvent.forwarded).Sublist
    ((tr.flatMap NodeEvent.received).filterMap service.convert) := by
  have hqueue := h.queue (fun e => e.received.filterMap service.convert) NodeEvent.forwarded
    (fun x => x.receiving.toList) rfl fun _ _ _ hstep => (step_flows hstep).receiving
  rw [← List.filterMap_flatMap] at hqueue
  exact (List.sublist_append_left _ _).trans hqueue

theorem run_socket : Run (Multipart.Step Part.subscribed) .new (tr.flatMap NodeEvent.onSocket)
    x.toLdm := by
  refine h.project Node.toLdm NodeEvent.onSocket fun x e x' hstep => ?_
  cases hstep with
  | convert _ _ _ htoLdm => exact .single htoLdm
  | push _ _ htoLdm | convertOther _ _ htoLdm | pushOther _ _ htoLdm | forward _ _ htoLdm =>
      exact .single htoLdm
  | receive _ _ _ _ htoLdm => exact .single htoLdm
  | store htoLdm _ | loseToLdm htoLdm => exact .single htoLdm
  | _ => exact .nil

omit h in
theorem map_value_sent (e : NodeEvent Input M P) :
    (e.onSocket.flatMap (Multipart.Event.sent Part.subscribed)).map Part.value = e.put := by
  cases e <;> rfl

omit h in
theorem map_value_received (e : NodeEvent Input M P) :
    (e.onSocket.flatMap Multipart.Event.received).map Part.value = e.stored := by
  cases e <;> rfl

/-- The LDM receives what was sent to it, in this order and up to losses. -/
theorem stored_sublist (hapart : SendsApart tr) :
    (tr.flatMap NodeEvent.stored).Sublist (tr.flatMap NodeEvent.put) := by
  have hparts := (Multipart.received_sublist (run_socket h) hapart).map Part.value
  rw [List.flatMap_assoc, List.flatMap_assoc, List.map_flatMap, List.map_flatMap] at hparts
  rwa [List.flatMap_congr fun e _ => map_value_received e,
    List.flatMap_congr fun e _ => map_value_sent e] at hparts

/-! ### The LDM -/

omit h in
/-- The LDM has a run of its own. -/
theorem run_nodeLdm {x₀ : Node S M P} (h : Run (NodeStep sqlite service) x₀ tr x) :
    Interleaving.Run (LdmAct sqlite) x₀.ldm (tr.flatMap (NodeEvent.onLdm service)) x.ldm := by
  induction h with
  | nil => exact .nil
  | snoc _ hstep ih =>
      rw [List.flatMap_append, List.flatMap_singleton]
      cases hstep with
      | store _ hldm => exact ih.snoc hldm
      | ldm hldm _ => exact ih.snoc hldm
      | _ => exact (List.append_nil _).symm ▸ ih

theorem protos_received (hlawful : service.Lawful) :
    (Interleaving.collect ServiceEvent.received (tr.flatMap (NodeEvent.onLdm service))).flatMap
      service.protos = tr.flatMap NodeEvent.stored := by
  refine h.invariant (fun tr _ => (Interleaving.collect ServiceEvent.received
    (tr.flatMap (NodeEvent.onLdm service))).flatMap service.protos =
      tr.flatMap NodeEvent.stored) rfl ?_
  intro tr x e x' ih hstep
  rw [List.flatMap_append, List.flatMap_append, List.flatMap_singleton, List.flatMap_singleton,
    Interleaving.collect_append, List.flatMap_append, ih]
  congr 1
  cases hstep with
  | store _ _ =>
      rw [NodeEvent.onLdm, Interleaving.collect_singleton]
      exact (List.append_nil _).trans (hlawful.protos_ldmMessage _)
  | ldm _ hother =>
      rw [NodeEvent.onLdm, Interleaving.collect_singleton]
      exact hother
  | _ => rfl

/-! ### The messages of the service -/

/-- The state of a service that goes on. -/
theorem mStationID_eq (hlawful : service.Lawful) {s : S} (hs : x.service = some s) :
    service.mStationID s = service.mStationID start := by
  refine h.invariant (fun _ x => ∀ s, x.service = some s →
    service.mStationID s = service.mStationID start) ?_ ?_ s hs
  · intro s hs
    rw [← Option.some.inj hs]
  · intro tr x e x' ih hstep s' hs'
    cases hstep with
    | input hservice h =>
        obtain rfl := Option.some.inj hs'
        rw [hlawful.mStationID_eq h, ih _ hservice]
    | send hservice _ h =>
        obtain rfl := Option.some.inj hs'
        rw [hlawful.mStationID_eq h, ih _ hservice]
    | exception | convertCrash | receiveCrash => cases hs'
    | _ => exact ih s' hs'

/-- A message that is not yet converted was generated. -/
theorem mem_generated_of_converting {m : M} (hconverting : x.generating = .converting m) :
    m ∈ tr.flatMap NodeEvent.generated := by
  refine h.invariant (fun tr x => ∀ m, x.generating = .converting m →
    m ∈ tr.flatMap NodeEvent.generated) nofun ?_ m hconverting
  intro tr x e x' ih hstep m hconverting
  rw [List.flatMap_append, List.flatMap_singleton]
  cases hstep with
  | send _ _ _ =>
      cases hconverting
      exact List.mem_append_right _ (List.mem_singleton_self m)
  | convert | push | convertOther | pushOther => cases hconverting
  | _ => exact List.mem_append_left _ (ih m hconverting)

/-- Every message of the service can be converted, and names its station. -/
theorem generated_converts (hlawful : service.Lawful) : ∀ m ∈ tr.flatMap NodeEvent.generated,
    ∃ p, service.convertAsn1toProtoBuf m = some p ∧
      service.stationid p = service.mStationID start := by
  induction h with
  | nil => exact fun m hm => absurd hm List.not_mem_nil
  | snoc hrun hstep ih =>
      intro m hm
      rw [List.flatMap_append, List.flatMap_singleton] at hm
      rcases List.mem_append.mp hm with hold | hnew
      · exact ih m hold
      · cases hstep with
        | send hservice _ h =>
            obtain rfl := List.mem_singleton.mp hnew
            obtain ⟨p, hp, hname⟩ := hlawful.convert h
            exact ⟨p, hp, hname.trans (mStationID_eq hrun hlawful hservice)⟩
        | _ => exact absurd hnew List.not_mem_nil

end

/-! ### Runs of one message -/

/-- A message that has been generated gets into the LDM. -/
theorem generated_run {s : S} {m : M} {p : P} {ldm ldm' : LdmConfig} {receiving : Option P}
    {fromDcc : List Message} (hconvert : service.convertAsn1toProtoBuf m = some p)
    (hldm : Interleaving.Step (LdmAct sqlite) ldm
      (service.receiver, .access (.store (service.ldmMessage p))) ldm') :
    ∃ toLdm, Run (NodeStep sqlite service)
      ⟨some s, .converting m, receiving, fromDcc, .new, ldm⟩
      [.convert m, .push p, .store .envelope (.message p)]
      ⟨some s, .idle, receiving, fromDcc, toLdm, ldm'⟩ :=
  ⟨_, Run.nil
    |>.snoc (.convert rfl rfl hconvert (.sendmore _ rfl))
    |>.snoc (.push rfl rfl (.send _ rfl))
    |>.snoc (.store (.receive rfl rfl) hldm)⟩

/-- A message that arrives gets into the LDM. -/
theorem arrived_run {s : S} {message : Message} {p : P} {ldm ldm' : LdmConfig}
    {generating : Sending M P} (hconvert : service.convert message = some p)
    (hldm : Interleaving.Step (LdmAct sqlite) ldm
      (service.receiver, .access (.store (service.ldmMessage p))) ldm') :
    ∃ toLdm, Run (NodeStep sqlite service)
      ⟨some s, generating, none, [message], .new, ldm⟩
      [.receive message, .forward p, .store .envelope (.message p)]
      ⟨some s, generating, none, [], toLdm, ldm'⟩ :=
  ⟨_, Run.nil
    |>.snoc (.receive rfl rfl rfl hconvert (.sendmore _ rfl))
    |>.snoc (.forward rfl rfl (.send _ rfl))
    |>.snoc (.store (.receive rfl rfl) hldm)⟩

/-- If both threads send at the same time, the LDM reads the text of an envelope, and gets a message
without any fields that nobody generated. -/
theorem mixed_run {s : S} {m : M} {p p' : P} {message : Message} {ldm ldm' : LdmConfig}
    (hconvert : service.convertAsn1toProtoBuf m = some p)
    (hmessage : service.convert message = some p')
    (hldm : Interleaving.Step (LdmAct sqlite) ldm
      (service.receiver, .access (.store (service.ldmMessage default))) ldm') :
    ∃ toLdm, Run (NodeStep sqlite service)
      ⟨some s, .converting m, none, [message], .new, ldm⟩
      [.convert m, .receive message, .push p, .store .envelope .envelope]
      ⟨some s, .idle, some p', [], toLdm, ldm'⟩ :=
  ⟨_, Run.nil
    |>.snoc (.convert rfl rfl hconvert (.sendmore _ rfl))
    |>.snoc (.receive rfl rfl rfl hmessage (.sendmore _ rfl))
    |>.snoc (.push rfl rfl (.send _ rfl))
    |>.snoc (.store (.receive rfl rfl) hldm)⟩

/-- The LDM goes on beside the service. -/
theorem run_of_ldm {events : LdmTrace} {ldm : LdmConfig}
    (hother : ∀ e ∈ events, e.2.received.flatMap service.protos = [])
    (h : Interleaving.Run (LdmAct sqlite) x.ldm events ldm) :
    Run (NodeStep sqlite service) x (events.map fun (t, e) => .ldm t e) { x with ldm := ldm } := by
  induction h with
  | nil => exact .nil
  | @snoc events ldm ldm' e _ hstep ih =>
      rw [List.map_append, List.map_singleton]
      have hbefore := ih fun e' he' => hother e' (List.mem_append_left _ he')
      have hlast := hother e (List.mem_append_right _ (List.mem_singleton_self e))
      exact hbefore.snoc (.ldm hstep hlast)

end OpenC2X.System
