import Mathlib.Data.List.Basic

/-!
# Envelopes

The services publish messages of two parts, an envelope and the message, and a receiver
subscribes to one envelope.  ZeroMQ delivers what begins with the subscription.  The
constructor of `CommunicationReceiver` subscribes with length 1 whatever the envelope is,
so that messages come through whose envelopes share no more than the first byte.
-/

namespace OpenC2X

/-- A `std::string`. -/
abbrev Bytes : Type := List UInt8

/-- The parts of a message. -/
abbrev Multipart : Type := List Bytes

/-! ## ZeroMQ -/

namespace ZeroMq

/-- The first part of a message begins with the subscription. -/
def matchesSubscription (subscription : Bytes) (message : Multipart) : Bool :=
  subscription.isPrefixOf (message.headD [])

/-- The parts that arrive at a socket with this subscription, in their order. -/
def deliver (subscription : Bytes) (published : List Multipart) : List Bytes :=
  (published.filter (matchesSubscription subscription)).flatten

end ZeroMq

/-! ## Sender and receiver -/

/-- `CommunicationSender::send`, and `sendData`. -/
def CommunicationSender.send (envelope message : Bytes) : Multipart := [envelope, message]

structure CommunicationReceiver where
  mEnvelope : Bytes
  /-- What `mSubscriber` subscribes to. -/
  subscription : Bytes

namespace CommunicationReceiver

/-- `setsockopt(ZMQ_SUBSCRIBE, option, length)` reads as many bytes from the pointer. -/
def zmqSubscribe (option : Bytes) (length : ℕ) : Bytes := option.take length

/-- The characters from `c_str()` on, up to the NUL that ends them. -/
def c_str (s : Bytes) : Bytes := s ++ [0]

/-- The constructor. -/
def new (envelope : Bytes) : CommunicationReceiver where
  mEnvelope := envelope
  subscription :=
    if envelope = [] then
      zmqSubscribe (c_str []) 0 -- subscribe to all messages
    else
      zmqSubscribe (c_str envelope) 1

/-- Two calls of `s_recv`: the pair returned, and the parts left; `none` while it blocks. -/
def receive (parts : List Bytes) : Option ((Bytes × Bytes) × List Bytes) :=
  match parts with
  | envelope :: message :: rest => some ((envelope, message), rest)
  | _ => none

theorem length_of_receive {parts rest : List Bytes} {pair : Bytes × Bytes}
    (h : receive parts = some (pair, rest)) : rest.length < parts.length := by
  unfold receive at h
  split at h
  next =>
    cases h
    simp only [List.length_cons]
    omega
  next => cases h

/-- The pairs that the calls of `receive` return, until one blocks. -/
def receiveAll (parts : List Bytes) : List (Bytes × Bytes) :=
  match _h : receive parts with
  | none => []
  | some (pair, rest) => pair :: receiveAll rest
termination_by parts.length
decreasing_by exact length_of_receive _h

@[simp] theorem receiveAll_nil : receiveAll [] = [] := by
  rw [receiveAll]
  rfl

theorem receiveAll_send (envelope message : Bytes) (rest : List Bytes) :
    receiveAll (CommunicationSender.send envelope message ++ rest) =
      (envelope, message) :: receiveAll rest := by
  rw [receiveAll]
  rfl

/-- What the receiver of a port returns for what is published there. -/
def received (receiver : CommunicationReceiver) (published : List (Bytes × Bytes)) :
    List (Bytes × Bytes) :=
  receiveAll (ZeroMq.deliver receiver.subscription
    (published.map fun pair => CommunicationSender.send pair.1 pair.2))

/-! ## What a receiver gets -/

/-- Every delivered message gives back its envelope and its message. -/
theorem received_eq_filter (receiver : CommunicationReceiver) (published : List (Bytes × Bytes)) :
    receiver.received published =
      published.filter fun pair => receiver.subscription.isPrefixOf pair.1 := by
  unfold received ZeroMq.deliver
  induction published with
  | nil => exact receiveAll_nil
  | cons pair published ih =>
      have hmatches : ZeroMq.matchesSubscription receiver.subscription
          (CommunicationSender.send pair.1 pair.2) =
            receiver.subscription.isPrefixOf pair.1 := rfl
      rw [List.map_cons, List.filter_cons, List.filter_cons, hmatches]
      split_ifs with hdelivered
      · rw [List.flatten_cons, receiveAll_send, ih]
      · exact ih

@[simp] theorem subscription_new_nil : (new []).subscription = [] := rfl

@[simp] theorem subscription_new_cons (first : UInt8) (rest : Bytes) :
    (new (first :: rest)).subscription = [first] := rfl

/-- With the empty envelope everything is received. -/
theorem received_new_nil (published : List (Bytes × Bytes)) :
    (new []).received published = published := by
  rw [received_eq_filter, subscription_new_nil]
  exact List.filter_eq_self.mpr fun _ _ => rfl

/-- With any other envelope its first byte decides. -/
theorem received_new {envelope : Bytes} (hne : envelope ≠ [])
    (published : List (Bytes × Bytes)) :
    (new envelope).received published =
      published.filter fun pair => pair.1.head? = envelope.head? := by
  obtain ⟨first, rest, rfl⟩ := List.exists_cons_of_ne_nil hne
  rw [received_eq_filter, subscription_new_cons]
  apply List.filter_congr
  intro pair _
  rcases pair.1 with _ | ⟨first', rest'⟩
  · rfl
  · simp [List.isPrefixOf, eq_comm, Bool.beq_eq_decide_eq]

/-- The pairs that a receiver of the envelope should get. -/
def ofTopic (envelope : Bytes) (published : List (Bytes × Bytes)) : List (Bytes × Bytes) :=
  published.filter fun pair => envelope.isPrefixOf pair.1

/-- **Topics.**  A receiver for a non-empty envelope gets what begins with the envelope, and
nothing else, if and only if everything published that has its first byte begins with all
of it. -/
theorem topicIsolation_iff {envelope : Bytes} (hne : envelope ≠ [])
    (published : List (Bytes × Bytes)) :
    (new envelope).received published = ofTopic envelope published ↔
      ∀ pair ∈ published, pair.1.head? = envelope.head? → envelope <+: pair.1 := by
  rw [received_new hne, ofTopic]
  constructor
  · intro heq pair hmem hfirst
    have hreceived : pair ∈ published.filter fun pair => pair.1.head? = envelope.head? :=
      List.mem_filter.mpr ⟨hmem, decide_eq_true hfirst⟩
    rw [heq] at hreceived
    exact List.isPrefixOf_iff_prefix.mp (List.mem_filter.mp hreceived).2
  · intro hall
    apply List.filter_congr
    intro pair hmem
    rw [Bool.eq_iff_iff, decide_eq_true_iff, List.isPrefixOf_iff_prefix]
    refine ⟨hall pair hmem, ?_⟩
    rintro ⟨suffix, hsuffix⟩
    rw [← hsuffix, List.head?_append_of_ne_nil _ hne]

/-- The text of an envelope. -/
def ofText (text : String) : Bytes := text.toList.map fun c => c.toNat.toUInt8

/-- The message that a receiver for `CAM` gets by its first byte. -/
theorem topicIsolation_cam :
    (new (ofText "CAM")).received [(ofText "CAM", [1]), (ofText "DENM", [2])] =
      ofTopic (ofText "CAM") [(ofText "CAM", [1]), (ofText "DENM", [2])] :=
  (topicIsolation_iff (by decide) _).mpr (by decide)

/-- A receiver for `DENM` also gets a message for `DCC`. -/
theorem not_topicIsolation_dcc :
    ofText "DENM" ≠ [] ∧
      (new (ofText "DENM")).received [(ofText "DCC", [1])] = [(ofText "DCC", [1])] ∧
      ofTopic (ofText "DENM") [(ofText "DCC", [1])] = [] := by
  refine ⟨by decide, ?_, by decide⟩
  rw [received_new (by decide)]
  decide

end CommunicationReceiver

end OpenC2X
