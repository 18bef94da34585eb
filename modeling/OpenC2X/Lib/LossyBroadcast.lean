import OpenC2X.Lib.LabelledRun
import Mathlib.Algebra.Order.BigOperators.Group.Finset
import Mathlib.Algebra.Order.Group.Multiset
import Mathlib.Data.List.ReduceOption

/-!
# Lossy broadcast

A medium carries a copy of every message to every receiver.  Copies overtake each other and
get lost, but none is made up and none is delivered twice.  A sender is known by its address,
which several senders may share.

A trace of sends and deliveries is one of the medium if and only if at no time more copies of
a message were delivered to a receiver, from an address, than sent from there
(`accepts_iff`).  So the medium is a specification: a network implements it if its traces
have this property.
-/

namespace LossyBroadcast

open LabelledRun

variable {Address Receiver Message : Type*}

/-! ## The medium -/

inductive Event (Address Receiver Message : Type*)
  | send (address : Address) (message : Message)
  | deliver (address : Address) (receiver : Receiver) (message : Message)
  deriving DecidableEq, Repr

/-- The event with the message that a sender's one becomes before copies of it are made. -/
def Event.carry (f : Message → Message) :
    Event Address Receiver Message → Event Address Receiver Message
  | .send address message => .send address (f message)
  | .deliver address receiver message => .deliver address receiver message

theorem map_carry_eq_self {f : Message → Message} {tr : List (Event Address Receiver Message)}
    (h : ∀ address message, .send address message ∈ tr → f message = message) :
    tr.map (Event.carry f) = tr := by
  refine (List.map_congr_left fun e he => ?_).trans (List.map_id tr)
  cases e with
  | send address message => rw [Event.carry, h address message he, id]
  | deliver => rfl

/-- The copies on the way, from an address to a receiver. -/
abbrev Medium (Address Receiver Message : Type*) := Address → Receiver → Multiset Message

variable [DecidableEq Address] [DecidableEq Receiver]

/-- The medium with other copies on the way from `address` to `receiver`. -/
def Medium.set (medium : Medium Address Receiver Message) (address : Address)
    (receiver : Receiver) (copies : Multiset Message) : Medium Address Receiver Message :=
  fun a r => if a = address ∧ r = receiver then copies else medium a r

/-- A step shows an event, or a copy is lost. -/
inductive Step : Medium Address Receiver Message → Option (Event Address Receiver Message) →
    Medium Address Receiver Message → Prop
  | send {medium : Medium Address Receiver Message} (address : Address) (message : Message) :
      Step medium (some (.send address message))
        fun a r => if a = address then message ::ₘ medium a r else medium a r
  | deliver {medium : Medium Address Receiver Message} {address : Address} {receiver : Receiver}
      {message : Message} {rest : Multiset Message}
      (h : medium address receiver = message ::ₘ rest) :
      Step medium (some (.deliver address receiver message)) (medium.set address receiver rest)
  | lose {medium : Medium Address Receiver Message} {address : Address} {receiver : Receiver}
      {message : Message} {rest : Multiset Message}
      (h : medium address receiver = message ::ₘ rest) :
      Step medium none (medium.set address receiver rest)

/-- A run of the medium, which starts without copies, shows the trace. -/
def Accepts (tr : List (Event Address Receiver Message)) : Prop :=
  ∃ labels medium, Run Step (fun _ _ => 0) labels medium ∧ labels.reduceOption = tr

/-! ## Counting -/

def Event.sent (address : Address) : Event Address Receiver Message → List Message
  | .send a message => if a = address then [message] else []
  | .deliver .. => []

def Event.delivered (address : Address) (receiver : Receiver) :
    Event Address Receiver Message → List Message
  | .send .. => []
  | .deliver a r message => if a = address ∧ r = receiver then [message] else []

/-- The messages sent from an address. -/
def sent (address : Address) (tr : List (Event Address Receiver Message)) : List Message :=
  tr.flatMap (Event.sent address)

/-- The messages delivered to a receiver, from an address. -/
def delivered (address : Address) (receiver : Receiver)
    (tr : List (Event Address Receiver Message)) : List Message :=
  tr.flatMap (Event.delivered address receiver)

omit [DecidableEq Receiver] in
@[simp] theorem sent_append (address : Address)
    (tr tr' : List (Event Address Receiver Message)) :
    sent address (tr ++ tr') = sent address tr ++ sent address tr' := List.flatMap_append

@[simp] theorem delivered_append (address : Address) (receiver : Receiver)
    (tr tr' : List (Event Address Receiver Message)) :
    delivered address receiver (tr ++ tr') =
      delivered address receiver tr ++ delivered address receiver tr' := List.flatMap_append

omit [DecidableEq Receiver] in
@[simp] theorem sent_singleton (address : Address) (e : Event Address Receiver Message) :
    sent address [e] = e.sent address := List.flatMap_singleton _ _

@[simp] theorem delivered_singleton (address : Address) (receiver : Receiver)
    (e : Event Address Receiver Message) :
    delivered address receiver [e] = e.delivered address receiver := List.flatMap_singleton _ _

variable [DecidableEq Message]

/-- No copy is made up and none is delivered twice. -/
def Covered (tr : List (Event Address Receiver Message)) : Prop :=
  ∀ address receiver message,
    (delivered address receiver tr).count message ≤ (sent address tr).count message

theorem count_singleton_comm (m message : Message) :
    [m].count message = if message = m then 1 else 0 := by
  rw [List.count_singleton']
  exact if_congr eq_comm rfl rfl

/-! ## The traces of the medium -/

/-- What is on the way and what was delivered was sent. -/
theorem count_le {labels : List (Option (Event Address Receiver Message))}
    {medium : Medium Address Receiver Message} (h : Run Step (fun _ _ => 0) labels medium)
    (address : Address) (receiver : Receiver) (message : Message) :
    (medium address receiver).count message +
        (delivered address receiver labels.reduceOption).count message ≤
      (sent address labels.reduceOption).count message := by
  induction h with
  | nil => exact le_rfl
  | @snoc labels medium medium' l _ hstep ih =>
      rw [List.reduceOption_append]
      cases hstep with
      | send a m =>
          rw [List.reduceOption_singleton]
          simp only [Option.toList_some, sent_append, delivered_append, sent_singleton,
            delivered_singleton, Event.sent, Event.delivered, List.append_nil, List.count_append]
          by_cases ha : a = address
          · rw [if_pos ha.symm, if_pos ha, Multiset.count_cons, count_singleton_comm]
            split_ifs <;> omega
          · rw [if_neg (Ne.symm ha), if_neg ha, List.count_nil]
            exact ih
      | @deliver a r m rest h =>
          rw [List.reduceOption_singleton]
          simp only [Option.toList_some, sent_append, delivered_append, sent_singleton,
            delivered_singleton, Event.sent, Event.delivered, List.append_nil, List.count_append,
            Medium.set]
          by_cases hpair : a = address ∧ r = receiver
          · obtain ⟨rfl, rfl⟩ := hpair
            rw [h, Multiset.count_cons] at ih
            rw [if_pos ⟨rfl, rfl⟩, if_pos ⟨rfl, rfl⟩, count_singleton_comm]
            split_ifs at ih ⊢ <;> omega
          · rw [if_neg (fun heq => hpair ⟨heq.1.symm, heq.2.symm⟩), if_neg hpair, List.count_nil]
            exact ih
      | @lose a r m rest h =>
          rw [List.reduceOption_singleton, Option.toList_none, List.append_nil, Medium.set]
          split
          next heq =>
            obtain ⟨rfl, rfl⟩ := heq
            rw [h, Multiset.count_cons] at ih
            omega
          next => exact ih

/-- The medium that has lost nothing. -/
def remaining (tr : List (Event Address Receiver Message)) : Medium Address Receiver Message :=
  fun address receiver => sent address tr - delivered address receiver tr

theorem count_remaining (tr : List (Event Address Receiver Message)) (address : Address)
    (receiver : Receiver) (message : Message) :
    (remaining tr address receiver).count message =
      (sent address tr).count message - (delivered address receiver tr).count message := by
  rw [remaining, Multiset.count_sub, Multiset.coe_count, Multiset.coe_count]

/-- A message sent stays on the way. -/
theorem remaining_send {tr : List (Event Address Receiver Message)} (h : Covered tr)
    (a : Address) (m : Message) :
    remaining (tr ++ [.send a m]) = fun address receiver =>
      if address = a then m ::ₘ remaining tr address receiver
      else remaining tr address receiver := by
  funext address receiver
  ext message
  have hcovered := h address receiver message
  by_cases ha : address = a
  · rw [if_pos ha, Multiset.count_cons, count_remaining, count_remaining]
    simp only [sent_append, delivered_append, sent_singleton, delivered_singleton, Event.sent,
      Event.delivered, List.append_nil, List.count_append, if_pos ha.symm, count_singleton_comm]
    split_ifs <;> omega
  · rw [if_neg ha, count_remaining, count_remaining]
    simp only [sent_append, delivered_append, sent_singleton, delivered_singleton, Event.sent,
      Event.delivered, List.append_nil, if_neg (Ne.symm ha)]

/-- A message delivered was on the way. -/
theorem remaining_deliver {tr : List (Event Address Receiver Message)} {a : Address}
    {r : Receiver} {m : Message} (h : Covered (tr ++ [.deliver a r m])) :
    remaining tr a r = m ::ₘ remaining (tr ++ [.deliver a r m]) a r := by
  ext message
  have hcovered := h a r message
  rw [Multiset.count_cons, count_remaining, count_remaining]
  simp only [sent_append, delivered_append, sent_singleton, delivered_singleton, Event.sent,
    Event.delivered, List.append_nil, List.count_append, and_self, if_true,
    count_singleton_comm] at hcovered ⊢
  split_ifs at hcovered ⊢ <;> omega

theorem remaining_deliver_set (tr : List (Event Address Receiver Message)) (a : Address)
    (r : Receiver) (m : Message) :
    remaining (tr ++ [.deliver a r m]) =
      (remaining tr).set a r (remaining (tr ++ [.deliver a r m]) a r) := by
  funext address receiver
  unfold Medium.set
  by_cases hpair : address = a ∧ receiver = r
  · obtain ⟨rfl, rfl⟩ := hpair
    rw [if_pos ⟨rfl, rfl⟩]
  · rw [if_neg hpair, remaining, remaining]
    simp only [sent_append, delivered_append, sent_singleton, delivered_singleton, Event.sent,
      Event.delivered, List.append_nil]
    rw [if_neg (fun heq => hpair ⟨heq.1.symm, heq.2.symm⟩), List.append_nil]

/-- A trace in which no prefix delivers what was not sent is shown by the run that loses
nothing. -/
theorem run_remaining (tr : List (Event Address Receiver Message))
    (h : ∀ before after, tr = before ++ after → Covered before) :
    Run Step (fun _ _ => 0) (tr.map some) (remaining tr) := by
  induction tr using List.reverseRecOn with
  | nil => exact .nil
  | append_singleton tr e ih =>
      have hrun : Run Step (fun _ _ => 0) (tr.map some) (remaining tr) := by
        apply ih
        intro before after heq
        apply h before (after ++ [e])
        rw [heq, List.append_assoc]
      rw [List.map_append, List.map_singleton]
      cases e with
      | send a m =>
          have hstep : Step (remaining tr) (some (.send a m)) (remaining (tr ++ [.send a m])) := by
            rw [remaining_send (h tr [_] rfl)]
            exact .send a m
          exact hrun.snoc hstep
      | deliver a r m =>
          have hstep := Step.deliver (remaining_deliver (h (tr ++ [.deliver a r m]) [] (by simp)))
          rw [← remaining_deliver_set] at hstep
          exact hrun.snoc hstep

/-- **The traces of the medium.**  At no time more copies of a message were delivered to a
receiver, from an address, than sent from there. -/
theorem accepts_iff (tr : List (Event Address Receiver Message)) :
    Accepts tr ↔ ∀ before after, tr = before ++ after → Covered before := by
  constructor
  · rintro ⟨labels, medium, hrun, hlabels⟩ before after heq address receiver message
    rw [heq, List.reduceOption, List.filterMap_eq_append_iff] at hlabels
    obtain ⟨labels₁, labels₂, rfl, rfl, -⟩ := hlabels
    obtain ⟨medium', hbefore, -⟩ := hrun.split
    have hcount := count_le hbefore address receiver message
    rw [List.reduceOption] at hcount
    omega
  · intro h
    refine ⟨tr.map some, remaining tr, run_remaining tr h, ?_⟩
    rw [List.reduceOption, List.filterMap_map]
    exact List.filterMap_some

/-! ## Receivers -/

def Event.received (receiver : Receiver) : Event Address Receiver Message → List Message
  | .send .. => []
  | .deliver _ r message => if r = receiver then [message] else []

/-- The messages delivered to a receiver from any address. -/
def received (receiver : Receiver) (tr : List (Event Address Receiver Message)) : List Message :=
  tr.flatMap (Event.received receiver)

theorem count_received_eq {receiver : Receiver} {tr : List (Event Address Receiver Message)}
    {addresses : Finset Address}
    (haddresses : ∀ address message, .deliver address receiver message ∈ tr →
      address ∈ addresses) (message : Message) :
    (received receiver tr).count message =
      ∑ address ∈ addresses, (delivered address receiver tr).count message := by
  induction tr with
  | nil => exact (Finset.sum_eq_zero fun _ _ => rfl).symm
  | cons e tr ih =>
      have hrest := ih fun address m hm => haddresses address m (List.mem_cons_of_mem e hm)
      have hfirst : (e.received receiver).count message =
          ∑ address ∈ addresses, (e.delivered address receiver).count message := by
        cases e with
        | send a m => exact (Finset.sum_eq_zero fun _ _ => rfl).symm
        | deliver a r m =>
            simp only [Event.received, Event.delivered]
            by_cases hr : r = receiver
            · subst hr
              have hmem := haddresses a m List.mem_cons_self
              rw [if_pos rfl, Finset.sum_eq_single_of_mem a hmem, if_pos ⟨rfl, rfl⟩]
              intro b _ hb
              rw [if_neg (fun heq => hb heq.1.symm), List.count_nil]
            · rw [if_neg hr]
              refine (Finset.sum_eq_zero fun b _ => ?_).symm
              rw [if_neg (fun heq => hr heq.2), List.count_nil]
      have hreceived : received receiver (e :: tr) = e.received receiver ++ received receiver tr :=
        rfl
      rw [hreceived, List.count_append, hfirst, hrest, ← Finset.sum_add_distrib]
      refine Finset.sum_congr rfl fun address _ => ?_
      rw [← List.count_append]
      rfl

/-- A receiver gets no message more often than it was sent from the addresses it hears. -/
theorem count_received_le {receiver : Receiver} {tr : List (Event Address Receiver Message)}
    {addresses : Finset Address} (h : Covered tr)
    (haddresses : ∀ address message, .deliver address receiver message ∈ tr →
      address ∈ addresses) (message : Message) :
    (received receiver tr).count message ≤
      ∑ address ∈ addresses, (sent address tr).count message := by
  rw [count_received_eq haddresses]
  exact Finset.sum_le_sum fun address _ => h address receiver message

end LossyBroadcast
