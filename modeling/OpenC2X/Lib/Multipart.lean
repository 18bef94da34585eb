import OpenC2X.Lib.LabelledRun
import Mathlib.Data.List.Flatten
import Mathlib.Logic.Function.Basic

/-!
# Messages of two parts through one socket

Threads publish messages of two parts through a socket that they share.  A thread makes two calls
for a message: one sends the first part and says that there is more, and one sends the last part.
The socket does not know whose parts it gets.  A message consists of all parts up to a last one,
and a subscriber gets it, whole or not at all, if its first part matches the subscription.  The
subscriber takes the parts two by two.

Where no thread sends a first part between the two parts of another thread, the messages have two
parts each, and what the subscriber takes are messages that were sent, in their order
(`received_sublist`).
-/

namespace Multipart

open LabelledRun

variable {Tid Part : Type*}

/-! ## The socket -/

structure Socket (Tid Part : Type*) where
  /-- The first part of the message that a thread is sending. -/
  begun : Tid → Option Part
  /-- The parts of a message that has no last part yet. -/
  incomplete : List Part
  /-- The messages on the way to the subscriber. -/
  messages : List (List Part)
  /-- The parts that the subscriber has not taken of its message. -/
  rest : List Part

def Socket.new : Socket Tid Part := ⟨fun _ => none, [], [], []⟩

/-- The next part for the subscriber, who waits if there is none. -/
def Socket.recv (s : Socket Tid Part) : Option (Part × Socket Tid Part) :=
  match s.rest, s.messages with
  | part :: rest, _ => some (part, { s with rest := rest })
  | [], (part :: rest) :: messages => some (part, { s with messages := messages, rest := rest })
  | [], _ => none

inductive Event (Tid Part : Type*)
  | sendmore (t : Tid) (first : Part)
  | send (t : Tid) (first last : Part)
  | lose
  | receive (first last : Part)
  deriving DecidableEq, Repr

section

variable [DecidableEq Tid] (subscribed : Part → Bool)

/-- A message that is complete, for a subscriber. -/
def delivered (message : List Part) : List (List Part) :=
  if message.head?.any subscribed then [message] else []

inductive Step : Steps (Socket Tid Part) (Event Tid Part)
  | sendmore {s : Socket Tid Part} {t : Tid} (first : Part) (h : s.begun t = none) :
      Step s (.sendmore t first)
        { s with
          begun := Function.update s.begun t (some first)
          incomplete := s.incomplete ++ [first] }
  | send {s : Socket Tid Part} {t : Tid} {first : Part} (last : Part)
      (h : s.begun t = some first) :
      Step s (.send t first last)
        { s with
          begun := Function.update s.begun t none
          incomplete := []
          messages := s.messages ++ delivered subscribed (s.incomplete ++ [last]) }
  | lose {s : Socket Tid Part} {before after : List (List Part)} {message : List Part}
      (h : s.messages = before ++ message :: after) :
      Step s .lose { s with messages := before ++ after }
  | receive {s s₁ s₂ : Socket Tid Part} {first last : Part} (hfirst : s.recv = some (first, s₁))
      (hlast : s₁.recv = some (last, s₂)) : Step s (.receive first last) s₂

end

/-! ## What a trace tells -/

namespace Event

def isSendmore : Event Tid Part → Bool
  | sendmore .. => true
  | _ => false

def isSend : Event Tid Part → Bool
  | send .. => true
  | _ => false

/-- The last part of a message that is sent for the subscriber. -/
def sent (subscribed : Part → Bool) : Event Tid Part → List Part
  | send _ first last => if subscribed first then [last] else []
  | _ => []

/-- The part that the subscriber takes for the last one of a message. -/
def received : Event Tid Part → List Part
  | receive _ last => [last]
  | _ => []

end Event

/-- Every message that was begun is complete. -/
def Complete (tr : List (Event Tid Part)) : Prop :=
  tr.countP Event.isSendmore = tr.countP Event.isSend

/-- A message is only begun when those before it are complete. -/
def Apart (tr : List (Event Tid Part)) : Prop :=
  ∀ before t first after, tr = before ++ .sendmore t first :: after → Complete before

theorem Apart.of_append {tr tr' : List (Event Tid Part)} (h : Apart (tr ++ tr')) : Apart tr := by
  rintro before t first after rfl
  exact h before t first (after ++ tr') (by simp)

theorem Apart.complete {tr : List (Event Tid Part)} {t : Tid} {first : Part}
    (h : Apart (tr ++ [.sendmore t first])) : Complete tr := h tr t first [] rfl

theorem apart_nil : Apart ([] : List (Event Tid Part)) :=
  fun _ _ _ _ h => absurd h.symm (List.append_ne_nil_of_right_ne_nil _ (List.cons_ne_nil _ _))

theorem Apart.concat {tr : List (Event Tid Part)} (h : Apart tr) {e : Event Tid Part}
    (he : e.isSendmore = true → Complete tr) : Apart (tr ++ [e]) := by
  intro before t first after heq
  rcases List.eq_nil_or_concat after with rfl | ⟨after, last, rfl⟩
  · obtain ⟨rfl, hlast⟩ := List.append_inj' heq rfl
    obtain rfl := List.singleton_inj.mp hlast
    exact he rfl
  · rw [List.concat_eq_append, ← List.cons_append, ← List.append_assoc] at heq
    exact h before t first after (List.append_inj_left' heq rfl)

/-- A message alone. -/
theorem apart_message (t : Tid) (first last : Part) :
    Apart [.sendmore t first, .send t first last, .receive first last] := by
  have hsendmore : Apart [Event.sendmore t first] := apart_nil.concat fun _ => rfl
  have hsend : Apart [.sendmore t first, .send t first last] := hsendmore.concat nofun
  exact hsend.concat nofun

/-! ## Whole messages -/

section

variable [DecidableEq Tid] {subscribed : Part → Bool} {tr : List (Event Tid Part)}
  {s s' : Socket Tid Part} {e : Event Tid Part}

/-- The last parts of the messages on the way. -/
def Socket.lasts (s : Socket Tid Part) : List Part := s.messages.flatMap List.tail

/-- No message is begun, or one by one thread. -/
inductive Sending (s : Socket Tid Part) : Prop
  | nobody (hbegun : ∀ t, s.begun t = none) (hincomplete : s.incomplete = [])
  | one (t : Tid) (first : Part) (hbegun : s.begun = Function.update (fun _ => none) t (some first))
      (hincomplete : s.incomplete = [first])

theorem Sending.of_eq (h : Sending s) (hbegun : s'.begun = s.begun)
    (hincomplete : s'.incomplete = s.incomplete) : Sending s' := by
  cases h with
  | nobody hnone hempty => exact .nobody (hbegun ▸ hnone) (hincomplete.trans hempty)
  | one t first hone hpart => exact .one t first (hbegun.trans hone) (hincomplete.trans hpart)

/-- The thread that has begun a message is the only one. -/
theorem Sending.eq_of_begun (h : Sending s) {t : Tid} {first : Part}
    (hsome : s.begun t = some first) :
    s.begun = Function.update (fun _ => none) t (some first) ∧ s.incomplete = [first] := by
  cases h with
  | nobody hnone _ =>
      rw [hnone t] at hsome
      cases hsome
  | one t' first' hone hincomplete =>
      rw [hone] at hsome ⊢
      by_cases ht : t = t'
      · subst ht
        rw [Function.update_self] at hsome
        obtain rfl := Option.some.inj hsome
        exact ⟨rfl, hincomplete⟩
      · rw [Function.update_of_ne ht] at hsome
        cases hsome

/-- All messages have two parts. -/
structure Whole (tr : List (Event Tid Part)) (s : Socket Tid Part) : Prop where
  sending : Sending s
  begun_count : tr.countP Event.isSendmore = tr.countP Event.isSend + s.incomplete.length
  messages : ∀ message ∈ s.messages, ∃ first last, message = [first, last]
  rest : s.rest = []

omit [DecidableEq Tid] in
theorem countP_concat (p : Event Tid Part → Bool) (tr : List (Event Tid Part))
    (e : Event Tid Part) : (tr ++ [e]).countP p = tr.countP p + (p e).toNat := by
  rw [List.countP_append, List.countP_singleton]
  cases p e <;> rfl

/-- The subscriber takes a whole message. -/
theorem Whole.recv {s₁ s₂ : Socket Tid Part} {first last : Part} (h : Whole tr s)
    (hfirst : s.recv = some (first, s₁)) (hlast : s₁.recv = some (last, s₂)) :
    ∃ messages, s.messages = [first, last] :: messages ∧
      s₂ = { s with messages := messages } := by
  unfold Socket.recv at hfirst
  rw [h.rest] at hfirst
  cases hmessages : s.messages with
  | nil =>
      rw [hmessages] at hfirst
      cases hfirst
  | cons message messages =>
      obtain ⟨first', last', rfl⟩ := h.messages message (hmessages ▸ List.mem_cons_self)
      rw [hmessages] at hfirst
      obtain ⟨rfl, rfl⟩ := Prod.mk.inj (Option.some.inj hfirst)
      obtain ⟨rfl, rfl⟩ := Prod.mk.inj (Option.some.inj hlast)
      exact ⟨messages, rfl, by rw [← h.rest]⟩

/-- A step keeps the messages whole, and those on the way in their order. -/
theorem Whole.step (h : Whole tr s) (hstep : Step subscribed s e s') (hapart : Apart (tr ++ [e])) :
    Whole (tr ++ [e]) s' ∧ (e.received ++ s'.lasts).Sublist (s.lasts ++ e.sent subscribed) := by
  have hcount := h.begun_count
  cases hstep with
  | @sendmore _ t first hnone =>
      -- The messages are apart, so that none is begun.
      have hcomplete : tr.countP Event.isSendmore = tr.countP Event.isSend := hapart.complete
      have hincomplete : s.incomplete = [] := List.eq_nil_of_length_eq_zero (by omega)
      have hbegun : s.begun = fun _ => none := by
        cases h.sending with
        | nobody hbegun => exact funext hbegun
        | one _ _ _ hone => rw [hone] at hincomplete; cases hincomplete
      refine ⟨⟨.one t first ?_ ?_, ?_, h.messages, h.rest⟩, List.sublist_append_left _ _⟩
      · rw [hbegun]
      · rw [hincomplete]; rfl
      · rw [countP_concat, countP_concat, hcount, hincomplete]
        rfl
  | @send _ t first last hsome =>
      obtain ⟨hbegun, hincomplete⟩ := h.sending.eq_of_begun hsome
      have hmessage : s.incomplete ++ [last] = [first, last] := by
        rw [hincomplete]
        rfl
      refine ⟨⟨.nobody (fun u => ?_) rfl, ?_, ?_, h.rest⟩, ?_⟩
      · dsimp only
        rw [hbegun, Function.update_idem]
        by_cases hu : u = t
        · rw [hu, Function.update_self]
        · rw [Function.update_of_ne hu]
      · rw [countP_concat, countP_concat, hcount, hincomplete]
        rfl
      · intro message hmem
        rcases List.mem_append.mp hmem with hold | hnew
        · exact h.messages message hold
        · rw [hmessage, delivered] at hnew
          split at hnew
          next => exact ⟨first, last, List.mem_singleton.mp hnew⟩
          next => exact absurd hnew List.not_mem_nil
      · dsimp only [Socket.lasts]
        rw [hmessage, List.flatMap_append, Event.sent, delivered]
        by_cases hsubscribed : subscribed first = true
        · rw [if_pos hsubscribed, if_pos (by simpa using hsubscribed)]
          exact List.Sublist.refl _
        · rw [if_neg hsubscribed, if_neg (by simpa using hsubscribed)]
          exact List.Sublist.refl _
  | @lose _ before after message hmessages =>
      have hsublist : (before ++ after).Sublist s.messages := by
        rw [hmessages]
        exact (List.sublist_cons_self message after).append_left before
      refine ⟨⟨h.sending.of_eq rfl rfl, ?_, fun m hm => h.messages m (hsublist.subset hm),
        h.rest⟩, ?_⟩
      · rw [countP_concat, countP_concat, hcount]
        rfl
      · exact (hsublist.flatMap List.tail).trans (List.sublist_append_left _ _)
  | @receive _ s₁ s₂ first last hfirst hlast =>
      obtain ⟨messages, hmessages, rfl⟩ := h.recv hfirst hlast
      refine ⟨⟨h.sending.of_eq rfl rfl, ?_, fun m hm => h.messages m ?_, h.rest⟩, ?_⟩
      · rw [countP_concat, countP_concat, hcount]
        rfl
      · rw [hmessages]
        exact List.mem_cons_of_mem _ hm
      · have hlasts : s.lasts = last :: messages.flatMap List.tail := by
          rw [Socket.lasts, hmessages]
          rfl
        rw [hlasts]
        exact List.sublist_append_left (last :: messages.flatMap List.tail) []

/-- What was received and what is on the way was sent. -/
theorem received_sublist (h : Run (Step subscribed) (.new : Socket Tid Part) tr s)
    (hapart : Apart tr) :
    (tr.flatMap Event.received).Sublist (tr.flatMap (Event.sent subscribed)) := by
  suffices hall : Whole tr s ∧ (tr.flatMap Event.received ++ s.lasts).Sublist
      (tr.flatMap (Event.sent subscribed)) from (List.sublist_append_left _ _).trans hall.2
  induction h with
  | nil => exact ⟨⟨.nobody (fun _ => rfl) rfl, rfl, fun _ hm => absurd hm List.not_mem_nil, rfl⟩,
      List.Sublist.refl _⟩
  | @snoc tr s s' e _ hstep ih =>
      obtain ⟨hwhole, hsublist⟩ := ih hapart.of_append
      obtain ⟨hwhole', hone⟩ := hwhole.step hstep hapart
      refine ⟨hwhole', ?_⟩
      simp only [List.flatMap_append, List.flatMap_singleton]
      calc (tr.flatMap Event.received ++ e.received) ++ s'.lasts
          = tr.flatMap Event.received ++ (e.received ++ s'.lasts) := List.append_assoc _ _ _
        List.Sublist _ (tr.flatMap Event.received ++ (s.lasts ++ e.sent subscribed)) :=
            hone.append_left _
        _ = (tr.flatMap Event.received ++ s.lasts) ++ e.sent subscribed :=
            (List.append_assoc _ _ _).symm
        List.Sublist _ (tr.flatMap (Event.sent subscribed) ++ e.sent subscribed) :=
            hsublist.append_right _

end

end Multipart
