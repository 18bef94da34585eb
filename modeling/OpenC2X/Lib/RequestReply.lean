import OpenC2X.Lib.Interleaving
import Mathlib.Algebra.BigOperators.Ring.List

/-!
# Requests with a timeout

Threads send requests to a server through clients, and wait for the reply for some time.  A client
has one socket at a time and a mutex that is held during a call, and every call makes a new socket.
So a reply that comes too late is for nobody.

The server works on a request in steps, and other threads change its state in between.

* `exists_serve_of_returned`: what a call returns is the reply to its own request, made at some
  time during the call.
* `exists_serves_of_returned`: the reply to a call that follows another one is made later.
* `steps_add_remaining` and `exists_step_of_calls`: a call takes three steps, and as long as there
  is a call of a client, one of them can go on.
-/

namespace RequestReply

open Interleaving

variable {Tid Client Query Reply State Task Worker Op : Type*}

/-! ## The actions -/

/-- What the threads do that have the state. -/
structure Service (Query Reply State Task Worker Op : Type*) where
  /-- where the server begins with a request -/
  task : Task
  proceed : Query → Actions State Task Op
  /-- the reply, at the end of the steps -/
  reply : Query → Task → State → Reply → Prop
  /-- a request that ends the server -/
  fail : Query → Task → State → State → Prop
  work : Actions State Worker Op

structure Shared (Client Query Reply State : Type*) where
  /-- whether the mutex of a client is held -/
  mutex : Client → Bool
  /-- the socket of a client -/
  socket : Client → ℕ
  /-- the number of the next socket -/
  next : ℕ
  /-- the requests on the way, with their sockets -/
  requests : List (ℕ × Query)
  replies : List (ℕ × Reply)
  /-- the state of the server -/
  state : State

inductive Local (Client Query Reply Task Worker : Type*)
  | idle
  | calling (client : Client) (query : Query)
  | locked (client : Client) (query : Query)
  | waiting (client : Client) (query : Query)
  /-- the server without a request -/
  | listening
  | serving (socket : ℕ) (query : Query) (task : Task)
  | replying (socket : ℕ) (reply : Reply)
  /-- the server that a request has ended -/
  | stopped
  /-- another thread that changes the state of the server -/
  | working (worker : Worker)

inductive Event (Client Query Reply Op : Type*)
  | call (client : Client) (query : Query)
  | lock (client : Client)
  | send (client : Client) (query : Query) (socket : ℕ)
  | returned (client : Client) (query : Query) (socket : ℕ) (reply : Reply)
  | timeout (client : Client) (query : Query)
  | receive (socket : ℕ) (query : Query)
  | serve (socket : ℕ) (query : Query) (reply : Reply)
  | stop (query : Query)
  | reply (socket : ℕ) (reply : Reply)
  /-- a step of the server or of another thread that has the state -/
  | work (op : Op)

/-- The parts that threads play. -/
inductive Role (Worker : Type*)
  | caller
  | server
  | worker (worker : Worker)

def Role.local : Role Worker → Local Client Query Reply Task Worker
  | caller => .idle
  | server => .listening
  | worker w => .working w

section

variable [DecidableEq Client] (service : Service Query Reply State Task Worker Op)

/-- A request may end the server.  Requests and replies that never arrive stay on the way. -/
inductive Act : Actions (Shared Client Query Reply State) (Local Client Query Reply Task Worker)
    (Event Client Query Reply Op)
  | call {s : Shared Client Query Reply State} (client : Client) (query : Query) :
      Act s .idle (.call client query) s (.calling client query)
  | lock {s : Shared Client Query Reply State} {client : Client} {query : Query}
      (hfree : s.mutex client = false) :
      Act s (.calling client query) (.lock client)
        { s with mutex := Function.update s.mutex client true } (.locked client query)
  | send {s : Shared Client Query Reply State} {client : Client} {query : Query} :
      Act s (.locked client query) (.send client query s.next)
        { s with
          socket := Function.update s.socket client s.next
          next := s.next + 1
          requests := s.requests ++ [(s.next, query)] }
        (.waiting client query)
  | returned {s : Shared Client Query Reply State} {client : Client} {query : Query}
      {before after : List (ℕ × Reply)} {reply : Reply}
      (hreply : s.replies = before ++ (s.socket client, reply) :: after) :
      Act s (.waiting client query) (.returned client query (s.socket client) reply)
        { s with
          mutex := Function.update s.mutex client false
          replies := before ++ after }
        .idle
  | timeout {s : Shared Client Query Reply State} {client : Client} {query : Query} :
      Act s (.waiting client query) (.timeout client query)
        { s with mutex := Function.update s.mutex client false } .idle
  | receive {s : Shared Client Query Reply State} {before after : List (ℕ × Query)} {socket : ℕ}
      {query : Query} (hrequest : s.requests = before ++ (socket, query) :: after) :
      Act s .listening (.receive socket query) { s with requests := before ++ after }
        (.serving socket query service.task)
  | proceed {s : Shared Client Query Reply State} {socket : ℕ} {query : Query} {task task' : Task}
      {op : Op} {state : State} (hproceed : service.proceed query s.state task op state task') :
      Act s (.serving socket query task) (.work op) { s with state := state }
        (.serving socket query task')
  | serve {s : Shared Client Query Reply State} {socket : ℕ} {query : Query} {task : Task}
      {reply : Reply} (hreply : service.reply query task s.state reply) :
      Act s (.serving socket query task) (.serve socket query reply) s (.replying socket reply)
  | stop {s : Shared Client Query Reply State} {socket : ℕ} {query : Query} {task : Task}
      {state : State} (hfail : service.fail query task s.state state) :
      Act s (.serving socket query task) (.stop query) { s with state := state } .stopped
  | reply {s : Shared Client Query Reply State} {socket : ℕ} {reply : Reply} :
      Act s (.replying socket reply) (.reply socket reply)
        { s with replies := s.replies ++ [(socket, reply)] } .listening
  | work {s : Shared Client Query Reply State} {worker worker' : Worker} {op : Op} {state : State}
      (hwork : service.work s.state worker op state worker') :
      Act s (.working worker) (.work op) { s with state := state } (.working worker')

def start (role : Tid → Role Worker) (state : State) :
    Config Tid (Shared Client Query Reply State) (Local Client Query Reply Task Worker) where
  shared :=
    { mutex := fun _ => false
      socket := fun _ => 0
      next := 0
      requests := []
      replies := []
      state := state }
  locals t := (role t).local

end

/-! ## The mutex -/

/-- The thread holds the mutex of the client. -/
def Local.Holds (client : Client) : Local Client Query Reply Task Worker → Prop
  | locked client' _ | waiting client' _ => client' = client
  | _ => False

section

variable [DecidableEq Tid] [DecidableEq Client]
  {service : Service Query Reply State Task Worker Op} {role : Tid → Role Worker} {state : State}
  {tr : Trace Tid (Event Client Query Reply Op)}
  {c : Config Tid (Shared Client Query Reply State) (Local Client Query Reply Task Worker)}

/-- One thread at most holds the mutex of a client, and none if it is free. -/
structure Exclusive
    (c : Config Tid (Shared Client Query Reply State) (Local Client Query Reply Task Worker)) :
    Prop where
  free : ∀ client t, c.shared.mutex client = false → ¬ (c.locals t).Holds client
  unique : ∀ client t t', (c.locals t).Holds client → (c.locals t').Holds client → t = t'

omit [DecidableEq Client] in
/-- A step at which a thread keeps what it holds. -/
theorem Exclusive.keep (h : Exclusive c) {t : Tid} {s : Shared Client Query Reply State}
    {l : Local Client Query Reply Task Worker} (hmutex : s.mutex = c.shared.mutex)
    (hkeep : ∀ client, l.Holds client → (c.locals t).Holds client) :
    Exclusive ⟨s, Function.update c.locals t l⟩ := by
  have hbefore : ∀ client u, (Function.update c.locals t l u).Holds client →
      (c.locals u).Holds client := by
    intro client u hu
    rw [Function.update_apply] at hu
    split at hu
    next hut => exact hut ▸ hkeep client hu
    next => exact hu
  constructor
  · intro client u hfree hu
    rw [hmutex] at hfree
    exact h.free client u hfree (hbefore client u hu)
  · intro client u u' hu hu'
    exact h.unique client u u' (hbefore client u hu) (hbefore client u' hu')

/-- A thread gives the mutex back. -/
theorem Exclusive.unlock (h : Exclusive c) {t : Tid} {client : Client}
    {s : Shared Client Query Reply State}
    (hmutex : s.mutex = Function.update c.shared.mutex client false)
    (ht : (c.locals t).Holds client) : Exclusive ⟨s, Function.update c.locals t .idle⟩ := by
  have hbefore : ∀ client' u,
      (Function.update c.locals t (.idle : Local Client Query Reply Task Worker) u).Holds client' →
        u ≠ t ∧ (c.locals u).Holds client' := by
    intro client' u hu
    rw [Function.update_apply] at hu
    split at hu
    next => exact absurd hu id
    next hut => exact ⟨hut, hu⟩
  constructor
  · intro client' u hfree hu
    obtain ⟨hut, hu⟩ := hbefore client' u hu
    rw [hmutex, Function.update_apply] at hfree
    split at hfree
    next hsame =>
      subst hsame
      exact hut (h.unique client' u t hu ht)
    next => exact h.free client' u hfree hu
  · intro client' u u' hu hu'
    exact h.unique client' u u' (hbefore client' u hu).2 (hbefore client' u' hu').2

theorem exclusive_of_run (h : Run (Act service) (start role state) tr c) : Exclusive c := by
  refine h.invariant (fun _ c => Exclusive c) ?_ ?_
  · have hstart : ∀ client t,
        ¬ ((role t).local : Local Client Query Reply Task Worker).Holds client := by
      intro client t
      cases role t <;> exact id
    exact ⟨fun client t _ => hstart client t, fun client t _ ht => absurd ht (hstart client t)⟩
  intro tr c t e s l hc hact
  obtain ⟨shared, locals⟩ := c
  dsimp only at hact
  generalize hl : locals t = l₀ at hact
  cases hact with
  | call | receive | proceed | serve | stop | reply | work =>
      exact hc.keep rfl fun _ => False.elim
  | @send _ client query =>
      refine hc.keep rfl fun client' hholds => ?_
      dsimp only
      rw [hl]
      exact hholds
  | @returned _ client query _ _ _ hreply =>
      have hholds : (locals t).Holds client := by
        rw [hl]
        rfl
      exact hc.unlock rfl hholds
  | @timeout _ client query =>
      have hholds : (locals t).Holds client := by
        rw [hl]
        rfl
      exact hc.unlock rfl hholds
  | @lock _ client query hfree =>
      have hothers : ∀ client' u,
          (Function.update locals t (.locked client query) u).Holds client' →
            u = t ∧ client = client' ∨ (locals u).Holds client' := by
        intro client' u hu
        rw [Function.update_apply] at hu
        split at hu
        next hut => exact .inl ⟨hut, hu⟩
        next => exact .inr hu
      constructor
      · intro client' u hfree' hu
        dsimp only at hfree' hu
        rw [Function.update_apply] at hfree'
        split at hfree'
        next => cases hfree'
        next hne =>
          rcases hothers client' u hu with ⟨-, hsame⟩ | hu
          · exact hne hsame.symm
          · exact hc.free client' u hfree' hu
      · intro client' u u' hu hu'
        rcases hothers client' u hu with ⟨hut, rfl⟩ | hu <;>
          rcases hothers _ u' hu' with ⟨hut', hsame⟩ | hu'
        · exact hut.trans hut'.symm
        · exact absurd hu' (hc.free client u' hfree)
        · subst hsame
          exact absurd hu (hc.free client u hfree)
        · exact hc.unique client' u u' hu hu'

/-! ## The replies -/

namespace Event

/-- The socket that is made. -/
def sockets : Event Client Query Reply Op → List ℕ
  | send _ _ socket => [socket]
  | _ => []

end Event

/-- The query was sent on the socket. -/
def Asked (tr : Trace Tid (Event Client Query Reply Op)) (socket : ℕ) (query : Query) : Prop :=
  ∃ t client, (t, .send client query socket) ∈ tr

/-- The reply was made to a query that had been sent on the socket. -/
def Served (tr : Trace Tid (Event Client Query Reply Op)) (socket : ℕ) (reply : Reply) : Prop :=
  ∃ before t client query middle u after, tr = before ++ (t, .send client query socket) ::
    (middle ++ (u, .serve socket query reply) :: after)

/-- What the trace tells about a thread that is at a place. -/
def Local.Justified (tr : Trace Tid (Event Client Query Reply Op)) (socket : Client → ℕ) (t : Tid) :
    Local Client Query Reply Task Worker → Prop
  | waiting client query => (t, .send client query (socket client)) ∈ tr
  | serving socket query _ => Asked tr socket query
  | replying socket reply => Served tr socket reply
  | _ => True

structure Justified (tr : Trace Tid (Event Client Query Reply Op))
    (c : Config Tid (Shared Client Query Reply State) (Local Client Query Reply Task Worker)) :
    Prop where
  sockets : collect Event.sockets tr = List.range c.shared.next
  locals : ∀ t, (c.locals t).Justified tr c.shared.socket t
  requests : ∀ r ∈ c.shared.requests, Asked tr r.1 r.2
  replies : ∀ r ∈ c.shared.replies, Served tr r.1 r.2

omit [DecidableEq Tid] [DecidableEq Client] in
theorem Asked.append {socket : ℕ} {query : Query} (h : Asked tr socket query)
    (tr' : Trace Tid (Event Client Query Reply Op)) : Asked (tr ++ tr') socket query := by
  obtain ⟨t, client, hsend⟩ := h
  exact ⟨t, client, List.mem_append_left _ hsend⟩

omit [DecidableEq Tid] [DecidableEq Client] in
theorem Served.append {socket : ℕ} {reply : Reply} (h : Served tr socket reply)
    (tr' : Trace Tid (Event Client Query Reply Op)) : Served (tr ++ tr') socket reply := by
  obtain ⟨before, t, client, query, middle, u, after, rfl⟩ := h
  refine ⟨before, t, client, query, middle, u, after ++ tr', ?_⟩
  simp only [List.append_assoc, List.cons_append]

omit [DecidableEq Tid] [DecidableEq Client] in
theorem Asked.answered {socket : ℕ} {query : Query} (h : Asked tr socket query) (u : Tid)
    (reply : Reply) : Served (tr ++ [(u, .serve socket query reply)]) socket reply := by
  obtain ⟨t, client, hsend⟩ := h
  obtain ⟨before, middle, rfl⟩ := List.append_of_mem hsend
  refine ⟨before, t, client, query, middle, u, [], ?_⟩
  simp only [List.append_assoc, List.cons_append]

omit [DecidableEq Tid] [DecidableEq Client] in
theorem Local.Justified.append {l : Local Client Query Reply Task Worker}
    {socket : Client → ℕ} {t : Tid} (h : l.Justified tr socket t)
    (tr' : Trace Tid (Event Client Query Reply Op)) :
    l.Justified (tr ++ tr') socket t := by
  cases l with
  | waiting client query => exact List.mem_append_left _ h
  | serving socket query task => exact Asked.append h tr'
  | replying socket reply => exact Served.append h tr'
  | idle | calling | locked | listening | stopped | working => trivial

omit [DecidableEq Tid] in
/-- A new socket of a client does not matter to a thread without its mutex. -/
theorem Local.Justified.update {l : Local Client Query Reply Task Worker}
    {socket : Client → ℕ} {t : Tid} (h : l.Justified tr socket t)
    {client : Client} (hl : ¬ l.Holds client) (n : ℕ) :
    l.Justified tr (Function.update socket client n) t := by
  cases l with
  | waiting client' query =>
      simp only [Local.Justified, Function.update_of_ne hl]
      exact h
  | serving | replying => exact h
  | idle | calling | locked | listening | stopped | working => trivial

omit [DecidableEq Client] in
/-- A step without a new socket. -/
theorem Justified.keep (h : Justified tr c) {t : Tid} {e : Event Client Query Reply Op}
    {s : Shared Client Query Reply State} {l : Local Client Query Reply Task Worker}
    (he : e.sockets = []) (hnext : s.next = c.shared.next) (hsocket : s.socket = c.shared.socket)
    (hrequests : ∀ r ∈ s.requests, r ∈ c.shared.requests)
    (hreplies : ∀ r ∈ s.replies, r ∈ c.shared.replies ∨ Served tr r.1 r.2)
    (hl : l.Justified (tr ++ [(t, e)]) c.shared.socket t) :
    Justified (tr ++ [(t, e)]) ⟨s, Function.update c.locals t l⟩ where
  sockets := by
    rw [collect_append, collect_singleton, he, List.append_nil, h.sockets, hnext]
  locals := by
    intro u
    dsimp only
    rw [hsocket, Function.update_apply]
    split
    next hut => exact hut ▸ hl
    next => exact (h.locals u).append _
  requests := fun r hr => (h.requests r (hrequests r hr)).append _
  replies := by
    intro r hr
    rcases hreplies r hr with hold | hserved
    · exact (h.replies r hold).append _
    · exact hserved.append _

theorem justified_of_run (h : Run (Act service) (start role state) tr c) : Justified tr c := by
  induction h with
  | nil =>
      refine ⟨rfl, fun t => ?_, fun r hr => ?_, fun r hr => ?_⟩
      · change ((role t).local : Local Client Query Reply Task Worker).Justified _ _ _
        cases role t <;> trivial
      · exact absurd hr List.not_mem_nil
      · exact absurd hr List.not_mem_nil
  | @snoc tr c _ _ hrun hstep hc =>
      have hexclusive := exclusive_of_run hrun
      obtain ⟨shared, locals⟩ := c
      cases hstep with
      | @move t e s l hact =>
      dsimp only at hact
      have hlocal : (locals t).Justified tr shared.socket t := hc.locals t
      generalize hl : locals t = l₀ at hact hlocal
      cases hact with
      | call | lock | stop | work =>
          exact hc.keep rfl rfl rfl (fun _ hr => hr) (fun _ hr => .inl hr) trivial
      | timeout => exact hc.keep rfl rfl rfl (fun _ hr => hr) (fun _ hr => .inl hr) trivial
      | @returned _ _ _ before after reply hreply =>
          -- the other replies stay
          refine hc.keep rfl rfl rfl (fun _ hr => hr) (fun r hr => .inl ?_) trivial
          dsimp only
          rw [hreply]
          exact ((List.sublist_cons_self _ after).append_left before).subset hr
      | @receive _ before after socket query hrequest =>
          -- the server has the request from now on
          have hall : ∀ r ∈ before ++ (socket, query) :: after, Asked tr r.1 r.2 :=
            hrequest ▸ hc.requests
          refine hc.keep rfl rfl rfl (fun r hr => ?_) (fun _ hr => .inl hr) ?_
          · dsimp only
            rw [hrequest]
            exact ((List.sublist_cons_self _ after).append_left before).subset hr
          · have hasked := hall (socket, query) (List.mem_append_right _ List.mem_cons_self)
            exact hasked.append _
      | proceed =>
          exact hc.keep rfl rfl rfl (fun _ hr => hr) (fun _ hr => .inl hr) (Asked.append hlocal _)
      | serve =>
          -- its request justifies the reply
          exact hc.keep rfl rfl rfl (fun _ hr => hr) (fun _ hr => .inl hr) (hlocal.answered t _)
      | @reply _ socket reply =>
          refine hc.keep rfl rfl rfl (fun _ hr => hr) (fun r hr => ?_) trivial
          rcases List.mem_append.mp hr with hold | hlast
          · exact .inl hold
          · obtain rfl := List.mem_singleton.mp hlast
            exact .inr hlocal
      | @send _ client query =>
          refine ⟨?_, fun u => ?_, fun r hr => ?_, fun r hr => (hc.replies r hr).append _⟩
          · rw [collect_append, collect_singleton, hc.sockets]
            exact List.range_succ.symm
          · dsimp only
            rw [Function.update_apply]
            split
            next hut =>
              subst hut
              show (u, _) ∈ _
              rw [Function.update_self]
              exact List.mem_append_right _ (List.mem_singleton_self _)
            next hut =>
              -- only the holder of the mutex waits at the socket of the client
              have hother : ¬ (locals u).Holds client := by
                intro hu
                have ht : (locals t).Holds client := by
                  rw [hl]
                  rfl
                exact hut (hexclusive.unique client u t hu ht)
              exact ((hc.locals u).append _).update hother shared.next
          · rcases List.mem_append.mp hr with hold | hlast
            · exact (hc.requests r hold).append _
            · obtain rfl := List.mem_singleton.mp hlast
              exact ⟨t, client, List.mem_append_right _ (List.mem_singleton_self _)⟩

omit [DecidableEq Tid] [DecidableEq Client] in
/-- A socket is for one call only. -/
theorem send_unique (h : (collect Event.sockets tr).Nodup) {t t' : Tid} {client client' : Client}
    {query query' : Query} {socket : ℕ} (hsend : (t, .send client query socket) ∈ tr)
    (hsend' : (t', .send client' query' socket) ∈ tr) :
    t = t' ∧ client = client' ∧ query = query' := by
  have hdisjoint := (List.nodup_flatMap.mp h).2
  by_contra hne
  have hevents : (t, Event.send client query socket) ≠
      ((t', .send client' query' socket) : Tid × Event Client Query Reply Op) := by
    intro heq
    cases heq
    exact hne ⟨rfl, rfl, rfl⟩
  have : Std.Symm (Function.onFun List.Disjoint
      fun e : Tid × Event Client Query Reply Op => e.2.sockets) := ⟨fun _ _ => List.Disjoint.symm⟩
  exact hdisjoint.forall hsend hsend' hevents (List.mem_singleton_self socket)
    (List.mem_singleton_self socket)

/-- **Replies.**  What a call returns was made of its own query, after it was sent. -/
theorem served_of_returned {first rest : Trace Tid (Event Client Query Reply Op)} {t : Tid}
    {client : Client} {query : Query} {socket : ℕ} {reply : Reply}
    (h : Run (Act service) (start role state)
      (first ++ (t, .returned client query socket reply) :: rest) c) :
    ∃ before middle u after, first = before ++ (t, .send client query socket) ::
      (middle ++ (u, .serve socket query reply) :: after) := by
  obtain ⟨⟨shared, locals⟩, s, l, hrun, hact, -⟩ := h.split_event
  have hjustified := justified_of_run hrun
  have hlocal : (locals t).Justified first shared.socket t := hjustified.locals t
  have hnodup : (collect Event.sockets first).Nodup := hjustified.sockets ▸ List.nodup_range
  dsimp only at hact
  generalize locals t = l₀ at hact hlocal
  cases hact with
  | @returned _ _ _ before after _ hreply =>
      have hall : ∀ r ∈ before ++ (shared.socket client, reply) :: after, Served first r.1 r.2 :=
        hreply ▸ hjustified.replies
      obtain ⟨before, t', client', query', middle, u, after, rfl⟩ :=
        hall (shared.socket client, reply) (List.mem_append_right _ List.mem_cons_self)
      have hsend : (t', Event.send client' query' (shared.socket client)) ∈
          before ++ (t', .send client' query' (shared.socket client)) ::
            (middle ++ (u, .serve (shared.socket client) query' reply) :: after) :=
        List.mem_append_right _ List.mem_cons_self
      obtain ⟨rfl, rfl, rfl⟩ := send_unique hnodup hlocal hsend
      exact ⟨before, middle, u, after, rfl⟩

/-! ## The time of a reply -/

/-- **Calls.**  What a call returns is the reply to its query that was made at some time between
the request and the return. -/
theorem exists_serve_of_returned {first rest : Trace Tid (Event Client Query Reply Op)} {t : Tid}
    {client : Client} {query : Query} {socket : ℕ} {reply : Reply}
    (h : Run (Act service) (start role state)
      (first ++ (t, .returned client query socket reply) :: rest) c) :
    ∃ before middle after c' task,
      first = before ++ (t, .send client query socket) :: (middle ++ after) ∧
      Run (Act service) (start role state) (before ++ (t, .send client query socket) :: middle) c' ∧
      service.reply query task c'.shared.state reply := by
  obtain ⟨before, middle, u, after, rfl⟩ := served_of_returned h
  have hsplit : before ++ (t, .send client query socket) ::
        (middle ++ (u, .serve socket query reply) :: after) ++
          (t, .returned client query socket reply) :: rest =
      (before ++ (t, .send client query socket) :: middle) ++ (u, .serve socket query reply) ::
        (after ++ (t, .returned client query socket reply) :: rest) := by
    simp only [List.append_assoc, List.cons_append]
  rw [hsplit] at h
  obtain ⟨c', s, l, hrun, hact, -⟩ := h.split_event
  generalize c'.locals u = l₀ at hact
  cases hact with
  | serve hreply => exact ⟨before, middle, _, c', _, rfl, hrun, hreply⟩

omit [DecidableEq Tid] [DecidableEq Client] in
/-- The place at which a socket was made. -/
theorem before_send_unique {before before' after after' : Trace Tid (Event Client Query Reply Op)}
    {t : Tid} {client : Client} {query : Query} {socket : ℕ}
    (h : (collect Event.sockets (before ++ (t, .send client query socket) :: after)).Nodup)
    (heq : before ++ (t, .send client query socket) :: after =
      before' ++ (t, .send client query socket) :: after') : before = before' := by
  have hsplit : collect Event.sockets (before ++ (t, .send client query socket) :: after) =
      collect Event.sockets before ++ socket :: collect Event.sockets after :=
    collect_append _ _ _
  rw [hsplit, List.nodup_middle, List.nodup_cons, List.mem_append, not_or] at h
  have hsend : ∀ tr : Trace Tid (Event Client Query Reply Op),
      (t, .send client query socket) ∈ tr → socket ∈ collect Event.sockets tr :=
    fun tr hmem => List.mem_flatMap.mpr ⟨_, hmem, List.mem_singleton_self socket⟩
  exact ((List.append_cons_inj_of_notMem (fun hmem => h.1.1 (hsend before hmem))
    (fun hmem => h.1.2 (hsend after hmem))).mp heq).1

/-- **Calls one after the other.**  The reply to a call that was made when another one had
returned is made later. -/
theorem exists_serves_of_returned {first between during rest :
      Trace Tid (Event Client Query Reply Op)} {t t' : Tid} {client client' : Client}
    {query query' : Query} {socket socket' : ℕ} {reply reply' : Reply}
    (h : Run (Act service) (start role state)
      (first ++ (t, .returned client query socket reply) ::
        (between ++ (t', .send client' query' socket') ::
          (during ++ (t', .returned client' query' socket' reply') :: rest))) c) :
    ∃ earlier later c₁ c₂ task task', earlier <+: first ∧ first <+: later ∧
      later <+: first ++ (t, .returned client query socket reply) ::
        (between ++ (t', .send client' query' socket') :: during) ∧
      Run (Act service) (start role state) earlier c₁ ∧
      service.reply query task c₁.shared.state reply ∧
      Run (Act service) (start role state) later c₂ ∧
      service.reply query' task' c₂.shared.state reply' := by
  obtain ⟨before, middle, after, c₁, task, rfl, hearlier, hreply⟩ := exists_serve_of_returned h
  set first := before ++ (t, .send client query socket) :: (middle ++ after) with hfirst
  have hsplit : first ++ (t, .returned client query socket reply) ::
        (between ++ (t', .send client' query' socket') ::
          (during ++ (t', .returned client' query' socket' reply') :: rest)) =
      (first ++ (t, .returned client query socket reply) :: between ++
        (t', .send client' query' socket') :: during) ++
          (t', .returned client' query' socket' reply') :: rest := by
    simp only [List.append_assoc, List.cons_append]
  rw [hsplit] at h
  obtain ⟨before', middle', after', c₂, task', hall, hlater, hreply'⟩ :=
    exists_serve_of_returned h
  obtain ⟨c', hrun, -⟩ := h.split
  have hnodup := (justified_of_run hrun).sockets ▸ List.nodup_range
  -- the second reply is made after its own request, and so after the first call has returned
  obtain rfl := before_send_unique hnodup hall
  have hduring := List.append_cancel_left hall
  rw [(List.cons_inj_right _).mp hduring]
  refine ⟨_, _, c₁, c₂, task, task', ⟨after, ?_⟩, ?_, ⟨after', ?_⟩, hearlier, hreply, hlater,
    hreply'⟩
  · simp only [hfirst, List.append_assoc, List.cons_append]
  · rw [List.append_assoc]
    exact List.prefix_append _ _
  · simp only [List.append_assoc, List.cons_append]

/-! ## The end of the calls -/

/-- A mutex that is not free is held by a thread. -/
theorem exists_holds_of_run (h : Run (Act service) (start role state) tr c) {client : Client}
    (hmutex : c.shared.mutex client = true) : ∃ t, (c.locals t).Holds client := by
  refine h.invariant
    (fun _ c => ∀ client, c.shared.mutex client = true → ∃ t, (c.locals t).Holds client)
    (fun _ hstart => absurd hstart Bool.false_ne_true) ?_ client hmutex
  intro tr c t e s l hc hact client hmutex
  obtain ⟨shared, locals⟩ := c
  dsimp only at hact hc hmutex ⊢
  generalize hl : locals t = l₀ at hact
  -- the thread that held it holds it still, unless it is the one that moved
  have hkeep : (l₀.Holds client → l.Holds client) → shared.mutex client = true →
      ∃ u, (Function.update locals t l u).Holds client := by
    intro hmoved hbefore
    obtain ⟨u, hu⟩ := hc client hbefore
    refine ⟨u, ?_⟩
    rw [Function.update_apply]
    split
    next hut =>
      rw [hut, hl] at hu
      exact hmoved hu
    next => exact hu
  cases hact with
  | call | receive | proceed | serve | stop | reply | work => exact hkeep False.elim hmutex
  | send => exact hkeep id hmutex
  | @lock _ client' query hfree =>
      by_cases hclient : client = client'
      · refine ⟨t, ?_⟩
        rw [Function.update_self]
        exact hclient.symm
      · dsimp only at hmutex
        rw [Function.update_of_ne hclient] at hmutex
        exact hkeep False.elim hmutex
  | @returned _ client' query _ _ _ _ | @timeout _ client' query =>
      dsimp only at hmutex
      have hclient : client ≠ client' := by
        rintro rfl
        rw [Function.update_self] at hmutex
        cases hmutex
      rw [Function.update_of_ne hclient] at hmutex
      exact hkeep (fun hholds => absurd hholds.symm hclient) hmutex

/-- The thread is in a call of the client. -/
def Local.Calls (client : Client) : Local Client Query Reply Task Worker → Prop
  | calling client' _ | locked client' _ | waiting client' _ => client' = client
  | _ => False

/-- The steps up to the end of a call. -/
def Local.remaining : Local Client Query Reply Task Worker → ℕ
  | calling _ _ => 3
  | locked _ _ => 2
  | waiting _ _ => 1
  | _ => 0

/-- A call begins. -/
def Event.calls : Event Client Query Reply Op → ℕ
  | call _ _ => 1
  | _ => 0

/-- A step of a call. -/
def Event.steps : Event Client Query Reply Op → ℕ
  | lock _ | send _ _ _ | returned _ _ _ _ | timeout _ _ => 1
  | _ => 0

/-- **Termination.**  A call takes three steps. -/
theorem steps_add_remaining [Fintype Tid]
    (h : Run (Act service) (start role state) tr c) :
    total Event.steps tr + ∑ t, (c.locals t).remaining = 3 * total Event.calls tr := by
  have hbalance := h.conservation (fun _ => 0) Local.remaining Event.steps
    (fun e => 3 * e.calls) (by rintro s l e s' l' ⟨⟩ <;> rfl)
  have hstart : ∑ t, ((start role state :
      Config Tid (Shared Client Query Reply State)
        (Local Client Query Reply Task Worker)).locals t).remaining = 0 := by
    refine Finset.sum_eq_zero fun t _ => ?_
    change ((role t).local : Local Client Query Reply Task Worker).remaining = 0
    cases role t <;> rfl
  rw [hstart] at hbalance
  have hcalls : total (fun e : Event Client Query Reply Op => 3 * e.calls) tr =
      3 * total Event.calls tr := List.sum_map_mul_left ..
  rw [hcalls] at hbalance
  omega

/-- A thread with a mutex does not have to wait. -/
theorem exists_step_of_holds {u : Tid} {client : Client}
    (hu : (c.locals u).Holds client) :
    ∃ e c', Step (Act service) c (u, e) c' ∧ e.steps = 1 := by
  cases hl : c.locals u with
  | locked client' query =>
      have hsend := @Act.send _ _ _ _ _ _ _ _ service c.shared client' query
      rw [← hl] at hsend
      exact ⟨_, _, .move hsend, rfl⟩
  | waiting client' query =>
      have htimeout := @Act.timeout _ _ _ _ _ _ _ _ service c.shared client' query
      rw [← hl] at htimeout
      exact ⟨_, _, .move htimeout, rfl⟩
  | _ =>
      rw [hl] at hu
      exact hu.elim

omit [DecidableEq Client] in
theorem Local.Holds.calls {l : Local Client Query Reply Task Worker} {client : Client}
    (h : l.Holds client) : l.Calls client := by
  cases l with
  | locked | waiting => exact h
  | _ => exact h.elim

/-- **Progress.**  While a call of a client has not ended, one of them can go on. -/
theorem exists_step_of_calls (h : Run (Act service) (start role state) tr c) {t : Tid}
    {client : Client} (ht : (c.locals t).Calls client) :
    ∃ u e c', (c.locals u).Calls client ∧ Step (Act service) c (u, e) c' ∧ e.steps = 1 := by
  have hholds : ∀ u, (c.locals u).Holds client → ∃ u e c', (c.locals u).Calls client ∧
      Step (Act service) c (u, e) c' ∧ e.steps = 1 := by
    intro u hu
    obtain ⟨e, c', hstep, hsteps⟩ := exists_step_of_holds hu
    exact ⟨u, e, c', hu.calls, hstep, hsteps⟩
  cases hl : c.locals t with
  | calling client' query =>
      rw [hl] at ht
      obtain rfl : client' = client := ht
      cases hmutex : c.shared.mutex client' with
      | false =>
          have hlock := @Act.lock _ _ _ _ _ _ _ _ service c.shared client' query hmutex
          rw [← hl] at hlock
          refine ⟨t, _, _, ?_, .move hlock, rfl⟩
          rw [hl]
          rfl
      | true =>
          obtain ⟨u, hu⟩ := exists_holds_of_run h hmutex
          exact hholds u hu
  | locked | waiting =>
      refine hholds t ?_
      rw [hl] at ht ⊢
      exact ht
  | _ =>
      rw [hl] at ht
      exact ht.elim

/-! ## A call that is answered -/

/-- A call up to its reply, for which the server takes one step. -/
def callTrace (t u : Tid) (client : Client) (query : Query) (socket : ℕ) (op : Op)
    (reply : Reply) : Trace Tid (Event Client Query Reply Op) :=
  [(t, .call client query), (t, .lock client), (t, .send client query socket),
   (u, .receive socket query), (u, .work op), (u, .serve socket query reply),
   (u, .reply socket reply)]

/-- Whatever is on the way, a call can be answered if nobody is in the way. -/
theorem exists_callTrace_run {t u : Tid} (htu : t ≠ u) (ht : c.locals t = .idle)
    (hu : c.locals u = .listening) {client : Client} (hfree : c.shared.mutex client = false)
    {query : Query} {reply : Reply} {op : Op} {task : Task} {state' : State}
    (hproceed : service.proceed query c.shared.state service.task op state' task)
    (hreply : service.reply query task state' reply) :
    ∃ c', Run (Act service) c (callTrace t u client query c.shared.next op reply ++
        [(t, .returned client query c.shared.next reply)]) c' ∧
      c'.locals = c.locals ∧ c'.shared.mutex = c.shared.mutex ∧
      c'.shared.next = c.shared.next + 1 ∧ c'.shared.state = state' := by
  have hut : u ≠ t := Ne.symm htu
  have hcall : Run (Act service) c _ _ := Run.nil.move t ht (.call client query)
  have hlock := hcall.move t (Function.update_self ..) (.lock hfree)
  have hsend := hlock.move t (Function.update_self ..) .send
  have hlistening : Function.update (Function.update (Function.update c.locals t
      (.calling client query)) t (.locked client query)) t (.waiting client query) u =
        .listening := by
    simp only [Function.update_of_ne hut, hu]
  have hreceive := hsend.move u hlistening
    (@Act.receive _ _ _ _ _ _ _ _ service _ c.shared.requests [] c.shared.next query rfl)
  have hproceeded := hreceive.move u (Function.update_self ..) (.proceed hproceed)
  have hserved := hproceeded.move u (Function.update_self ..) (.serve hreply)
  have hreplied := hserved.move u (Function.update_self ..) .reply
  have hwaiting : Function.update (Function.update (Function.update (Function.update
      (Function.update (Function.update (Function.update c.locals t (.calling client query)) t
        (.locked client query)) t (.waiting client query)) u
          (.serving c.shared.next query service.task)) u (.serving c.shared.next query task)) u
            (.replying c.shared.next reply)) u .listening t = .waiting client query := by
    simp only [Function.update_of_ne htu, Function.update_self]
  have hsocket : Function.update c.shared.socket client c.shared.next client = c.shared.next :=
    Function.update_self ..
  have hreturned := hreplied.move t hwaiting (@Act.returned _ _ _ _ _ _ _ _ service _ client query
    c.shared.replies [] reply (by simp only [hsocket]))
  simp only [hsocket] at hreturned
  refine ⟨_, hreturned, funext fun v => ?_, funext fun client' => ?_, rfl, rfl⟩
  · dsimp only
    by_cases hvt : v = t
    · rw [hvt, Function.update_self, ht]
    · rw [Function.update_of_ne hvt]
      by_cases hvu : v = u
      · rw [hvu, Function.update_self, hu]
      · simp only [Function.update_of_ne hvt, Function.update_of_ne hvu]
  · dsimp only
    by_cases hclient : client' = client
    · rw [hclient, Function.update_self, hfree]
    · simp only [Function.update_of_ne hclient]

end

end RequestReply
