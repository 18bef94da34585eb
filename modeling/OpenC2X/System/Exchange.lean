import OpenC2X.System.Node

/-!
# What the services exchange

All nodes together: a message that is generated gets from the service of one node through the
network into the LDM of another one.

The results are about all runs, in which everything on the way can get lost.  An LDM gets no
message that was not generated, none more often than it should (`stored_le`), and its own ones in
their order (`own_sublist`), as long as the threads of its service do not send to it at the same
time.  No service is ended by a message (`not_crashed`).
-/

namespace OpenC2X.System

open Dcc Ldm LabelledRun

variable {Input S M P : Type*} [Inhabited P]

/-! ## The exchange -/

structure Exchange (N Tid S M P : Type*) where
  network : Network N Tid
  nodes : N → Node S M P

inductive ExchangeEvent (N Tid Input M P : Type*)
  | network (e : NetworkEvent N Tid)
  | node (n : N) (e : NodeEvent Input M P)

variable {N Tid : Type*} [DecidableEq N] [DecidableEq Tid]

/-- The messages of the type that a DCC forwards. -/
def forwardedOf (config : N → NodeConfig) (type : DATA.Kind) (n : N) (e : NetworkEvent N Tid) :
    List Message :=
  (forwardedTo config n e).filter fun message => message.type = type

inductive ExchangeStep (sqlite : Sqlite) (config : N → NodeConfig)
    (service : Service Input S M P) :
    Exchange N Tid S M P → ExchangeEvent N Tid Input M P → Exchange N Tid S M P → Prop
  -- Only the services publish packages of this type.
  | network {x : Exchange N Tid S M P} {e : NetworkEvent N Tid} {network : Network N Tid}
      (h : NetworkStep x.network e network)
      (hother : ∀ data ∈ e.published, data.type ≠ service.type) :
      ExchangeStep sqlite config service x (.network e)
        { network := network
          nodes := fun n => { x.nodes n with
            fromDcc := (x.nodes n).fromDcc ++ forwardedOf config service.type n e } }
  | publish {x : Exchange N Tid S M P} {n : N} {e : NodeEvent Input M P} {node : Node S M P}
      {data : DATA} {network : Network N Tid} (h : NodeStep sqlite service (x.nodes n) e node)
      (hpublished : e.published = [data])
      (hnetwork : NetworkStep x.network (.publish n data) network) :
      ExchangeStep sqlite config service x (.node n e)
        { network := network, nodes := Function.update x.nodes n node }
  | node {x : Exchange N Tid S M P} {n : N} {e : NodeEvent Input M P} {node : Node S M P}
      (h : NodeStep sqlite service (x.nodes n) e node) (hpublished : e.published = [])
      (harrived : e.arrived = []) :
      ExchangeStep sqlite config service x (.node n e)
        { x with nodes := Function.update x.nodes n node }

/-- All processes are started. -/
def exchangeStart (Tid M P : Type*) (config : N → NodeConfig) (mPacket : N → PacketBuffer)
    (start : N → S) (tables : N → Tables) : Exchange N Tid S M P where
  network := networkStart Tid config mPacket
  nodes := fun n => nodeStart M P (start n) (tables n)

/-! ### What an event shows -/

/-- What an event is for a node. -/
def atNode (config : N → NodeConfig) (type : DATA.Kind) (n : N) :
    ExchangeEvent N Tid Input M P → List (NodeEvent Input M P)
  | .network e => [.arrive (forwardedOf config type n e)]
  | .node n' e => if n' = n then [e] else []

/-- What an event does in the network. -/
def onNetwork : ExchangeEvent N Tid Input M P → List (NetworkEvent N Tid)
  | .network e => [e]
  | .node n e => e.published.map (.publish n)

/-- What the service and the LDM of a node do in a run of all nodes. -/
def nodeTrace (config : N → NodeConfig) (service : Service Input S M P) (n : N)
    (tr : List (ExchangeEvent N Tid Input M P)) : List (NodeEvent Input M P) :=
  tr.flatMap (atNode config service.type n)

/-- The messages that the service of a node generates. -/
def generatedAt (config : N → NodeConfig) (service : Service Input S M P) (n : N)
    (tr : List (ExchangeEvent N Tid Input M P)) : List M :=
  (nodeTrace config service n tr).flatMap NodeEvent.generated

/-- The messages that the LDM of a node receives. -/
def storedAt (config : N → NodeConfig) (service : Service Input S M P) (n : N)
    (tr : List (ExchangeEvent N Tid Input M P)) : List P :=
  (nodeTrace config service n tr).flatMap NodeEvent.stored

/-- What the threads of the LDM of a node do. -/
def ldmTrace (config : N → NodeConfig) (service : Service Input S M P) (n : N)
    (tr : List (ExchangeEvent N Tid Input M P)) : LdmTrace :=
  (nodeTrace config service n tr).flatMap (NodeEvent.onLdm service)

variable {sqlite : Sqlite} {config : N → NodeConfig} {mPacket : N → PacketBuffer}
  {service : Service Input S M P} {start : N → S} {tables : N → Tables}
  {x x' : Exchange N Tid S M P} {e : ExchangeEvent N Tid Input M P}
  {tr : List (ExchangeEvent N Tid Input M P)}

omit [Inhabited P] [DecidableEq Tid] in
theorem nodeTrace_append (n : N) (tr tr' : List (ExchangeEvent N Tid Input M P)) :
    nodeTrace config service n (tr ++ tr') =
      nodeTrace config service n tr ++ nodeTrace config service n tr' := List.flatMap_append

/-! ## Packages -/

/-- The message in a package of the own type. -/
def Service.read (service : Service Input S M P) (message : Message) : Option M :=
  if message.type = service.type then service.decode message.content else none

/-- The packages of the own type that are published carry the messages generated. -/
theorem step_published (hlawful : service.Lawful) (n : N)
    (h : ExchangeStep sqlite config service x e x') :
    ((onNetwork e).flatMap (byNode NetworkEvent.published n)).filterMap
        (fun data => service.read (carried data)) =
      (atNode config service.type n e).flatMap NodeEvent.generated := by
  have hlocal : ∀ {n' : N} {e : NodeEvent Input M P} {node node' : Node S M P},
      NodeStep sqlite service node e node' →
        ((onNetwork (.node n' e : ExchangeEvent N Tid Input M P)).flatMap
            (byNode NetworkEvent.published n)).filterMap
            (fun data => service.read (carried data)) =
          (atNode config service.type n
            (.node n' e : ExchangeEvent N Tid Input M P)).flatMap NodeEvent.generated := by
    intro n' e node node' h
    rw [onNetwork, atNode]
    by_cases hn : n' = n
    · rw [if_pos hn, List.flatMap_singleton]
      cases h with
      | @send i s s' m data _ _ h =>
          have hdata : byNode NetworkEvent.published n (.publish n' data : NetworkEvent N Tid) =
              [data] := byNode_of_eq hn
          have hread : service.read (carried data) = some m := by
            have htype : (carried data).type = service.type := hlawful.type_eq h
            rw [Service.read, if_pos htype]
            exact hlawful.decode_carried h
          rw [NodeEvent.published, List.map_singleton, List.flatMap_singleton, hdata]
          exact List.filterMap_cons_some hread
      | _ => rfl
    · rw [if_neg hn, List.flatMap_nil, List.flatMap_eq_nil_iff.mpr]
      · rfl
      · intro published hpublished
        obtain ⟨data, -, rfl⟩ := List.mem_map.mp hpublished
        exact byNode_of_ne hn
  cases h with
  | @network e network h hother =>
      rw [onNetwork, List.flatMap_singleton, List.filterMap_eq_nil_iff.mpr]
      · rfl
      · intro data hdata
        unfold byNode at hdata
        split at hdata
        next => exact if_neg (hother data hdata)
        next => exact absurd hdata List.not_mem_nil
  | publish h _ _ => exact hlocal h
  | node h _ _ => exact hlocal h

/-! ## Runs -/

/-- A run of the network, in which nobody publishes, goes on beside the services. -/
theorem run_of_network {events : List (NetworkEvent N Tid)} {network' : Network N Tid}
    (hsilent : ∀ e ∈ events, e.published = [])
    (hrun : Run NetworkStep x.network events network') :
    Run (ExchangeStep sqlite config service) x (events.map .network)
      { network := network'
        nodes := fun n => { x.nodes n with
          fromDcc := (x.nodes n).fromDcc ++
            events.flatMap (forwardedOf config service.type n) } } := by
  induction hrun with
  | nil =>
      simp only [List.flatMap_nil, List.append_nil]
      exact .nil
  | @snoc events network network' e _ hstep ih =>
      have hbefore := ih fun e' he' => hsilent e' (List.mem_append_left _ he')
      have hnone : ∀ data ∈ e.published, data.type ≠ service.type := by
        rw [hsilent e (List.mem_append_right _ (List.mem_singleton_self e))]
        exact fun data hdata => absurd hdata List.not_mem_nil
      rw [List.map_append, List.map_singleton]
      simp only [List.flatMap_append, List.flatMap_singleton, ← List.append_assoc]
      exact hbefore.snoc (.network hstep hnone)

/-- A run of a node in which nothing is published goes on beside the others. -/
theorem run_of_node {n : N} {events : List (NodeEvent Input M P)} {node : Node S M P}
    (hlocal : ∀ e ∈ events, e.published = [] ∧ e.arrived = [])
    (h : Run (NodeStep sqlite service) (x.nodes n) events node) :
    Run (ExchangeStep sqlite config service) x (events.map (.node n))
      { x with nodes := Function.update x.nodes n node } := by
  induction h with
  | nil =>
      rw [Function.update_eq_self]
      exact .nil
  | @snoc events node node' e _ hstep ih =>
      have hbefore := ih fun e' he' => hlocal e' (List.mem_append_left _ he')
      obtain ⟨hpublished, harrived⟩ :=
        hlocal e (List.mem_append_right _ (List.mem_singleton_self e))
      have hnode : Function.update x.nodes n node n = node := Function.update_self _ _ _
      have hlast := hbefore.snoc (.node (hnode.symm ▸ hstep) hpublished harrived)
      rw [Function.update_idem] at hlast
      rw [List.map_append, List.map_singleton]
      exact hlast

variable (h : Run (ExchangeStep sqlite config service)
  (exchangeStart Tid M P config mPacket start tables) tr x)

include h

theorem run_network :
    Run NetworkStep (networkStart Tid config mPacket) (tr.flatMap onNetwork) x.network := by
  refine h.project Exchange.network onNetwork fun x e x' hstep => ?_
  cases hstep with
  | network h _ => exact .single h
  | publish _ hpublished hnetwork =>
      rw [onNetwork, hpublished]
      exact .single hnetwork
  | node _ hpublished _ =>
      rw [onNetwork, hpublished]
      exact .nil

omit h in
/-- What a step is at a node. -/
theorem step_node (hstep : ExchangeStep sqlite config service x e x') (n : N) :
    Run (NodeStep sqlite service) (x.nodes n) (atNode config service.type n e) (x'.nodes n) := by
  have hlocal : ∀ {n' : N} {e : NodeEvent Input M P} {node : Node S M P},
      NodeStep sqlite service (x.nodes n') e node →
        Run (NodeStep sqlite service) (x.nodes n)
          (atNode config service.type n (.node n' e : ExchangeEvent N Tid Input M P))
          (Function.update x.nodes n' node n) := by
    intro n' e node h
    rw [atNode]
    by_cases hn : n' = n
    · subst hn
      rw [if_pos rfl, Function.update_self]
      exact .single h
    · rw [if_neg hn, Function.update_of_ne (Ne.symm hn)]
      exact .nil
  cases hstep with
  | network _ _ => exact .single (.arrive _ _)
  | publish h _ _ => exact hlocal h
  | node h _ _ => exact hlocal h

/-- What happens at a node. -/
theorem run_node (n : N) :
    Run (NodeStep sqlite service) (nodeStart M P (start n) (tables n))
      (nodeTrace config service n tr) (x.nodes n) :=
  h.project (fun x => x.nodes n) (atNode config service.type n) fun _ _ _ hstep =>
    step_node hstep n

theorem run_published (hlawful : service.Lawful) (n : N) :
    ((tr.flatMap onNetwork).flatMap (byNode NetworkEvent.published n)).filterMap
      (fun data => service.read (carried data)) = generatedAt config service n tr := by
  refine h.invariant (fun tr _ =>
    ((tr.flatMap onNetwork).flatMap (byNode NetworkEvent.published n)).filterMap
      (fun data => service.read (carried data)) = generatedAt config service n tr) rfl ?_
  intro tr x e x' hinv hstep
  have hone := step_published hlawful n hstep
  rw [generatedAt] at hinv ⊢
  simp only [nodeTrace_append, List.flatMap_append, List.flatMap_singleton,
    List.filterMap_append]
  rw [hinv, hone, nodeTrace, nodeTrace, List.flatMap_singleton]

/-- What arrives at a service is what was forwarded to it. -/
theorem arrived_eq (n : N) :
    (nodeTrace config service n tr).flatMap NodeEvent.arrived =
      (tr.flatMap onNetwork).flatMap (forwardedOf config service.type n) := by
  refine h.invariant (fun tr _ => (nodeTrace config service n tr).flatMap NodeEvent.arrived =
    (tr.flatMap onNetwork).flatMap (forwardedOf config service.type n)) rfl ?_
  intro tr x e x' hinv hstep
  rw [nodeTrace_append, List.flatMap_append, List.flatMap_append, List.flatMap_append, hinv,
    List.flatMap_singleton]
  congr 1
  have hlocal : ∀ {n' : N} {e : NodeEvent Input M P}, e.arrived = [] →
      (nodeTrace config service n
        [(.node n' e : ExchangeEvent N Tid Input M P)]).flatMap NodeEvent.arrived = [] := by
    intro n' e harrived
    rw [nodeTrace, List.flatMap_singleton, atNode]
    split
    next => rw [List.flatMap_singleton, harrived]
    next => rfl
  cases hstep with
  | @network e network _ _ =>
      rw [nodeTrace, List.flatMap_singleton, atNode, onNetwork, List.flatMap_singleton,
        List.flatMap_singleton]
      rfl
  | @publish n' e node data network h hpublished _ =>
      have harrived : e.arrived = [] := by
        cases h <;> first | rfl | cases hpublished
      rw [hlocal harrived, onNetwork, hpublished]
      rfl
  | @node n' e node _ hpublished harrived =>
      rw [hlocal harrived, onNetwork, hpublished]
      rfl

omit h [Inhabited P] [DecidableEq N] [DecidableEq Tid] in
theorem filterMap_sum {ι A B : Type*} (f : A → Option B) (g : ι → Multiset A) (s : Finset ι) :
    (∑ i ∈ s, g i).filterMap f = ∑ i ∈ s, (g i).filterMap f := by
  classical
  induction s using Finset.induction_on with
  | empty => rfl
  | insert i s hi ih => rw [Finset.sum_insert hi, Finset.sum_insert hi, Multiset.filterMap_add, ih]

/-- What arrives at a service was generated at the nodes that are heard. -/
theorem arrived_le [Fintype N] [Fintype Tid] (hlawful : service.Lawful) (n : N) :
    (((nodeTrace config service n tr).flatMap NodeEvent.arrived : Multiset Message).filterMap
      fun message => service.decode message.content) ≤
        ∑ m ∈ heard config n, (generatedAt config service m tr : Multiset M) := by
  have harrived : ((nodeTrace config service n tr).flatMap NodeEvent.arrived).filterMap
      (fun message => service.decode message.content) =
        ((tr.flatMap onNetwork).flatMap (forwardedTo config n)).filterMap service.read := by
    rw [arrived_eq h, List.filterMap_flatMap, List.filterMap_flatMap]
    refine List.flatMap_congr fun e _ => ?_
    rw [forwardedOf, List.filterMap_filter]
    refine List.filterMap_congr fun message _ => ?_
    rw [Service.read]
    simp only [decide_eq_true_eq]
  calc (((nodeTrace config service n tr).flatMap NodeEvent.arrived :
        Multiset Message).filterMap fun message => service.decode message.content)
      = ((tr.flatMap onNetwork).flatMap (forwardedTo config n) : Multiset Message).filterMap
          service.read := by rw [Multiset.filterMap_coe, harrived, Multiset.filterMap_coe]
    _ ≤ (∑ m ∈ heard config n, ((tr.flatMap onNetwork).flatMap
          (byNode NetworkEvent.published m) : Multiset DATA).map carried).filterMap service.read :=
        Multiset.filterMap_le_filterMap _ (forwarded_le (run_network h) n)
    _ = ∑ m ∈ heard config n, (generatedAt config service m tr : Multiset M) := by
        rw [filterMap_sum]
        refine Finset.sum_congr rfl fun m _ => ?_
        rw [Multiset.filterMap_map, Multiset.filterMap_coe]
        exact congrArg _ (run_published h hlawful m)

/-- A message that arrives and can be decoded was generated at a node that is heard. -/
theorem mem_arrived [Fintype N] [Fintype Tid] (hlawful : service.Lawful) {n : N}
    {message : Message} {m : M}
    (hmem : message ∈ (nodeTrace config service n tr).flatMap NodeEvent.arrived)
    (hdecode : service.decode message.content = some m) :
    ∃ n' ∈ heard config n, m ∈ generatedAt config service n' tr := by
  have hm : m ∈ ((nodeTrace config service n tr).flatMap NodeEvent.arrived :
      Multiset Message).filterMap fun message => service.decode message.content :=
    (Multiset.mem_filterMap _ _).mpr ⟨message, hmem, hdecode⟩
  obtain ⟨n', hn', hm'⟩ := Multiset.mem_sum.mp (Multiset.mem_of_le (arrived_le h hlawful n) hm)
  exact ⟨n', hn', hm'⟩

/-! ## What the LDM gets -/

/-- **No message is made up or repeated.**  What the LDM of a node gets was generated by the
service of this node, or by those of the nodes it hears, and comes no more often than that. -/
theorem stored_le [Fintype N] [Fintype Tid] (hlawful : service.Lawful) {n : N}
    (hapart : SendsApart (nodeTrace config service n tr)) :
    (storedAt config service n tr : Multiset P) ≤
      (generatedAt config service n tr : Multiset M).filterMap service.convertAsn1toProtoBuf +
        ∑ m ∈ heard config n,
          (generatedAt config service m tr : Multiset M).filterMap
            service.convertAsn1toProtoBuf := by
  have hrun := run_node h n
  set events := nodeTrace config service n tr
  have hpushed := ((List.sublist_append_left _ _).trans (pushed_sublist hrun)).subperm
  have hforwarded := (forwarded_sublist hrun).subperm
  have hreceived := ((List.sublist_append_left _ _).trans (received_sublist hrun)).subperm
  calc (events.flatMap NodeEvent.stored : Multiset P)
      ≤ events.flatMap NodeEvent.put := (stored_sublist hrun hapart).subperm
    _ = (events.flatMap NodeEvent.pushed : Multiset P) + events.flatMap NodeEvent.forwarded := by
        rw [Multiset.coe_add, Multiset.coe_eq_coe]
        exact (List.flatMap_append_perm _ _ _).symm
    _ ≤ (events.flatMap NodeEvent.generated : Multiset M).filterMap service.convertAsn1toProtoBuf +
          (events.flatMap NodeEvent.received : Multiset Message).filterMap service.convert :=
        add_le_add hpushed hforwarded
    _ ≤ (events.flatMap NodeEvent.generated : Multiset M).filterMap service.convertAsn1toProtoBuf +
          ((events.flatMap NodeEvent.arrived : Multiset Message).filterMap fun message =>
            service.decode message.content).filterMap service.convertAsn1toProtoBuf := by
        rw [Multiset.filterMap_filterMap]
        exact add_le_add_right (Multiset.filterMap_le_filterMap _ hreceived) _
    _ ≤ (generatedAt config service n tr : Multiset M).filterMap service.convertAsn1toProtoBuf +
          (∑ m ∈ heard config n, (generatedAt config service m tr : Multiset M)).filterMap
            service.convertAsn1toProtoBuf :=
        add_le_add_right (Multiset.filterMap_le_filterMap _ (arrived_le h hlawful n)) _
    _ = _ := by rw [filterMap_sum]

theorem generatedAt_converts (hlawful : service.Lawful) {n : N} {m : M}
    (hm : m ∈ generatedAt config service n tr) :
    ∃ p, service.convertAsn1toProtoBuf m = some p ∧
      service.stationid p = service.mStationID (start n) :=
  generated_converts (run_node h n) hlawful m hm

/-- What the LDM gets names the station that generated it. -/
theorem exists_of_mem_stored [Fintype N] [Fintype Tid] (hlawful : service.Lawful) {n : N}
    (hapart : SendsApart (nodeTrace config service n tr)) {p : P}
    (hp : p ∈ storedAt config service n tr) :
    ∃ n', (n' = n ∨ n' ∈ heard config n) ∧ service.stationid p = service.mStationID (start n') ∧
      ∃ m ∈ generatedAt config service n' tr, service.convertAsn1toProtoBuf m = some p := by
  have hmem := Multiset.mem_of_le (stored_le h hlawful hapart) hp
  have hgenerated : ∀ n', p ∈ (generatedAt config service n' tr : Multiset M).filterMap
      service.convertAsn1toProtoBuf → service.stationid p = service.mStationID (start n') ∧
        ∃ m ∈ generatedAt config service n' tr, service.convertAsn1toProtoBuf m = some p := by
    intro n' hn'
    obtain ⟨m, hm, hconvert⟩ := (Multiset.mem_filterMap _ _).mp hn'
    obtain ⟨p', hp', hname⟩ := generatedAt_converts h hlawful hm
    obtain rfl := Option.some.inj (hp'.symm.trans hconvert)
    exact ⟨hname, m, hm, hconvert⟩
  rcases Multiset.mem_add.mp hmem with hown | hother
  · exact ⟨n, .inl rfl, hgenerated n hown⟩
  · obtain ⟨n', hn', hp'⟩ := Multiset.mem_sum.mp hother
    exact ⟨n', .inr hn', hgenerated n' hp'⟩

/-- What a service forwards names the station of a node that is heard. -/
theorem stationid_of_mem_forwarded [Fintype N] [Fintype Tid] (hlawful : service.Lawful) {n : N}
    {p : P} (hp : p ∈ (nodeTrace config service n tr).flatMap NodeEvent.forwarded) :
    ∃ n' ∈ heard config n, service.stationid p = service.mStationID (start n') := by
  have hrun := run_node h n
  obtain ⟨message, hmessage, hconvert⟩ :=
    List.mem_filterMap.mp ((forwarded_sublist hrun).subset hp)
  obtain ⟨m, hdecode, hp⟩ := Option.bind_eq_some_iff.mp hconvert
  have harrived := ((List.sublist_append_left _ _).trans (received_sublist hrun)).subset hmessage
  obtain ⟨n', hn', hm⟩ := mem_arrived h hlawful harrived hdecode
  obtain ⟨p', hp', hname⟩ := generatedAt_converts h hlawful hm
  obtain rfl := Option.some.inj (hp'.symm.trans hp)
  exact ⟨n', hn', hname⟩

/-- **The own messages come in order.**  Where no node that is heard has the same station, the
LDM gets the messages of the own station in the order in which they were generated, each at
most once. -/
theorem own_sublist [Fintype N] [Fintype Tid] (hlawful : service.Lawful) {n : N}
    (hapart : SendsApart (nodeTrace config service n tr))
    (hstations : ∀ m ∈ heard config n,
      service.mStationID (start m) ≠ service.mStationID (start n)) :
    ((storedAt config service n tr).filter fun p =>
        service.stationid p = service.mStationID (start n)).Sublist
      ((generatedAt config service n tr).filterMap service.convertAsn1toProtoBuf) := by
  have hrun := run_node h n
  have hother : ∀ e ∈ nodeTrace config service n tr, (e.forwarded.filter fun p =>
      service.stationid p = service.mStationID (start n)) = [] := by
    intro e he
    rw [List.filter_eq_nil_iff]
    intro p hp
    obtain ⟨n', hn', hname⟩ :=
      stationid_of_mem_forwarded h hlawful (List.mem_flatMap.mpr ⟨e, he, hp⟩)
    rw [hname, decide_eq_true_eq]
    exact hstations n' hn'
  calc ((storedAt config service n tr).filter fun p =>
          service.stationid p = service.mStationID (start n))
    List.Sublist _ (((nodeTrace config service n tr).flatMap NodeEvent.put).filter fun p =>
          service.stationid p = service.mStationID (start n)) :=
        (stored_sublist hrun hapart).filter _
    _ = ((nodeTrace config service n tr).flatMap NodeEvent.pushed).filter fun p =>
          service.stationid p = service.mStationID (start n) := by
        rw [List.filter_flatMap, List.filter_flatMap]
        refine List.flatMap_congr fun e he => ?_
        rw [NodeEvent.put, List.filter_append, hother e he, List.append_nil]
    List.Sublist _ ((nodeTrace config service n tr).flatMap NodeEvent.pushed) :=
        List.filter_sublist
    List.Sublist _ ((generatedAt config service n tr).filterMap service.convertAsn1toProtoBuf) :=
        (List.sublist_append_left _ _).trans (pushed_sublist hrun)

/-- **No service is ended by a message.**  All that ends a service is an exception when it
handles its own input. -/
theorem not_crashed [Fintype N] [Fintype Tid] (hlawful : service.Lawful) (n : N) :
    .node n .crash ∉ tr := by
  induction h with
  | nil => exact List.not_mem_nil
  | @snoc tr x x' e hrun hstep ih =>
      intro hmem
      rcases List.mem_append.mp hmem with hold | hnew
      · exact ih hold
      obtain rfl := List.mem_singleton.mp hnew
      have hnode := run_node hrun n
      have hcrash : ∀ {node : Node S M P},
          ¬ NodeStep sqlite service (x.nodes n) .crash node := by
        intro node hstep
        cases hstep with
        | @convertCrash s m _ hgenerating hnone =>
            have hm : m ∈ generatedAt config service n tr :=
              mem_generated_of_converting hnode hgenerating
            obtain ⟨p, hp, -⟩ := generatedAt_converts hrun hlawful hm
            rw [hnone] at hp
            cases hp
        | @receiveCrash s message messages m _ _ hfrom hdecode hnone =>
            have hmessage : message ∈
                (nodeTrace config service n tr).flatMap NodeEvent.arrived := by
              apply (received_sublist hnode).subset
              rw [hfrom]
              exact List.mem_append_right _ List.mem_cons_self
            obtain ⟨n', -, hm⟩ := mem_arrived hrun hlawful hmessage hdecode
            obtain ⟨p, hp, -⟩ := generatedAt_converts hrun hlawful hm
            rw [hnone] at hp
            cases hp
      cases hstep with
      | publish hstep _ _ => exact hcrash hstep
      | node hstep _ _ => exact hcrash hstep

/-! ## What the LDM answers -/

/-- The caches of an LDM have what was put into them last. -/
theorem cached_at (n : N) :
    Cached (cachedMessages (ldmTrace config service n tr)) (x.nodes n).ldm.shared.ldm :=
  cached_of_run (run_nodeLdm (run_node h n))

/-- As long as no request takes a row, what is put into the cache are the messages received. -/
theorem protos_cached (hlawful : service.Lawful) {n : N}
    (hrow : TakesNoRow (ldmTrace config service n tr)) :
    (cachedMessages (ldmTrace config service n tr)).flatMap service.protos =
      storedAt config service n tr := by
  rw [cachedMessages_eq_received hrow]
  exact protos_received (run_node h n) hlawful

omit h

/-- A step of an LDM in a run. -/
theorem exists_step_of_ldm {before after : List (ExchangeEvent N Tid Input M P)} {n : N}
    {t : LdmThread} {e : ServiceEvent}
    (h : Run (ExchangeStep sqlite config service)
      (exchangeStart Tid M P config mPacket start tables)
      (before ++ .node n (.ldm t e) :: after) x) :
    ∃ x₁ ldm, Run (ExchangeStep sqlite config service)
        (exchangeStart Tid M P config mPacket start tables) before x₁ ∧
      Interleaving.Step (LdmAct sqlite) (x₁.nodes n).ldm (t, e) ldm := by
  rw [← List.singleton_append, ← List.append_assoc] at h
  obtain ⟨x₂, hreply, -⟩ := h.split
  obtain ⟨x₁, hbefore, hstep⟩ := hreply.last_step
  cases hstep with
  | publish hstep hpublished _ => cases hpublished
  | node hstep _ _ =>
      cases hstep with
      | ldm hldm _ => exact ⟨x₁, _, hbefore, hldm⟩

/-- The LDM of a node is asked, and finds that it needs no table. -/
def requestAt (Input M P : Type*) (n : N) (received : String × String) :
    List (ExchangeEvent N Tid Input M P) :=
  [.node n (.ldm .receiveRequest (.request received)),
    .node n (.ldm .receiveRequest (.access .test))]

theorem answerAt_run {n : N} {received : String × String}
    (hawaiting : (x.nodes n).ldm.locals .receiveRequest = .awaiting)
    (hneed : (selectOf sqlite received).need (x.nodes n).ldm.shared.ldm = false) :
    ∃ x', Run (ExchangeStep sqlite config service) x
      (requestAt Input M P n received ++ [.node n (.ldm .receiveRequest (.reply received
        ((selectOf sqlite received).reply [] (x.nodes n).ldm.shared.ldm)))]) x' := by
  obtain ⟨ldm, hldm⟩ := answerTrace_run hawaiting hneed
  have hother : ∀ e ∈ answerTrace received
      ((selectOf sqlite received).reply [] (x.nodes n).ldm.shared.ldm),
      e.2.received.flatMap service.protos = [] := by
    simp [answerTrace, ServiceEvent.received, LdmEvent.received]
  refine ⟨_, run_of_node (fun e he => ?_) (run_of_ldm hother hldm)⟩
  obtain ⟨⟨t, e⟩, -, rfl⟩ := List.mem_map.mp he
  exact ⟨rfl, rfl⟩

omit [DecidableEq N] [DecidableEq Tid]

/-! ### A message of the first of two nodes -/

section

variable {start : Bool → S} {tables : Bool → Tables} {i : Input} {s : S} {m : M} {data : DATA}
  {p : P}

/-- The message is sent to DCC, and stored at the first node. -/
def ownTrace (i : Input) (m : M) (data : DATA) (p : P) :
    List (ExchangeEvent Bool Unit Input M P) :=
  .node false (.send i m data) ::
    [.convert m, .push p, .store .envelope (.message p)].map (.node false)

/-- The message gets through the network, and is stored at the second node. -/
def helloTrace (i : Input) (m : M) (data : DATA) (p : P) :
    List (ExchangeEvent Bool Unit Input M P) :=
  ownTrace i m data p ++ ((transitTrace data).map .network ++
    [.receive (carried data), .forward p, .store .envelope (.message p)].map (.node true))

theorem ownTrace_run (h : service.handle i (start false) = some (s, some (m, data)))
    (hconvert : service.convertAsn1toProtoBuf m = some p) {own : LdmConfig}
    (hown : Interleaving.Step (LdmAct sqlite) (ldmStart (tables false))
      (service.receiver, .access (.store (service.ldmMessage p))) own) :
    ∃ x : Exchange Bool Unit S M P, Run (ExchangeStep sqlite twoNodes service)
      (exchangeStart Unit M P twoNodes (fun _ => staleCam) start tables)
      (ownTrace i m data p) x ∧ x.network = published data ∧ (x.nodes false).ldm = own ∧
      x.nodes true = nodeStart M P (start true) (tables true) := by
  obtain ⟨toLdm, hgenerated⟩ := @generated_run _ _ _ _ _ sqlite service s m p _ _ none [] hconvert
    hown
  let first : Exchange Bool Unit S M P :=
    { network := published data
      nodes := Function.update (fun n => nodeStart M P (start n) (tables n)) false
        ⟨some s, .converting m, none, [], .new, ldmStart (tables false)⟩ }
  have hsend : Run (ExchangeStep sqlite twoNodes service)
      (exchangeStart Unit M P twoNodes (fun _ => staleCam) start tables)
      [.node false (.send i m data)] first :=
    .single (.publish (NodeStep.send rfl rfl h) rfl (.publish false data))
  have hfirst : first.nodes false =
      ⟨some s, .converting m, none, [], .new, ldmStart (tables false)⟩ := rfl
  rw [← hfirst] at hgenerated
  have hown : Run (ExchangeStep sqlite twoNodes service) first _ _ :=
    run_of_node (by simp [NodeEvent.published, NodeEvent.arrived]) hgenerated
  exact ⟨_, hsend.append hown, rfl, rfl, rfl⟩

theorem helloTrace_run (hlawful : service.Lawful)
    (h : service.handle i (start false) = some (s, some (m, data)))
    (hconvert : service.convertAsn1toProtoBuf m = some p) (hpriority : data.priority = .AC_BE)
    (hvalid : 6 ≤ data.validuntil) {own other : LdmConfig}
    (hown : Interleaving.Step (LdmAct sqlite) (ldmStart (tables false))
      (service.receiver, .access (.store (service.ldmMessage p))) own)
    (hother : Interleaving.Step (LdmAct sqlite) (ldmStart (tables true))
      (service.receiver, .access (.store (service.ldmMessage p))) other) :
    ∃ x, Run (ExchangeStep sqlite twoNodes service)
      (exchangeStart Unit M P twoNodes (fun _ => staleCam) start tables)
      (helloTrace i m data p) x ∧ (x.nodes true).ldm = other := by
  have hforwarded : (transitTrace data).flatMap (forwardedOf twoNodes service.type true) =
      [carried data] := by
    have htype : (carried data).type = service.type := hlawful.type_eq h
    show (transitTrace data).flatMap (fun e => (forwardedTo twoNodes true e).filter _) = _
    rw [← List.filter_flatMap, forwarded_transitTrace]
    exact List.filter_cons_of_pos (decide_eq_true htype)
  have harrives : service.convert (carried data) = some p := by
    rw [Service.convert, hlawful.decode_carried h, Option.bind_some, hconvert]
  obtain ⟨net, htransit⟩ := transitTrace_run hpriority hvalid
  obtain ⟨toLdm, harrived⟩ := @arrived_run _ _ _ _ _ sqlite service (start true) (carried data) p
    _ _ .idle harrives hother
  obtain ⟨x, hfirst, hpublished, -, hsecond⟩ := @ownTrace_run _ _ _ _ _ sqlite service start tables
    i s m data p h hconvert own hown
  rw [← hpublished] at htransit
  have hnetwork : Run (ExchangeStep sqlite twoNodes service) x _ _ :=
    run_of_network (published_transitTrace data) htransit
  let third : Exchange Bool Unit S M P :=
    { network := net
      nodes := fun n => { x.nodes n with
        fromDcc := (x.nodes n).fromDcc ++
          (transitTrace data).flatMap (forwardedOf twoNodes service.type n) } }
  have hthird : third.nodes true =
      ⟨some (start true), .idle, none, [carried data], .new, ldmStart (tables true)⟩ := by
    dsimp only [third]
    rw [hforwarded, hsecond]
    rfl
  rw [← hthird] at harrived
  have hother : Run (ExchangeStep sqlite twoNodes service) third _ _ :=
    run_of_node (by simp [NodeEvent.published, NodeEvent.arrived]) harrived
  refine ⟨_, hfirst.append (hnetwork.append hother), ?_⟩
  dsimp only
  rw [Function.update_self]

omit [Inhabited P] in
/-- The threads of the first node send nothing else. -/
theorem ownTrace_apart (i : Input) (m : M) (data : DATA) (p : P) :
    SendsApart (nodeTrace twoNodes service false (ownTrace i m data p)) :=
  Multipart.apart_message ServiceThread.generate Part.envelope (.message p)

omit [Inhabited P] in
theorem helloTrace_apart (i : Input) (m : M) (data : DATA) (p : P) :
    SendsApart (nodeTrace twoNodes service true (helloTrace i m data p)) := by
  have hsocket : (nodeTrace twoNodes service true (helloTrace i m data p)).flatMap
      NodeEvent.onSocket = [.sendmore .receive .envelope,
        .send .receive .envelope (.message p), .receive .envelope (.message p)] := rfl
  rw [SendsApart, hsocket]
  exact Multipart.apart_message _ _ _

end

end OpenC2X.System
