import ComuFrame.Central.Replies
import ComuFrame.DataBase.Catalogue
import ComuFrame.System.Registration

/-!
# ComuFrame — where Central's database comes from

Central fills its database from texts that it receives in an order nobody chooses: registrations
of several Nodes, repetitions of them after timeouts, requests that come too early. This module
says what is in it all the same.

* `database_of_reachable` — the database is the one that `addPacket` makes of the clients'
  configurations, client after client in the order they were registered in, and in the last loop
  the requests have gone over it once, in the order in which `requestMap` is visited;
* `catalogue_of_reachable` — so it offers what the clients declare and nothing else, in every
  reachable state. Which interleaving has led there does not show, except in the order.
-/

namespace ComuFrame

open Cpp Transition

namespace Deployment

variable {ι : Type} (D : Deployment ι) (yaml : YamlCpp)

/-- Node `i` is configured to send the packet that Central knows as `packName`, with these
fields. -/
def Sends (i : ι) (packName : String) (fields : UnorderedMap String String) : Prop :=
  ∃ entries, yaml.pairs (D.config i).sendingPackets = some entries ∧ ∃ entry ∈ entries, ∃ name,
    yaml.asString entry.1 = some name ∧ yaml.asStringMap entry.2 = some fields ∧
      packName = joined name (D.routingId i)

/-- Node `i` is configured to send the datum `dataName` in the packet `packName`. -/
def Declares (i : ι) (packName dataName : String) : Prop :=
  ∃ fields, D.Sends yaml i packName fields ∧
    ∃ field ∈ fields.nodes, joined field.1 field.2 = dataName

end Deployment

namespace Central

/-! ## The calls of a registration -/

/-- The calls of `addPacket` that the loop over the packets of a registration makes. -/
def packetCalls (yaml : YamlCpp) (sender : String) (entries : List (Yaml × Yaml)) :
    List DataBase.Call :=
  entries.filterMap fun entry =>
    (yaml.asString entry.1).map fun name => .addPacket entry.2 sender name

variable {order : HashOrder String} {yaml : YamlCpp} {c c' : Central}
  {sender msgState data : String} {sent : List Multipart} {calls : List DataBase.Call}

/-- Where the loop does not throw, it makes its calls one after the other. -/
theorem addPackets_eq_foldl {entries : List (Yaml × Yaml)} {db db' : DataBase}
    (hadd : addPackets order yaml sender db entries = some db') :
    db' = (packetCalls yaml sender entries).foldl (DataBase.perform order yaml) db := by
  induction entries generalizing db with
  | nil =>
    simp only [addPackets, Option.some.injEq] at hadd
    exact hadd.symm
  | cons entry entries ih =>
    obtain ⟨name, hname, hadd⟩ := Option.bind_eq_some_iff.mp hadd
    obtain ⟨db₁, hdb₁, hadd⟩ := Option.bind_eq_some_iff.mp hadd
    have hcalls : packetCalls yaml sender (entry :: entries)
        = .addPacket entry.2 sender name :: packetCalls yaml sender entries := by
      unfold packetCalls
      rw [List.filterMap_cons_some (b := .addPacket entry.2 sender name) (by rw [hname]; rfl)]
    have hperform : DataBase.perform order yaml db (.addPacket entry.2 sender name) = db₁ := by
      rw [DataBase.perform, hdb₁, Option.getD_some]
    rw [hcalls, List.foldl_cons, hperform]
    exact ih hadd

/-! ## The reply loop -/

theorem replyLoop_fst (db : DataBase) (requests : List (String × List String)) :
    (replyLoop order db requests).1 = db.afterRequests order (requests.map Prod.snd) := by
  induction requests generalizing db with
  | nil => rfl
  | cons request requests ih => exact ih (db.providePackets order request.2).2

/-- The database that a reply was computed on has the catalogue of the first one. -/
theorem frame_of_mem_replyLoop {db : DataBase} {requests : List (String × List String)}
    {reply : Reply} (hreply : reply ∈ (replyLoop order db requests).2) :
    reply.db.avaiablePacks.keys = db.avaiablePacks.keys ∧
    ∀ dataName, reply.db.providers dataName = db.providers dataName := by
  induction requests generalizing db with
  | nil => simp [replyLoop] at hreply
  | cons request requests ih =>
    rcases List.mem_cons.mp hreply with rfl | hrest
    · exact ⟨rfl, fun _ => rfl⟩
    · obtain ⟨hkeys, hproviders⟩ := DataBase.providePackets_frame order db request.2
      obtain ⟨hkeys', hproviders'⟩ := ih hrest
      exact ⟨hkeys'.trans hkeys, fun dataName =>
        (hproviders' dataName).trans (hproviders dataName)⟩

/-! ## The database of Central's thread -/

/-- The thread has made these calls of `addPacket`, and behind the request loop it has answered
everybody on the database they made. -/
structure Compiled (order : HashOrder String) (yaml : YamlCpp) (c : Central)
    (calls : List DataBase.Call) : Prop where
  unanswered : (∀ requestMap toCheckSubscriptions,
    c.phase ≠ .subscribing requestMap toCheckSubscriptions) →
      c.db = DataBase.after order yaml calls
  answered : ∀ requestMap toCheckSubscriptions,
    c.phase = .subscribing requestMap toCheckSubscriptions →
      replyLoop order (DataBase.after order yaml calls) (requestMap.iterate order)
        = (c.db, c.replies)

theorem compiled_init (expectedClient : Nat) : Compiled order yaml (init expectedClient) [] where
  unanswered _ := by
    unfold init registrationHead
    split
    · rfl
    · rfl
  answered _ _ hphase := absurd hphase (phase_init_ne expectedClient _ _)

/-- The requests that the thread has answered, in the order it visits them. -/
def answeredRequests (order : HashOrder String) (c : Central) : List (List String) :=
  match c.phase with
  | .registering _ => []
  | .collecting _ => []
  | .subscribing requestMap _ => (requestMap.iterate order).map Prod.snd

theorem Compiled.db_eq (hcompiled : Compiled order yaml c calls) :
    c.db = (DataBase.after order yaml calls).afterRequests order (c.answeredRequests order) := by
  unfold answeredRequests
  cases hphase : c.phase with
  | registering clients => exact hcompiled.unanswered (by simp [hphase])
  | collecting requestMap => exact hcompiled.unanswered (by simp [hphase])
  | subscribing requestMap toCheckSubscriptions =>
    have hdb : (replyLoop order (DataBase.after order yaml calls) _).1 = _ :=
      replyLoop_fst _ (requestMap.iterate order)
    rw [hcompiled.answered requestMap toCheckSubscriptions hphase] at hdb
    exact hdb

/-- Answers leave the catalogue as the registrations have made it. -/
theorem Compiled.frame (hcompiled : Compiled order yaml c calls) :
    c.db.avaiablePacks.keys = (DataBase.after order yaml calls).avaiablePacks.keys ∧
    ∀ dataName, c.db.providers dataName
      = (DataBase.after order yaml calls).providers dataName := by
  rw [hcompiled.db_eq]
  exact DataBase.afterRequests_frame order _

/-- Before the answers. -/
theorem Compiled.of_unanswered
    (hphase : ∀ requestMap toCheckSubscriptions,
      c.phase ≠ .subscribing requestMap toCheckSubscriptions)
    (hdb : c.db = DataBase.after order yaml calls) : Compiled order yaml c calls :=
  ⟨fun _ => hdb, fun _ _ h => absurd h (hphase _ _)⟩

/-- A client that is added brings the calls of its registration, and no other step makes any. -/
theorem Compiled.moves (hcompiled : Compiled order yaml c calls)
    (hmove : Moves order yaml c sender msgState data c' sent) :
    c'.clients = c.clients ∧ Compiled order yaml c' calls ∨
    c'.clients = c.clients ++ [sender] ∧ sender ∉ c.clients ∧ ∃ YData entries,
      yaml.load data = some YData ∧ yaml.pairs YData = some entries ∧
        Compiled order yaml c' (calls ++ packetCalls yaml sender entries) := by
  -- the database that a registration makes
  have hregisters {clients : List String} {db : DataBase}
      (hphase : c.phase = .registering clients)
      (hdb : registered order yaml c.db sender data = some db) :
      ∃ YData entries, yaml.load data = some YData ∧ yaml.pairs YData = some entries ∧
        db = DataBase.after order yaml (calls ++ packetCalls yaml sender entries) := by
    obtain ⟨YData, entries, hload, hpairs, hadd⟩ := registered_eq_some.mp hdb
    refine ⟨YData, entries, hload, hpairs, ?_⟩
    rw [addPackets_eq_foldl hadd, hcompiled.unanswered (by simp [hphase]), DataBase.after,
      DataBase.after, List.foldl_append]
  cases hmove with
  | confirm => exact .inl ⟨rfl, hcompiled⟩
  | redirect => exact .inl ⟨rfl, hcompiled⟩
  | register clients db hphase hmem hdb hlt =>
    obtain ⟨YData, entries, hload, hpairs, hdb⟩ := hregisters hphase hdb
    rw [clients_registering hphase]
    exact .inr ⟨rfl, hmem, YData, entries, hload, hpairs, .of_unanswered (by simp) hdb⟩
  | registerLast clients db hphase hmem hdb =>
    obtain ⟨YData, entries, hload, hpairs, hdb⟩ := hregisters hphase hdb
    rw [clients_registering hphase]
    exact .inr ⟨rfl, hmem, YData, entries, hload, hpairs, .of_unanswered (by simp) hdb⟩
  | discard => exact .inl ⟨rfl, hcompiled⟩
  | take requestMap names hphase =>
    refine .inl ⟨?_, .of_unanswered (by simp) (hcompiled.unanswered (by simp [hphase]))⟩
    rw [(collecting_eq hphase).2.1]
    rfl
  | takeLast requestMap names hphase =>
    refine .inl ⟨?_, fun h => absurd rfl (h _ _), fun requestMap' toCheckSubscriptions' h => ?_⟩
    · rw [(collecting_eq hphase).2.1]
      rfl
    · -- the reply loop starts from what the registrations have left
      obtain ⟨rfl, -⟩ := Phase.subscribing.inj h
      rw [← hcompiled.unanswered (by simp [hphase])]
      rfl
  | hear requestMap toCheckSubscriptions hphase =>
    refine .inl ⟨?_, fun h => absurd rfl (h _ _), fun requestMap' toCheckSubscriptions' h => ?_⟩
    · rw [(subscribing_eq hphase).2.1]
      rfl
    · obtain ⟨rfl, -⟩ := Phase.subscribing.inj h
      exact hcompiled.answered requestMap toCheckSubscriptions hphase
  | unheard => exact .inl ⟨rfl, hcompiled⟩
  | crash => exact .inl ⟨rfl, hcompiled.unanswered, hcompiled.answered⟩

end Central

namespace System

variable {ι : Type} {D : Deployment ι} {order : HashOrder String} {yaml : YamlCpp}
  {s s' : System ι}

/-- The calls of `addPacket` for the packets of Node `i`. -/
def packetCalls (D : Deployment ι) (yaml : YamlCpp) (i : ι) : List DataBase.Call :=
  Central.packetCalls yaml (D.routingId i) ((yaml.pairs (D.config i).sendingPackets).getD [])

/-- A call for each packet that has a name. -/
theorem mem_packetCalls {i : ι} {call : DataBase.Call} :
    call ∈ packetCalls D yaml i ↔ ∃ entries, yaml.pairs (D.config i).sendingPackets = some entries ∧
      ∃ entry ∈ entries, ∃ name, yaml.asString entry.1 = some name ∧
        call = .addPacket entry.2 (D.routingId i) name := by
  unfold packetCalls Central.packetCalls
  cases hpairs : yaml.pairs (D.config i).sendingPackets with
  | none => simp
  | some entries =>
    simp only [Option.getD_some, List.mem_filterMap, Option.map_eq_some_iff, Option.some.injEq,
      exists_eq_left', eq_comm (a := call)]

theorem adds_packetCalls {i : ι} {packName : String} :
    (∃ call ∈ packetCalls D yaml i, call.Adds yaml packName) ↔
      ∃ fields, D.Sends yaml i packName fields := by
  constructor
  · intro ⟨call, hcall, YPack, sender, name, fields, heq, hfields, hpack⟩
    obtain ⟨entries, hpairs, entry, hentry, name', hname, rfl⟩ := mem_packetCalls.mp hcall
    obtain ⟨rfl, rfl, rfl⟩ := DataBase.Call.addPacket.inj heq
    exact ⟨fields, entries, hpairs, entry, hentry, name', hname, hfields, hpack⟩
  · intro ⟨fields, entries, hpairs, entry, hentry, name, hname, hfields, hpack⟩
    exact ⟨_, mem_packetCalls.mpr ⟨entries, hpairs, entry, hentry, name, hname, rfl⟩,
      _, _, _, fields, rfl, hfields, hpack⟩

/-- What the calls for a Node declare is what the Node declares. -/
theorem declares_packetCalls {i : ι} {packName dataName : String} :
    (∃ call ∈ packetCalls D yaml i, call.Declares yaml packName dataName) ↔
      D.Declares yaml i packName dataName := by
  constructor
  · intro ⟨call, hcall, YPack, sender, name, fields, heq, hfields, hpack, hfield⟩
    obtain ⟨entries, hpairs, entry, hentry, name', hname, rfl⟩ := mem_packetCalls.mp hcall
    obtain ⟨rfl, rfl, rfl⟩ := DataBase.Call.addPacket.inj heq
    exact ⟨fields, ⟨entries, hpairs, entry, hentry, name', hname, hfields, hpack⟩, hfield⟩
  · intro ⟨fields, ⟨entries, hpairs, entry, hentry, name, hname, hfields, hpack⟩, hfield⟩
    exact ⟨_, mem_packetCalls.mpr ⟨entries, hpairs, entry, hentry, name, hname, rfl⟩,
      _, _, _, fields, rfl, hfields, hpack, hfield⟩

/-! ## The database of the system -/

/-- These Nodes are Central's clients, in this order, and its database is made of their
configurations. -/
structure Compiled (D : Deployment ι) (order : HashOrder String) (yaml : YamlCpp) (s : System ι)
    (clients : List ι) : Prop where
  registered : s.central.clients = clients.map D.routingId
  database : s.central.Compiled order yaml (clients.flatMap (packetCalls D yaml))

theorem Compiled.mem_iff {clients : List ι} (hcompiled : Compiled D order yaml s clients)
    {i : ι} : D.routingId i ∈ s.central.clients ↔ i ∈ clients := by
  rw [hcompiled.registered, List.mem_map_of_injective D.distinct]

section Step

variable [DecidableEq ι]

theorem Compiled.steps (hreads : ∀ i, yaml.ReadsBack (D.config i).sendingPackets)
    (hinv : Inv D order yaml s) {clients : List ι} (hcompiled : Compiled D order yaml s clients)
    {e : Event ι} (hsteps : Steps D order yaml s e s') :
    ∃ clients', Compiled D order yaml s' clients' := by
  cases hsteps with
  | act => exact ⟨clients, hcompiled.registered, hcompiled.database⟩
  | deliver => exact ⟨clients, hcompiled.registered, hcompiled.database⟩
  | central i msgState data rest c sent hfault hup hmsgState hmove =>
    rcases hcompiled.database.moves hmove with ⟨hsame, hcentral⟩ | ⟨hpush, hmem, YData, entries,
      hload, hpairs, hcentral⟩
    · exact ⟨clients, hsame.trans hcompiled.registered, hcentral⟩
    · -- what Central has read is what the Node is configured to send
      rw [hinv.data_eq hup hmem, hreads i, Option.some.injEq] at hload
      subst hload
      refine ⟨clients ++ [i], ?_, ?_⟩
      · show c.clients = (clients ++ [i]).map D.routingId
        rw [hpush, hcompiled.registered, List.map_append, List.map_singleton]
      · show c.Compiled order yaml ((clients ++ [i]).flatMap (packetCalls D yaml))
        rw [List.flatMap_append, List.flatMap_singleton, packetCalls, hpairs, Option.getD_some]
        exact hcentral

theorem reachable_compiled (hreads : ∀ i, yaml.ReadsBack (D.config i).sendingPackets)
    (hreach : Reachable D order yaml s) : ∃ clients, Compiled D order yaml s clients := by
  refine hreach.induction (I := fun s => ∃ clients, Compiled D order yaml s clients) ?_ ?_
  · exact ⟨[], by simp [init], Central.compiled_init _⟩
  · intro s e s' hreach hcompiled hstep
    obtain ⟨clients, hcompiled⟩ := hcompiled
    have hinv := reachable_inv hreach
    exact hcompiled.steps hreads hinv (step_steps hinv hstep)

/-- **Where the database comes from.** In every reachable state it is what the `addPacket` calls
for the clients' configurations make of an empty one, client after client in the order of their
registration, and what the requests that have been answered make of that. -/
theorem database_of_reachable (hreads : ∀ i, yaml.ReadsBack (D.config i).sendingPackets)
    (hreach : Reachable D order yaml s) :
    ∃ clients : List ι, s.central.clients = clients.map D.routingId ∧
      s.central.db = (DataBase.after order yaml (clients.flatMap (packetCalls D yaml))).afterRequests
        order (s.central.answeredRequests order) := by
  obtain ⟨clients, hcompiled⟩ := reachable_compiled hreads hreach
  exact ⟨clients, hcompiled.registered, hcompiled.database.db_eq⟩

/-- A Node registered twice, the other one not yet. -/
theorem database_of_reachable_sample :
    ∃ s, Reachable (sampleDeployment 2) (HashOrder.insertion String) sampleYaml s ∧
      s.central.clients = ["A"] ∧
      ∃ clients : List Bool, s.central.clients = clients.map (sampleDeployment 2).routingId ∧
        s.central.db = (DataBase.after (HashOrder.insertion String) sampleYaml
          (clients.flatMap (packetCalls (sampleDeployment 2) sampleYaml))).afterRequests
            (HashOrder.insertion String)
            (s.central.answeredRequests (HashOrder.insertion String)) := by
  obtain ⟨s, hrun, hclients⟩ : ∃ s, Run (sampleStep 2) Always (init (sampleDeployment 2))
      [.act false .boot, .act false .timeout, .central false, .central false] s ∧
      s.central.clients = ["A"] := Run.of_exec (by decide)
  have hreads : ∀ i, sampleYaml.ReadsBack ((sampleDeployment 2).config i).sendingPackets :=
    fun _ => rfl
  exact ⟨s, hrun.reachable, hclients, database_of_reachable hreads hrun.reachable⟩

omit [DecidableEq ι] in
/-- What the database offers, read off the configurations. -/
theorem Compiled.offers_iff {clients : List ι} (hcompiled : Compiled D order yaml s clients)
    {dataName packName : String} : s.central.db.Offers dataName packName ↔
      ∃ i, D.routingId i ∈ s.central.clients ∧ D.Declares yaml i packName dataName := by
  have hframe := hcompiled.database.frame.2 dataName
  rw [DataBase.Offers, hframe, ← DataBase.Offers, DataBase.offers_after,
    DataBase.mem_declarations]
  simp only [hcompiled.mem_iff, List.mem_flatMap, ← declares_packetCalls]
  constructor
  · rintro ⟨call, ⟨i, hi, hcall⟩, hdeclares⟩
    exact ⟨i, hi, call, hcall, hdeclares⟩
  · rintro ⟨i, hi, call, hcall, hdeclares⟩
    exact ⟨call, ⟨i, hi, hcall⟩, hdeclares⟩

omit [DecidableEq ι] in
theorem Compiled.mem_keys_iff {clients : List ι} (hcompiled : Compiled D order yaml s clients)
    {packName : String} : packName ∈ s.central.db.avaiablePacks.keys ↔
      ∃ i, D.routingId i ∈ s.central.clients ∧ ∃ fields, D.Sends yaml i packName fields := by
  rw [hcompiled.database.frame.1, DataBase.mem_keys_after]
  simp only [hcompiled.mem_iff, List.mem_flatMap, ← adds_packetCalls]
  constructor
  · rintro ⟨call, ⟨i, hi, hcall⟩, hadds⟩
    exact ⟨i, hi, call, hcall, hadds⟩
  · rintro ⟨i, hi, call, hcall, hadds⟩
    exact ⟨call, ⟨i, hi, hcall⟩, hadds⟩

/-- **What is in the catalogue.** In every reachable state Central's database has the packets
that its clients are configured to send and no others, and lists a packet under exactly the data
that they declare for it: nothing is lost, nothing is left of a registration that did not go
through, and repetitions add nothing. -/
theorem catalogue_of_reachable (hreads : ∀ i, yaml.ReadsBack (D.config i).sendingPackets)
    (hreach : Reachable D order yaml s) :
    (∀ packName, packName ∈ s.central.db.avaiablePacks.keys ↔
      ∃ i, D.routingId i ∈ s.central.clients ∧ ∃ fields, D.Sends yaml i packName fields) ∧
    ∀ dataName packName, s.central.db.Offers dataName packName ↔
      ∃ i, D.routingId i ∈ s.central.clients ∧ D.Declares yaml i packName dataName := by
  obtain ⟨clients, hcompiled⟩ := reachable_compiled hreads hreach
  exact ⟨fun _ => hcompiled.mem_keys_iff, fun _ _ => hcompiled.offers_iff⟩

theorem catalogue_of_reachable_sample :
    ∃ s, Reachable (sampleDeployment 2) (HashOrder.insertion String) sampleYaml s ∧
      s.central.clients = ["A"] ∧
      (∀ packName, packName ∈ s.central.db.avaiablePacks.keys ↔
        ∃ i, (sampleDeployment 2).routingId i ∈ s.central.clients ∧
          ∃ fields, (sampleDeployment 2).Sends sampleYaml i packName fields) ∧
      ∀ dataName packName, s.central.db.Offers dataName packName ↔
        ∃ i, (sampleDeployment 2).routingId i ∈ s.central.clients ∧
          (sampleDeployment 2).Declares sampleYaml i packName dataName := by
  obtain ⟨s, hrun, hclients⟩ : ∃ s, Run (sampleStep 2) Always (init (sampleDeployment 2))
      [.act false .boot, .act false .timeout, .central false, .central false] s ∧
      s.central.clients = ["A"] := Run.of_exec (by decide)
  have hreads : ∀ i, sampleYaml.ReadsBack ((sampleDeployment 2).config i).sendingPackets :=
    fun _ => rfl
  exact ⟨s, hrun.reachable, hclients, catalogue_of_reachable hreads hrun.reachable⟩

end Step

end System

end ComuFrame
