import Mathlib.Data.Fintype.Card
import ComuFrame.System.Meeting
import ComuFrame.System.Packets

/-!
# ComuFrame — what a Node gets for what it asks for

From a Node's configuration to its subscriptions, through its request, Central's catalogue and
the answer, for a Node that Central has confirmed once. A call of the search that runs off its
end is read as false.

* `verdict_of_run` — the Node finds the error text exactly if it asks for a datum that no client
  declares. Otherwise its subscriptions are different packets, each of which some client is
  configured to send, and among them is one for every datum that is listed once;
* `rejected_iff_undeclared` — with all Nodes expected, whether a request is rejected is a matter
  of the configurations alone: no interleaving and no order of a hash table has a say in it.
-/

namespace ComuFrame

open Cpp Transition

namespace System

variable {ι : Type} {D : Deployment ι} {order : HashOrder String} {yaml : YamlCpp}
  {s s' : System ι} {es : List (Event ι)} {i : ι}

/-- Some client declares the datum `dataName` for the packet `packName`. -/
def Offered (D : Deployment ι) (yaml : YamlCpp) (s : System ι) (packName dataName : String) :
    Prop :=
  ∃ j, D.routingId j ∈ s.central.clients ∧ D.Declares yaml j packName dataName

/-- What has become of the request of Node `i` for these data. -/
structure Verdict (D : Deployment ι) (yaml : YamlCpp) (i : ι) (names : List String)
    (s : System ι) : Prop where
  rejected : (s.node i).subscriptions = [DataBase.notFound] ↔
    ∃ dataName ∈ names, ∀ packName, ¬ Offered D yaml s packName dataName
  /-- A request that is not rejected is answered with packets, -/
  packets : (s.node i).subscriptions ≠ [DataBase.notFound] →
    (s.node i).subscriptions.Nodup ∧ ∀ packName ∈ (s.node i).subscriptions,
      ∃ j, D.routingId j ∈ s.central.clients ∧ ∃ fields, D.Sends yaml j packName fields
  /-- among them one for each datum with one entry in the index. -/
  single : (s.node i).subscriptions ≠ [DataBase.notFound] → ∀ dataName ∈ names,
    (s.central.db.providers dataName).length = 1 →
      ∃ packName ∈ (s.node i).subscriptions, Offered D yaml s packName dataName

/-! ## A reply and the catalogue -/

/-- The database of a reply lists what Central's database lists. -/
theorem Compiled.frame_of_mem {clients : List ι} (hcompiled : Compiled D order yaml s clients)
    {requestMap : UnorderedMap String (List String)} {toCheckSubscriptions : List String}
    (hphase : s.central.phase = .subscribing requestMap toCheckSubscriptions) {reply : Reply}
    (hreply : reply ∈ s.central.replies) :
    reply.db.avaiablePacks.keys = s.central.db.avaiablePacks.keys ∧
    ∀ dataName, reply.db.providers dataName = s.central.db.providers dataName := by
  have hanswered := hcompiled.database.answered requestMap toCheckSubscriptions hphase
  have hmem : reply ∈ (s.central.db, s.central.replies).2 := hreply
  rw [← hanswered] at hmem
  obtain ⟨hkeys, hproviders⟩ := Central.frame_of_mem_replyLoop hmem
  obtain ⟨hkeys', hproviders'⟩ := hcompiled.database.frame
  exact ⟨hkeys.trans hkeys'.symm,
    fun dataName => (hproviders dataName).trans (hproviders' dataName).symm⟩

/-- From the answer to a request to the configurations behind it. -/
theorem Compiled.verdict {clients : List ι} (hcompiled : Compiled D order yaml s clients)
    {requestMap : UnorderedMap String (List String)} {toCheckSubscriptions : List String}
    (hphase : s.central.phase = .subscribing requestMap toCheckSubscriptions) {reply : Reply}
    (hreply : reply ∈ s.central.replies) (hdb : reply.db.Valid)
    (hprovided : reply.packetNeeded = (reply.db.providePackets order reply.request).1)
    (hsubscriptions : (s.node i).subscriptions = reply.packetNeeded) :
    Verdict D yaml i reply.request s := by
  obtain ⟨hkeys, hproviders⟩ := hcompiled.frame_of_mem hphase hreply
  have hoffers {dataName packName : String} :
      reply.db.Offers dataName packName ↔ Offered D yaml s packName dataName := by
    rw [DataBase.Offers, hproviders]
    exact hcompiled.offers_iff
  have hrejects : reply.db.Rejects reply.request ↔
      ∃ dataName ∈ reply.request, ∀ packName, ¬ Offered D yaml s packName dataName := by
    simp only [DataBase.rejects_iff, hoffers]
  have hanswer : (s.node i).subscriptions = (reply.db.providePackets order reply.request).1 :=
    hsubscriptions.trans hprovided
  have hfound (hne : (s.node i).subscriptions ≠ [DataBase.notFound]) :
      ¬ reply.db.Rejects reply.request := by
    intro hnone
    rw [hanswer] at hne
    exact hne ((DataBase.answer_eq_notFound_iff hdb order reply.request).mpr hnone)
  refine ⟨?_, fun hne => ⟨?_, fun packName hmem => ?_⟩, fun hne dataName hdata honly => ?_⟩
  · rw [hanswer, DataBase.answer_eq_notFound_iff hdb, hrejects]
  · rw [hanswer]
    exact (DataBase.providePackets_accepts order (hfound hne)).2.1
  · rw [hanswer] at hmem
    have hkey := DataBase.mem_keys_of_mem_answer (hfound hne) hmem
    rw [hkeys] at hkey
    exact hcompiled.mem_keys_iff.mp hkey
  · -- the packet of a datum with one entry is selected
    obtain ⟨entry, hentry⟩ := List.length_eq_one_iff.mp honly
    have hentry' : reply.db.providers dataName = [entry] := (hproviders dataName).trans hentry
    obtain ⟨packName, hmem, hoffer⟩ :=
      (DataBase.covered_iff hdb (hfound hne) dataName).mpr
        ⟨entry, by rw [hentry']; exact List.mem_singleton_self entry,
          DataBase.selected_of_only hdata hentry'⟩
    rw [hanswer]
    exact ⟨packName, hmem, hoffers.mp hoffer⟩

section Run

variable [DecidableEq ι]

/-- With its own request and its own answer. -/
theorem exists_verdict (hreads : ∀ j, yaml.ReadsBack (D.config j).sendingPackets)
    (hrequest : yaml.ReadsBack (D.config i).requestedData)
    (hrun : Run (step D order yaml) (NotReconfirmed D i) (init D) es s)
    (hfilled : (s.node i).service.filled = true) :
    ∃ names, Central.requestedNames yaml (D.config i).requestedData = some names ∧
      Verdict D yaml i names s := by
  have hinv := reachable_inv hrun.reachable
  obtain ⟨clients, hcompiled⟩ := reachable_compiled hreads hrun.reachable
  have hanswered := (ordered_of_notReconfirmed hrun).answered hfilled
  obtain ⟨requestMap, toCheckSubscriptions, hphase⟩ := hanswered.phase
  obtain ⟨reply, hreply, hclient, hsubscriptions⟩ := hanswered.reply
  obtain ⟨hdb, hprovided⟩ := reachable_provided hrun.reachable reply hreply
  have hfind := ((hinv.central.replies_spec hphase).2 reply hreply).1
  rw [hclient, ← (Central.subscribing_eq hphase).2.2] at hfind
  have hown := (kept_of_notReconfirmed hrequest hrun).own reply.request hfind
  exact ⟨reply.request, hown,
    hcompiled.verdict hphase hreply hdb.valid hprovided hsubscriptions⟩

/-- **What a Node gets for what it asks for**, if it was confirmed once. -/
theorem verdict_of_run (hreads : ∀ j, yaml.ReadsBack (D.config j).sendingPackets)
    (hrequest : yaml.ReadsBack (D.config i).requestedData)
    (hrun : Run (step D order yaml) Always (init D) es s)
    (honce : confirmations D order yaml i es = 1)
    (hfilled : (s.node i).service.filled = true) :
    ∃ names, Central.requestedNames yaml (D.config i).requestedData = some names ∧
      Verdict D yaml i names s :=
  exists_verdict hreads hrequest (notReconfirmed_of_confirmations hrun honce.le) hfilled

/-- Two Nodes, up to the answer to the first one. -/
def firstAnswered : List (Event Bool) :=
  [.act false .boot, .act true .boot, .central false, .central true, .deliver false,
    .deliver false, .central false, .deliver true, .deliver true, .central true, .deliver false]

theorem verdict_of_run_sample :
    ∃ s, Run (sampleStep 2) Always (init (sampleDeployment 2)) firstAnswered s ∧
      ∃ names, Central.requestedNames sampleYaml sampleRequest = some names ∧
        Verdict (sampleDeployment 2) sampleYaml false names s := by
  obtain ⟨s, hrun, hfilled⟩ : ∃ s, Run (sampleStep 2) Always (init (sampleDeployment 2))
      firstAnswered s ∧ (s.node false).service.filled = true := Run.of_exec (by decide)
  have honce : confirmations (sampleDeployment 2) (HashOrder.insertion String) sampleYaml false
      firstAnswered = 1 := by decide
  have hreads : ∀ j, sampleYaml.ReadsBack ((sampleDeployment 2).config j).sendingPackets :=
    fun _ => rfl
  exact ⟨s, hrun, verdict_of_run hreads rfl hrun honce hfilled⟩

omit [DecidableEq ι] in
/-- The clients are Nodes, each of them once. -/
theorem Inv.clients_subperm [Fintype ι] (hinv : Inv D order yaml s) :
    s.central.clients.Subperm (Finset.univ.toList.map D.routingId) := by
  refine List.subperm_of_subset hinv.central.nodup fun client hclient => ?_
  obtain ⟨k, rfl⟩ := hinv.clients client hclient
  exact List.mem_map_of_mem (Finset.mem_toList.mpr (Finset.mem_univ k))

/-- With all Nodes expected, all of them are clients once Central has left the registration
loop. -/
theorem mem_clients_of_card [Fintype ι] (hcard : D.expectedClient = Fintype.card ι)
    (hreach : Reachable D order yaml s) (hreg : s.central.registering = false) (j : ι) :
    D.routingId j ∈ s.central.clients := by
  have hconnected := (reachable_expected hreach).2 hreg
  have hperm : s.central.clients.Perm (Finset.univ.toList.map D.routingId) := by
    refine (reachable_inv hreach).clients_subperm.perm_of_length_le ?_
    rw [Central.clients_of_left hreg, hconnected, hcard, List.length_map, Finset.length_toList,
      Finset.card_univ]
  rw [hperm.mem_iff]
  exact List.mem_map_of_mem (Finset.mem_toList.mpr (Finset.mem_univ j))

/-- **Whether a request is rejected** is decided by the configurations, with all Nodes expected:
a Node confirmed once finds the error text exactly if nobody declares some datum it asks for. -/
theorem rejected_iff_undeclared [Fintype ι] (hcard : D.expectedClient = Fintype.card ι)
    (hreads : ∀ j, yaml.ReadsBack (D.config j).sendingPackets)
    (hrequest : yaml.ReadsBack (D.config i).requestedData)
    (hrun : Run (step D order yaml) Always (init D) es s)
    (honce : confirmations D order yaml i es = 1)
    (hfilled : (s.node i).service.filled = true) :
    (s.node i).subscriptions = [DataBase.notFound] ↔
      ∃ names, Central.requestedNames yaml (D.config i).requestedData = some names ∧
        ∃ dataName ∈ names, ∀ j packName, ¬ D.Declares yaml j packName dataName := by
  have hrun' := notReconfirmed_of_confirmations hrun honce.le
  obtain ⟨names, hnames, hverdict⟩ := exists_verdict hreads hrequest hrun' hfilled
  obtain ⟨_, _, hphase⟩ := ((ordered_of_notReconfirmed hrun').answered hfilled).phase
  have hreg := (Central.subscribing_eq hphase).1
  -- everybody is a client
  have hoffered {packName dataName : String} : Offered D yaml s packName dataName ↔
      ∃ j, D.Declares yaml j packName dataName := by
    constructor
    · intro ⟨j, _, hdeclares⟩
      exact ⟨j, hdeclares⟩
    · intro ⟨j, hdeclares⟩
      exact ⟨j, mem_clients_of_card hcard hrun.reachable hreg j, hdeclares⟩
  rw [hverdict.rejected]
  simp only [hoffered, not_exists]
  constructor
  · intro ⟨dataName, hdata, hnone⟩
    exact ⟨names, hnames, dataName, hdata, fun j packName => hnone packName j⟩
  · intro ⟨names', hnames', dataName, hdata, hnone⟩
    rw [hnames, Option.some.injEq] at hnames'
    subst hnames'
    exact ⟨dataName, hdata, fun packName j => hnone j packName⟩

theorem rejected_iff_undeclared_sample :
    ∃ s, Run (sampleStep 2) Always (init (sampleDeployment 2)) firstAnswered s ∧
      ((s.node false).subscriptions = [DataBase.notFound] ↔
        ∃ names, Central.requestedNames sampleYaml sampleRequest = some names ∧
          ∃ dataName ∈ names, ∀ j packName,
            ¬ (sampleDeployment 2).Declares sampleYaml j packName dataName) := by
  obtain ⟨s, hrun, hfilled⟩ : ∃ s, Run (sampleStep 2) Always (init (sampleDeployment 2))
      firstAnswered s ∧ (s.node false).service.filled = true := Run.of_exec (by decide)
  have honce : confirmations (sampleDeployment 2) (HashOrder.insertion String) sampleYaml false
      firstAnswered = 1 := by decide
  have hreads : ∀ j, sampleYaml.ReadsBack ((sampleDeployment 2).config j).sendingPackets :=
    fun _ => rfl
  exact ⟨s, hrun, rejected_iff_undeclared rfl hreads rfl hrun honce hfilled⟩

end Run

end System

end ComuFrame
