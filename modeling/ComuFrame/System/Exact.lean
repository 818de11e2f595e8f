import ComuFrame.System.Verdict

/-!
# ComuFrame — which packets a Node gets

Flags that a rejected request leaves up find their way into later answers, so what a Node gets
depends on what others ask for. Where every Node asks only for what some Node declares, no
request is rejected and this does not happen; and no call of the search runs off its end
(`searches_return`).

* `subscriptions_exact` — then the subscriptions of a Node are exactly the packets that are the
  only provider of a datum it asks for, and the one the search picks: the provider registered
  first for the first datum that has several;
* `served_exactly` — and if every datum asked for is declared once, they are exactly the packets
  with the data the Node asks for. Nothing of a run is left in the result.
-/

namespace ComuFrame

open Cpp Transition Listing

namespace DataBase

/-! ## Answers without flags left up -/

/-- The packets that a database without flags up gives for the names: the only entry of one of
them, or the first entry of the first of them that has not exactly one. -/
def Gives (db : DataBase) (requestedData : List String) (packName : String) : Prop :=
  (∃ dataName ∈ requestedData, (db.providers dataName).map Prod.fst = [packName]) ∨
  (requestedData.find? fun dataName => (db.providers dataName).length ≠ 1).bind
    (fun dataName => ((db.providers dataName).map Prod.fst).head?) = some packName

variable {db db' : DataBase} {requestedData : List String} {packName : String}

theorem Gives.congr (hproviders : ∀ dataName, db'.providers dataName = db.providers dataName) :
    db'.Gives requestedData packName ↔ db.Gives requestedData packName := by
  simp only [Gives, hproviders]

/-- The first pointer the search tries. -/
theorem firstPtr_formula (db : DataBase) (requestedData : List String) :
    firstPtr (db.formula requestedData)
      = (requestedData.find? fun dataName => (db.providers dataName).length ≠ 1).bind
          fun dataName => (db.clauseOf dataName).head? := by
  induction requestedData with
  | nil => rfl
  | cons dataName rest ih =>
    have hlen : (db.clauseOf dataName).length = (db.providers dataName).length := by
      rw [clauseOf, List.length_map]
    by_cases hone : (db.providers dataName).length = 1
    · have hformula : db.formula (dataName :: rest) = db.formula rest := by
        simp [formula, hlen, hone]
      rw [hformula, ih, List.find?_cons_of_neg (by simpa using hone)]
    · have hformula : db.formula (dataName :: rest)
          = db.clauseOf dataName :: db.formula rest := by
        simp [formula, hlen, hone]
      rw [hformula, List.find?_cons_of_pos (by simpa using hone)]
      rfl

/-- The pointer of the first entry, and its name. -/
theorem Valid.head_clauseOf_iff (hdb : db.Valid) {dataName : String} {ptr : BoolPtr}
    (hptr : db.packOf ptr = some packName) :
    (db.clauseOf dataName).head? = some ptr ↔
      ((db.providers dataName).map Prod.fst).head? = some packName := by
  cases hproviders : db.providers dataName with
  | nil => simp [clauseOf, hproviders]
  | cons entry rest =>
    have hentry := hdb.pointsTo dataName entry (by rw [hproviders]; exact List.mem_cons_self)
    simp only [clauseOf, hproviders, List.map_cons, List.head?_cons, Option.some.injEq]
    constructor
    · rintro rfl
      exact Option.some.inj (hentry.symm.trans hptr)
    · rintro rfl
      exact packOf_injective hentry hptr

theorem Valid.forced_iff (hdb : db.Valid) {ptr : BoolPtr}
    (hptr : db.packOf ptr = some packName) :
    db.Forced requestedData ptr ↔
      ∃ dataName ∈ requestedData, (db.providers dataName).map Prod.fst = [packName] := by
  apply exists_congr
  intro dataName
  apply and_congr_right
  intro _
  cases hproviders : db.providers dataName with
  | nil => simp [clauseOf, hproviders]
  | cons entry rest =>
    have hentry := hdb.pointsTo dataName entry (by rw [hproviders]; exact List.mem_cons_self)
    simp only [clauseOf, hproviders, List.map_cons, List.cons.injEq, List.map_eq_nil_iff]
    apply and_congr_left
    intro _
    constructor
    · rintro rfl
      exact Option.some.inj (hentry.symm.trans hptr)
    · rintro rfl
      exact packOf_injective hentry hptr

theorem Valid.firstPtr_iff (hdb : db.Valid) {ptr : BoolPtr}
    (hptr : db.packOf ptr = some packName) :
    firstPtr (db.formula requestedData) = some ptr ↔
      (requestedData.find? fun dataName => (db.providers dataName).length ≠ 1).bind
        (fun dataName => ((db.providers dataName).map Prod.fst).head?) = some packName := by
  rw [firstPtr_formula, Option.bind_eq_some_iff, Option.bind_eq_some_iff]
  apply exists_congr
  intro dataName
  rw [hdb.head_clauseOf_iff hptr]

/-- What is given is listed. -/
theorem Gives.exists_ptr (hdb : db.Valid) (hgives : db.Gives requestedData packName) :
    ∃ ptr, db.packOf ptr = some packName := by
  have hoffers : ∃ dataName, db.Offers dataName packName := by
    rcases hgives with ⟨dataName, -, honly⟩ | hfirst
    · exact ⟨dataName, by rw [Offers, honly]; exact List.mem_singleton_self packName⟩
    · obtain ⟨dataName, -, hhead⟩ := Option.bind_eq_some_iff.mp hfirst
      exact ⟨dataName, List.mem_of_mem_head? hhead⟩
  obtain ⟨dataName, hoffer⟩ := hoffers
  obtain ⟨entry, hentry, rfl⟩ := List.mem_map.mp hoffer
  exact ⟨entry.2, hdb.pointsTo dataName entry hentry⟩

/-- The answer to a request that is not rejected, with no flag up before it. -/
theorem mem_answer_iff_gives (hdb : db.Valid) (hflags : db.Unselected) (order : HashOrder String)
    (hfound : ¬ db.Rejects requestedData) :
    packName ∈ (db.providePackets order requestedData).1 ↔ db.Gives requestedData packName := by
  rw [(providePackets_accepts order hfound).1]
  have hselected {ptr : BoolPtr} (hptr : db.packOf ptr = some packName) :
      db.Selected requestedData ptr ↔ db.Gives requestedData packName := by
    rw [Selected, hflags ptr, or_iff_right Bool.false_ne_true, hdb.forced_iff hptr,
      hdb.firstPtr_iff hptr, Gives]
  constructor
  · rintro ⟨ptr, hptr, hsel⟩
    exact (hselected hptr).mp hsel
  · intro hgives
    obtain ⟨ptr, hptr⟩ := hgives.exists_ptr hdb
    exact ⟨ptr, hptr, (hselected hptr).mpr hgives⟩

/-- Every name with one entry: the packets that offer a name. -/
theorem gives_iff_of_single
    (hsingle : ∀ dataName ∈ requestedData, (db.providers dataName).length = 1) :
    db.Gives requestedData packName ↔ ∃ dataName ∈ requestedData, db.Offers dataName packName := by
  have hnone : (requestedData.find? fun dataName => (db.providers dataName).length ≠ 1) = none := by
    rw [List.find?_eq_none]
    intro dataName hdata
    simpa using hsingle dataName hdata
  rw [Gives, hnone, Option.bind_none, or_iff_left (by simp)]
  apply exists_congr
  intro dataName
  apply and_congr_right
  intro hdata
  obtain ⟨entry, hentry⟩ := List.length_eq_one_iff.mp (hsingle dataName hdata)
  simp [Offers, hentry, eq_comm]

/-- Packets are added with their flags down. -/
theorem unselected_after (order : HashOrder String) (yaml : YamlCpp) {calls : List Call}
    (hcalls : ∀ call ∈ calls, call.isAddPacket = true) : (after order yaml calls).Unselected := by
  induction calls using List.reverseRecOn with
  | nil => exact unselected_empty
  | append_singleton calls last ih =>
    have hdb : (after order yaml calls).Unselected :=
      ih fun call hcall => hcalls call (List.mem_append_left _ hcall)
    have hlast := hcalls last (by simp)
    rw [after_snoc]
    cases last with
    | addPacket YPack sender name =>
      rw [perform]
      cases hadd : (after order yaml calls).addPacket order yaml YPack sender name with
      | none => exact hdb
      | some db' =>
        obtain ⟨packToAdd, -, rfl⟩ := addPacket_eq_some.mp hadd
        exact unselected_addFields order _ packToAdd sender name hdb
    | providePackets requestedData => simp [Call.isAddPacket] at hlast

end DataBase

namespace Central

variable {order : HashOrder String} {db : DataBase}

/-- Where no request is rejected, every reply starts without a flag up. -/
theorem unselected_of_mem_replyLoop (hdb : db.Unselected)
    {requests : List (String × List String)}
    (hfound : ∀ request ∈ requests, ¬ db.Rejects request.2) {reply : Reply}
    (hreply : reply ∈ (replyLoop order db requests).2) : reply.db.Unselected := by
  induction requests generalizing db with
  | nil => simp [replyLoop] at hreply
  | cons request requests ih =>
    rcases List.mem_cons.mp hreply with rfl | hrest
    · exact hdb
    · have hfirst := hfound request List.mem_cons_self
      have hunselected := (DataBase.providePackets_accepts order hfirst).2.2
      refine ih hunselected (fun other hother => ?_) hrest
      -- a query does not change who provides what
      have hproviders := (DataBase.providePackets_frame order db request.2).2
      simp only [DataBase.Rejects, hproviders]
      exact hfound other (List.mem_cons_of_mem _ hother)

end Central

namespace System

variable {ι : Type} {D : Deployment ι} {order : HashOrder String} {yaml : YamlCpp}
  {s s' : System ι} {es : List (Event ι)} {i : ι}

theorem isAddPacket_packetCalls {call : DataBase.Call} (hcall : call ∈ packetCalls D yaml i) :
    call.isAddPacket = true := by
  obtain ⟨_, _, _, _, _, _, rfl⟩ := mem_packetCalls.mp hcall
  rfl

/-- Every datum that a Node asks for is declared by some Node. -/
def AllDeclared (D : Deployment ι) (yaml : YamlCpp) : Prop :=
  ∀ j names, Central.requestedNames yaml (D.config j).requestedData = some names →
    ∀ dataName ∈ names, ∃ k packName, D.Declares yaml k packName dataName

/-- Every datum that a Node asks for is declared once: by one Node, and by that in one field. -/
def AllDeclaredOnce (D : Deployment ι) (yaml : YamlCpp) : Prop :=
  ∀ j names, Central.requestedNames yaml (D.config j).requestedData = some names →
    ∀ dataName ∈ names, ∃ k packName,
      under (DataBase.declarations yaml (packetCalls D yaml k)) dataName = [packName] ∧
      ∀ l, l ≠ k → under (DataBase.declarations yaml (packetCalls D yaml l)) dataName = []

section Run

variable [DecidableEq ι]

/-- No request is rejected, if everything asked for is declared. -/
theorem not_rejects_of_find [Fintype ι] (hcard : D.expectedClient = Fintype.card ι)
    (hreads : ∀ j, yaml.ReadsBack (D.config j).sendingPackets)
    (hreach : Reachable D order yaml s) (hkept : ∀ j, Kept D yaml j s)
    (hdeclared : AllDeclared D yaml) (hreg : s.central.registering = false) {client : String}
    {request : List String} (hfind : s.central.requestMap.find? client = some request) :
    ¬ s.central.db.Rejects request := by
  have hinv := reachable_inv hreach
  have hkey : client ∈ s.central.requestMap.keys :=
    UnorderedMap.mem_keys_iff_find?.mpr ⟨request, hfind⟩
  obtain ⟨j, rfl⟩ := hinv.clients client (hinv.central.asked client hkey)
  have hown := (hkept j).own request hfind
  rw [DataBase.rejects_iff]
  rintro ⟨dataName, hdata, hnone⟩
  obtain ⟨k, packName, hdeclares⟩ := hdeclared j request hown dataName hdata
  obtain ⟨clients, hcompiled⟩ := reachable_compiled hreads hreach
  exact hnone packName
    (hcompiled.offers_iff.mpr ⟨k, mem_clients_of_card hcard hreach hreg k, hdeclares⟩)

/-- So every reply is one to a request that is satisfied. -/
theorem not_rejects_reply [Fintype ι] (hcard : D.expectedClient = Fintype.card ι)
    (hreads : ∀ j, yaml.ReadsBack (D.config j).sendingPackets)
    (hreach : Reachable D order yaml s) (hkept : ∀ j, Kept D yaml j s)
    (hdeclared : AllDeclared D yaml) {requestMap : UnorderedMap String (List String)}
    {toCheckSubscriptions : List String}
    (hphase : s.central.phase = .subscribing requestMap toCheckSubscriptions) {reply : Reply}
    (hreply : reply ∈ s.central.replies) : ¬ reply.db.Rejects reply.request := by
  obtain ⟨hreg, -, hmap⟩ := Central.subscribing_eq hphase
  obtain ⟨clients, hcompiled⟩ := reachable_compiled hreads hreach
  have hfind := (((reachable_inv hreach).central.replies_spec hphase).2 reply hreply).1
  rw [← hmap] at hfind
  simp only [DataBase.Rejects, (hcompiled.frame_of_mem hphase hreply).2]
  exact not_rejects_of_find hcard hreads hreach hkept hdeclared hreg hfind

/-- **Every call of the search returns**, where everything asked for is declared, all Nodes are
expected and nobody is confirmed again: what a call gives that runs off its end is of no
account then. -/
theorem searches_return [Fintype ι] (hcard : D.expectedClient = Fintype.card ι)
    (hreads : ∀ j, yaml.ReadsBack (D.config j).sendingPackets)
    (hrequests : ∀ j, yaml.ReadsBack (D.config j).requestedData)
    (hdeclared : AllDeclared D yaml)
    (hrun : Run (step D order yaml) Always (init D) es s)
    (honce : ∀ j, confirmations D order yaml j es ≤ 1)
    {requestMap : UnorderedMap String (List String)} {toCheckSubscriptions : List String}
    (hphase : s.central.phase = .subscribing requestMap toCheckSubscriptions) {reply : Reply}
    (hreply : reply ∈ s.central.replies) {call : TuneCall}
    (hcall : call ∈ reply.db.searchCalls reply.request) : call.result = some true := by
  have hkept (j : ι) : Kept D yaml j s :=
    kept_of_notReconfirmed (hrequests j) (notReconfirmed_of_confirmations hrun (honce j))
  have hfound := not_rejects_reply hcard hreads hrun.reachable hkept hdeclared hphase hreply
  exact DataBase.result_of_mem_searchCalls hfound hcall

/-- No reply is computed with a flag up then. -/
theorem unselected_reply [Fintype ι] (hcard : D.expectedClient = Fintype.card ι)
    (hreads : ∀ j, yaml.ReadsBack (D.config j).sendingPackets)
    (hreach : Reachable D order yaml s) (hkept : ∀ j, Kept D yaml j s)
    (hdeclared : AllDeclared D yaml) {requestMap : UnorderedMap String (List String)}
    {toCheckSubscriptions : List String}
    (hphase : s.central.phase = .subscribing requestMap toCheckSubscriptions) {reply : Reply}
    (hreply : reply ∈ s.central.replies) : reply.db.Unselected := by
  obtain ⟨hreg, -, hmap⟩ := Central.subscribing_eq hphase
  obtain ⟨clients, hcompiled⟩ := reachable_compiled hreads hreach
  have hproviders := hcompiled.database.frame.2
  have hmem : reply ∈ (s.central.db, s.central.replies).2 := hreply
  rw [← hcompiled.database.answered requestMap toCheckSubscriptions hphase] at hmem
  refine Central.unselected_of_mem_replyLoop (DataBase.unselected_after order yaml ?_) ?_ hmem
  · intro call hcall
    obtain ⟨j, -, hcall⟩ := List.mem_flatMap.mp hcall
    exact isAddPacket_packetCalls hcall
  · intro request hrequest
    have hfind : requestMap.find? request.1 = some request.2 :=
      UnorderedMap.find?_eq_some.mpr (UnorderedMap.mem_iterate.mp hrequest)
    rw [← hmap] at hfind
    have hfound := not_rejects_of_find hcard hreads hreach hkept hdeclared hreg hfind
    simp only [DataBase.Rejects, hproviders] at hfound
    exact hfound

/-- The subscriptions of a Node, by the catalogue that Central has. -/
theorem gives_of_run [Fintype ι] (hcard : D.expectedClient = Fintype.card ι)
    (hreads : ∀ j, yaml.ReadsBack (D.config j).sendingPackets)
    (hrequests : ∀ j, yaml.ReadsBack (D.config j).requestedData)
    (hdeclared : AllDeclared D yaml)
    (hrun : Run (step D order yaml) Always (init D) es s)
    (honce : ∀ j, confirmations D order yaml j es ≤ 1)
    (hfilled : (s.node i).service.filled = true) :
    s.central.registering = false ∧
    ∃ names, Central.requestedNames yaml (D.config i).requestedData = some names ∧
      (s.node i).subscriptions.Nodup ∧
      ∀ packName, packName ∈ (s.node i).subscriptions ↔ s.central.db.Gives names packName := by
  have hinv := reachable_inv hrun.reachable
  have hordered (j : ι) := notReconfirmed_of_confirmations hrun (honce j)
  have hkept (j : ι) : Kept D yaml j s := kept_of_notReconfirmed (hrequests j) (hordered j)
  have hanswered := (ordered_of_notReconfirmed (hordered i)).answered hfilled
  obtain ⟨requestMap, toCheckSubscriptions, hphase⟩ := hanswered.phase
  obtain ⟨reply, hreply, hclient, hsubscriptions⟩ := hanswered.reply
  obtain ⟨hreg, -, hmap⟩ := Central.subscribing_eq hphase
  obtain ⟨hdb, hprovided⟩ := reachable_provided hrun.reachable reply hreply
  obtain ⟨clients, hcompiled⟩ := reachable_compiled hreads hrun.reachable
  have hproviders := (hcompiled.frame_of_mem hphase hreply).2
  have hfind := ((hinv.central.replies_spec hphase).2 reply hreply).1
  rw [← hmap] at hfind
  have hfound := not_rejects_reply hcard hreads hrun.reachable hkept hdeclared hphase hreply
  have hflags := unselected_reply hcard hreads hrun.reachable hkept hdeclared hphase hreply
  rw [hclient] at hfind
  refine ⟨hreg, reply.request, (hkept i).own _ hfind, ?_, fun packName => ?_⟩
  · rw [hsubscriptions, hprovided]
    exact (DataBase.providePackets_accepts order hfound).2.1
  · rw [hsubscriptions, hprovided, DataBase.mem_answer_iff_gives hdb.valid hflags order hfound]
    exact DataBase.Gives.congr hproviders

/-- **Which packets a Node gets**, where everything asked for is declared and all Nodes are
expected: the only provider of a datum it asks for, and for the first datum with several
providers the first of them. -/
theorem subscriptions_exact [Fintype ι] (hcard : D.expectedClient = Fintype.card ι)
    (hreads : ∀ j, yaml.ReadsBack (D.config j).sendingPackets)
    (hrequests : ∀ j, yaml.ReadsBack (D.config j).requestedData)
    (hdeclared : AllDeclared D yaml)
    (hrun : Run (step D order yaml) Always (init D) es s)
    (honce : ∀ j, confirmations D order yaml j es ≤ 1)
    (hfilled : (s.node i).service.filled = true) :
    ∃ names, Central.requestedNames yaml (D.config i).requestedData = some names ∧
      (s.node i).subscriptions.Nodup ∧
      ∀ packName, packName ∈ (s.node i).subscriptions ↔ s.central.db.Gives names packName :=
  (gives_of_run hcard hreads hrequests hdeclared hrun honce hfilled).2

theorem allDeclared_sample : AllDeclared (sampleDeployment 2) sampleYaml := by
  intro j names hnames dataName hdata
  obtain rfl : ["x_int"] = names := Option.some.inj hnames
  obtain rfl := List.mem_singleton.mp hdata
  exact ⟨false, "P_A", UnorderedMap.empty.assign "x" "int",
    ⟨_, rfl, _, List.mem_cons_self, "P", rfl, rfl, rfl⟩, ("x", "int"), by decide, rfl⟩

/-- Both Nodes offer what both ask for: the search picks the packet of the first one. -/
theorem subscriptions_exact_sample :
    ∃ s, Run (sampleStep 2) Always (init (sampleDeployment 2)) firstAnswered s ∧
      (s.node false).subscriptions = ["P_A"] ∧
      ∃ names, Central.requestedNames sampleYaml sampleRequest = some names ∧
        (s.node false).subscriptions.Nodup ∧
        ∀ packName, packName ∈ (s.node false).subscriptions ↔
          s.central.db.Gives names packName := by
  obtain ⟨s, hrun, hstate⟩ : ∃ s, Run (sampleStep 2) Always (init (sampleDeployment 2))
      firstAnswered s ∧ ((s.node false).service.filled, (s.node false).subscriptions)
        = (true, ["P_A"]) := Run.of_exec (by decide)
  obtain ⟨hfilled, hsubscriptions⟩ := Prod.mk.inj hstate
  have hreads : ∀ j, sampleYaml.ReadsBack ((sampleDeployment 2).config j).sendingPackets :=
    fun _ => rfl
  have hrequests : ∀ j, sampleYaml.ReadsBack ((sampleDeployment 2).config j).requestedData :=
    fun _ => rfl
  have honce : ∀ j, confirmations (sampleDeployment 2) (HashOrder.insertion String) sampleYaml j
      firstAnswered ≤ 1 := by decide
  exact ⟨s, hrun, hsubscriptions,
    subscriptions_exact rfl hreads hrequests allDeclared_sample hrun honce hfilled⟩

/-! ## Data declared once -/

omit [DecidableEq ι] in
theorem Compiled.nodup {clients : List ι} (hcompiled : Compiled D order yaml s clients)
    (hinv : Inv D order yaml s) : clients.Nodup := by
  have hnodup := hinv.central.nodup
  rw [hcompiled.registered] at hnodup
  exact hnodup.of_map _

omit [DecidableEq ι] in
/-- A datum that one Node declares once has one entry. -/
theorem Compiled.length_providers {clients : List ι}
    (hcompiled : Compiled D order yaml s clients) (hnodup : clients.Nodup) {k : ι}
    (hk : k ∈ clients) {packName dataName : String}
    (hone : under (DataBase.declarations yaml (packetCalls D yaml k)) dataName = [packName])
    (hnone : ∀ l, l ≠ k →
      under (DataBase.declarations yaml (packetCalls D yaml l)) dataName = []) :
    (s.central.db.providers dataName).length = 1 := by
  have hlisted : under (DataBase.declarations yaml (clients.flatMap (packetCalls D yaml)))
      dataName = [packName] := by
    rw [DataBase.declarations, List.flatMap_assoc, under_flatMap, ← hone]
    exact flatMap_eq_of_single hnodup hk hnone
  have hperm := DataBase.providers_after order yaml (clients.flatMap (packetCalls D yaml))
    dataName
  rw [hlisted, ← hcompiled.database.frame.2] at hperm
  simpa using hperm.length_eq

/-- **What a Node asks for is what it gets**, where every datum asked for is declared once and
all Nodes are expected: its subscriptions are exactly the packets with the data it asks for, in
every run in which nobody was confirmed twice. -/
theorem served_exactly [Fintype ι] (hcard : D.expectedClient = Fintype.card ι)
    (hreads : ∀ j, yaml.ReadsBack (D.config j).sendingPackets)
    (hrequests : ∀ j, yaml.ReadsBack (D.config j).requestedData)
    (hdeclared : AllDeclaredOnce D yaml)
    (hrun : Run (step D order yaml) Always (init D) es s)
    (honce : ∀ j, confirmations D order yaml j es ≤ 1)
    (hfilled : (s.node i).service.filled = true) :
    ∃ names, Central.requestedNames yaml (D.config i).requestedData = some names ∧
      (s.node i).subscriptions.Nodup ∧
      ∀ packName, packName ∈ (s.node i).subscriptions ↔
        ∃ dataName ∈ names, ∃ j, D.Declares yaml j packName dataName := by
  have hall : AllDeclared D yaml := by
    intro j names hnames dataName hdata
    obtain ⟨k, packName, hone, -⟩ := hdeclared j names hnames dataName hdata
    have hmem : packName ∈ under (DataBase.declarations yaml (packetCalls D yaml k)) dataName := by
      rw [hone]
      exact List.mem_singleton_self packName
    rw [mem_under, DataBase.mem_declarations, declares_packetCalls] at hmem
    exact ⟨k, packName, hmem⟩
  obtain ⟨hreg, names, hnames, hnodup, hgives⟩ :=
    gives_of_run hcard hreads hrequests hall hrun honce hfilled
  have hinv := reachable_inv hrun.reachable
  obtain ⟨clients, hcompiled⟩ := reachable_compiled hreads hrun.reachable
  have hclient (j : ι) : D.routingId j ∈ s.central.clients :=
    mem_clients_of_card hcard hrun.reachable hreg j
  have hsingle : ∀ dataName ∈ names, (s.central.db.providers dataName).length = 1 := by
    intro dataName hdata
    obtain ⟨k, packName, hone, hnone⟩ := hdeclared i names hnames dataName hdata
    exact hcompiled.length_providers (hcompiled.nodup hinv) (hcompiled.mem_iff.mp (hclient k))
      hone hnone
  refine ⟨names, hnames, hnodup, fun packName => ?_⟩
  rw [hgives, DataBase.gives_iff_of_single hsingle]
  simp only [hcompiled.offers_iff, hclient, true_and]

/-- Two Nodes that ask for the same, and one of them sends it. -/
def onceDeployment : Deployment Bool :=
  { sampleDeployment 2 with
    config := fun i =>
      { identity := if i then "B" else "A"
        sendingPackets := if i then .scalar "" else samplePackets
        requestedData := sampleRequest }
    routingId_eq := fun _ _ => rfl }

theorem served_exactly_sample :
    ∃ s, Run (step onceDeployment (HashOrder.insertion String) sampleYaml) Always
        (init onceDeployment) firstAnswered s ∧
      ∃ names, Central.requestedNames sampleYaml sampleRequest = some names ∧
        (s.node false).subscriptions.Nodup ∧
        ∀ packName, packName ∈ (s.node false).subscriptions ↔
          ∃ dataName ∈ names, ∃ j, onceDeployment.Declares sampleYaml j packName dataName := by
  obtain ⟨s, hrun, hfilled⟩ : ∃ s, Run (step onceDeployment (HashOrder.insertion String)
      sampleYaml) Always (init onceDeployment) firstAnswered s ∧
      (s.node false).service.filled = true := Run.of_exec (by decide)
  have hreads : ∀ j, sampleYaml.ReadsBack (onceDeployment.config j).sendingPackets := by
    intro j
    cases j with
    | false => rfl
    | true => rfl
  have hrequests : ∀ j, sampleYaml.ReadsBack (onceDeployment.config j).requestedData :=
    fun _ => rfl
  have hdeclared : AllDeclaredOnce onceDeployment sampleYaml := by
    intro j names hnames dataName hdata
    obtain rfl : ["x_int"] = names := Option.some.inj hnames
    obtain rfl := List.mem_singleton.mp hdata
    refine ⟨false, "P_A", by decide, fun l hl => ?_⟩
    cases l with
    | false => exact absurd rfl hl
    | true => rfl
  have honce : ∀ j, confirmations onceDeployment (HashOrder.insertion String) sampleYaml j
      firstAnswered ≤ 1 := by decide
  exact ⟨s, hrun, served_exactly rfl hreads hrequests hdeclared hrun honce hfilled⟩

end Run

end System

end ComuFrame
