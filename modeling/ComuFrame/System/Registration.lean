import ComuFrame.System.Steps

/-!
# ComuFrame — no Node runs ahead of its registration

A Node leaves `Registration` on the first message it receives, whatever that is. Central
writes to its clients only, so by then the Node is one of them, and the round that made it
one has put its packets into the database, where they stay.
-/

namespace ComuFrame

open Cpp Transition

/-! ## The packets of a Node in the database -/

/-- An entry `name: fields` of a Node's `sendingPackets` is in the database: the packet in
`avaiablePacks`, and listed in `index` under the name of each of its fields. -/
def HoldsEntry (yaml : YamlCpp) (db : DataBase) (sender : String) (entry : Yaml × Yaml) :
    Prop :=
  ∃ name fields, yaml.asString entry.1 = some name ∧ yaml.asStringMap entry.2 = some fields ∧
    joined name sender ∈ db.avaiablePacks.keys ∧
    ∀ field ∈ fields.nodes, db.Offers (joined field.1 field.2) (joined name sender)

/-- Every packet of `sendingPackets` is in the database. -/
def Holds (yaml : YamlCpp) (db : DataBase) (sender : String) (sendingPackets : Yaml) : Prop :=
  ∃ entries, yaml.pairs sendingPackets = some entries ∧ ∀ entry ∈ entries,
    HoldsEntry yaml db sender entry

section Holds

variable {order : HashOrder String} {yaml : YamlCpp} {db db' : DataBase} {sender : String}

theorem HoldsEntry.mono {entry : Yaml × Yaml} (h : HoldsEntry yaml db sender entry)
    (hgrows : DataBase.Grows db db') : HoldsEntry yaml db' sender entry := by
  obtain ⟨name, fields, hname, hfields, hkey, hoffers⟩ := h
  exact ⟨name, fields, hname, hfields, hgrows.keys hkey,
    fun field hfield => hgrows.offers (hoffers field hfield)⟩

theorem Holds.mono {sendingPackets : Yaml} (h : Holds yaml db sender sendingPackets)
    (hgrows : DataBase.Grows db db') : Holds yaml db' sender sendingPackets := by
  obtain ⟨entries, hpairs, hentries⟩ := h
  exact ⟨entries, hpairs, fun entry hentry => (hentries entry hentry).mono hgrows⟩

/-- The loop over the packets of a registration adds each of them, and removes nothing. -/
theorem addPackets_holds {entries : List (Yaml × Yaml)}
    (hadd : Central.addPackets order yaml sender db entries = some db') :
    DataBase.Grows db db' ∧ ∀ entry ∈ entries, HoldsEntry yaml db' sender entry := by
  induction entries generalizing db with
  | nil =>
    simp only [Central.addPackets, Option.some.injEq] at hadd
    subst hadd
    exact ⟨.refl db, by simp⟩
  | cons entry entries ih =>
    obtain ⟨name, hname, hadd⟩ := Option.bind_eq_some_iff.mp hadd
    obtain ⟨db₁, hdb₁, hadd⟩ := Option.bind_eq_some_iff.mp hadd
    obtain ⟨hgrows, hentries⟩ := ih hadd
    obtain ⟨fields, hfields, rfl⟩ := DataBase.addPacket_eq_some.mp hdb₁
    refine ⟨(DataBase.grows_addFields order db fields sender name).trans hgrows, ?_⟩
    intro entry' hentry'
    rcases List.mem_cons.mp hentry' with rfl | hrest
    · refine HoldsEntry.mono ⟨name, fields, hname, hfields, ?_, ?_⟩ hgrows
      · exact (DataBase.mem_keys_addFields order db fields sender name).mpr (.inl rfl)
      · exact fun field hfield => (DataBase.offers_addFields order db fields sender name).mpr
          (.inr ⟨rfl, field, hfield, rfl⟩)
    · exact hentries entry' hrest

theorem grows_replyLoop (order : HashOrder String) (db : DataBase)
    (requests : List (String × List String)) :
    DataBase.Grows db (Central.replyLoop order db requests).1 := by
  induction requests generalizing db with
  | nil => exact .refl db
  | cons request requests ih =>
    exact (DataBase.grows_providePackets order db request.2).trans (ih _)

/-- No step of Central removes anything from the database. -/
theorem grows_moves {c c' : Central} {msgState data : String} {sent : List Multipart}
    (hmove : Central.Moves order yaml c sender msgState data c' sent) :
    DataBase.Grows c.db c'.db := by
  cases hmove with
  | register clients db hphase hmem hdb hlt =>
    obtain ⟨_, _, _, _, hadd⟩ := Central.registered_eq_some.mp hdb
    exact (addPackets_holds hadd).1
  | registerLast clients db hphase hmem hdb =>
    obtain ⟨_, _, _, _, hadd⟩ := Central.registered_eq_some.mp hdb
    exact (addPackets_holds hadd).1
  | takeLast requestMap names => exact grows_replyLoop order c.db _
  | _ => exact .refl _

end Holds

namespace System

variable {ι : Type} [DecidableEq ι] {D : Deployment ι} {order : HashOrder String}
  {yaml : YamlCpp} {s s' : System ι}

omit [DecidableEq ι] in
/-- A message of a Node that is no client is its registration. -/
theorem Inv.data_eq (hinv : Inv D order yaml s) {i : ι} {msgState data : String}
    {rest : List Multipart} (hup : s.up i = [msgState, data] :: rest)
    (hmem : D.routingId i ∉ s.central.clients) :
    data = yaml.emit (D.config i).sendingPackets := by
  rcases hinv.up i [msgState, data] (by simp [hup]) with h | h | h
  · simpa [NodeState.registration] using (List.cons.inj h).2
  · exact absurd (hinv.mem_clients_of_state hup (List.cons.inj h).1) hmem
  · exact absurd (hinv.mem_clients_of_state hup (List.cons.inj h).1) hmem

/-- The database holds the packets of every client. -/
def Catalogued (D : Deployment ι) (yaml : YamlCpp) (s : System ι) : Prop :=
  ∀ i, D.routingId i ∈ s.central.clients →
    Holds yaml s.central.db (D.routingId i) (D.config i).sendingPackets

theorem Catalogued.steps (hreads : ∀ i, yaml.ReadsBack (D.config i).sendingPackets)
    (hinv : Inv D order yaml s) (hcat : Catalogued D yaml s) {e : Event ι}
    (hsteps : Steps D order yaml s e s') : Catalogued D yaml s' := by
  cases hsteps with
  | act => exact hcat
  | deliver => exact hcat
  | central i msgState data rest c sent hfault hup hmsgState hmove =>
    intro j hj
    have hgrows := grows_moves hmove
    rcases Central.clients_moves hmove with h | ⟨hmem, h, hdb⟩
    · exact (hcat j (h ▸ hj)).mono hgrows
    · rcases List.mem_append.mp (h ▸ hj) with hold | hnew
      · exact (hcat j hold).mono hgrows
      · -- the client just registered: its own packets are what Central has read
        obtain rfl := D.distinct (List.mem_singleton.mp hnew)
        obtain ⟨YData, entries, hload, hpairs, hadd⟩ := Central.registered_eq_some.mp hdb
        rw [hinv.data_eq hup hmem, hreads j, Option.some.injEq] at hload
        subst hload
        exact ⟨entries, hpairs, (addPackets_holds hadd).2⟩

theorem reachable_catalogued (hreads : ∀ i, yaml.ReadsBack (D.config i).sendingPackets)
    (hreach : Reachable D order yaml s) : Catalogued D yaml s := by
  refine hreach.induction (I := Catalogued D yaml) (fun i hi => ?_) ?_
  · simp [init] at hi
  · intro s e s' hreach hcat hstep
    have hinv := reachable_inv hreach
    exact hcat.steps hreads hinv (step_steps hinv hstep)

/-- **No Node runs ahead of its registration.** Where a Node's Fsm has left `Registration`,
it is registered exactly once and the database holds all its packets. -/
theorem registered_of_left (hreads : ∀ i, yaml.ReadsBack (D.config i).sendingPackets)
    (hreach : Reachable D order yaml s) (i : ι)
    (hleft : (s.node i).state.getCurrState ≠ .Registration) :
    s.central.clients.count (D.routingId i) = 1 ∧
    Holds yaml s.central.db (D.routingId i) (D.config i).sendingPackets := by
  have hinv := reachable_inv hreach
  have hstate : (s.node i).state ≠ Fsm.init := fun h => hleft (h ▸ rfl)
  have hmem := hinv.registered i (.inl hstate)
  exact ⟨List.count_eq_one_of_mem hinv.central.nodup hmem,
    reachable_catalogued hreads hreach i hmem⟩

/-! ## Two Nodes that send and ask for the same

The texts are the ones yaml-cpp emits for these values; any other text that occurs is plain
and parses to a scalar. -/

def samplePackets : Yaml := .map [(.scalar "P", .map [(.scalar "x", .scalar "int")])]

def sampleRequest : Yaml := .map [(.scalar "x", .scalar "int")]

def sampleYaml : YamlCpp := .documented
  (fun
    | .map [(.scalar name, .map [(.scalar field, .scalar type)])] =>
      name ++ ":\n  " ++ field ++ ": " ++ type
    | .map [(.scalar field, .scalar type)] => field ++ ": " ++ type
    | _ => "")
  fun text =>
    if text = "P:\n  x: int" then some samplePackets
    else if text = "x: int" then some sampleRequest
    else some (.scalar text)

def sampleDeployment (expectedClient : Nat) : Deployment Bool where
  expectedClient
  config i :=
    { identity := if i then "B" else "A"
      sendingPackets := samplePackets
      requestedData := sampleRequest }
  routingId i := if i then "B" else "A"
  routingId_eq _ _ := rfl
  distinct i j h := by cases i <;> cases j <;> simp_all

/-- The steps of the sample deployment, visiting maps in the order of insertion. -/
abbrev sampleStep (expectedClient : Nat) : System Bool → Event Bool → Option (System Bool) :=
  step (sampleDeployment expectedClient) (HashOrder.insertion String) sampleYaml

/-- One Node registers and hears the confirmation, the other has not started. -/
theorem registered_of_left_sample :
    ∃ s, Reachable (sampleDeployment 2) (HashOrder.insertion String) sampleYaml s ∧
      s.central.clients.count "A" = 1 ∧ Holds sampleYaml s.central.db "A" samplePackets := by
  obtain ⟨s, hrun, hstate⟩ : ∃ s, Run (sampleStep 2) Always (init (sampleDeployment 2))
      [.act false .boot, .central false, .deliver false] s ∧
      (s.node false).state.getCurrState = .Syncronization := Run.of_exec (by decide)
  have hleft : (s.node false).state.getCurrState ≠ .Registration := by rw [hstate]; decide
  have hreads : ∀ i, sampleYaml.ReadsBack ((sampleDeployment 2).config i).sendingPackets :=
    fun _ => rfl
  exact ⟨s, hrun.reachable, registered_of_left hreads hrun.reachable false hleft⟩

end System

end ComuFrame
