import ComuFrame.System.Completion
import ComuFrame.System.Exact

/-!
# ComuFrame — when the system comes up

Whether everybody that Central expects is served is decided before the first message, by
`Central.yaml`, by the address it gives, by the number of Nodes and by what they ask for.

The constructor of Central catches what reading the file throws and goes on with a default
address, but there is no default for the number of clients: it stays 0, and then Central leaves
the registration loop at once and never answers anybody. A negative number becomes a huge one in
the comparison with the size of the client list. And nothing catches what `bind` throws on an
address it does not take, so the service thread ends there.

* `comes_up_iff` — with requests that ask for something and no registration timeouts, completion
  is inevitable if and only if the file is read, its address can be bound and the number in it
  is between 1 and the number of Nodes; otherwise Central never answers a request, not even with
  timeouts;
* `comes_up_iff_all_ask` — where everything asked for is declared and all Nodes are expected, it
  is inevitable if and only if everybody asks for something; who does not never has its
  subscriptions filled, and nobody is ever released.
-/

namespace ComuFrame

open Cpp Transition

/-! ## The constructor -/

/-- What `Central.yaml` gives: `none` where `as` throws. -/
structure CentralFile where
  url : Option String
  servicePort : Option String
  expectedClient : Option Int

/-- What the constructor sets. -/
structure CentralOptions where
  url : String
  expectedClient : Int
  deriving DecidableEq

/-- The `try` block: the assignments up to the first exception, and whether there was one. -/
def CentralFile.assign (file : CentralFile) (options : CentralOptions) : CentralOptions × Bool :=
  match file.url, file.servicePort with
  | some url, some servicePort =>
    let options := { options with url := url ++ servicePort }
    match file.expectedClient with
    | some expectedClient => ({ options with expectedClient }, false)
    | none => (options, true)
  | _, _ => (options, true)

/-- `Central::Central`; without a file it is `LoadFile` that throws. -/
def Central.construct (file : Option CentralFile) : CentralOptions :=
  let options : CentralOptions := { url := "", expectedClient := 0 }
  let (options, thrown) :=
    match file with
    | some file => file.assign options
    | none => (options, true)
  if thrown then { options with url := "tcp://127.0.0.1:5555" } else options

/-- `clients.size() < expectedClient` compares as `size_t`. -/
def CentralOptions.expectedSize (options : CentralOptions) : ℕ :=
  (BitVec.ofInt 64 options.expectedClient).toNat

/-- `initServiceThread` up to its first `recv`, where the socket takes the addresses for which
`binds` is true and `bind` throws on the others. -/
def Central.launch (binds : String → Bool) (options : CentralOptions) : Central :=
  let c := Central.init options.expectedSize
  if binds options.url then c else { c with fault := some .exception }

/-- The system behind the constructor of Central. -/
def System.launch {ι : Type} (binds : String → Bool) (options : CentralOptions) : System ι :=
  { central := Central.launch binds options
    node := fun _ => NodeState.init
    up := fun _ => []
    down := fun _ => [] }

/-! ## What the file decides -/

/-- The file is read without an exception, and gives this address and this number. -/
def CentralFile.Expects (file : CentralFile) (address : String) (expectedClient : Int) : Prop :=
  ∃ url servicePort, file.url = some url ∧ file.servicePort = some servicePort ∧
    address = url ++ servicePort ∧ file.expectedClient = some expectedClient

/-- The file is read, its address can be bound, and it expects between 1 and `nodes` clients. -/
def CentralFile.Serves (file : Option CentralFile) (binds : String → Bool) (nodes : ℕ) : Prop :=
  ∃ f address n, file = some f ∧ f.Expects address n ∧ binds address = true ∧
    0 < n ∧ n ≤ nodes

theorem construct_of_expects {file : CentralFile} {address : String} {n : Int}
    (hfile : file.Expects address n) : Central.construct (some file) = ⟨address, n⟩ := by
  obtain ⟨url, servicePort, hurl, hport, rfl, hn⟩ := hfile
  simp [Central.construct, CentralFile.assign, hurl, hport, hn]

/-- After an exception nobody is expected. -/
theorem construct_of_not_expects {file : Option CentralFile}
    (hfile : ∀ f address n, file = some f → ¬ f.Expects address n) :
    (Central.construct file).expectedClient = 0 := by
  cases file with
  | none => rfl
  | some f =>
    cases hurl : f.url with
    | none => simp [Central.construct, CentralFile.assign, hurl]
    | some url =>
      cases hport : f.servicePort with
      | none => simp [Central.construct, CentralFile.assign, hurl, hport]
      | some servicePort =>
        cases hn : f.expectedClient with
        | none => simp [Central.construct, CentralFile.assign, hurl, hport, hn]
        | some n => exact absurd ⟨url, servicePort, hurl, hport, rfl, hn⟩ (hfile f _ n rfl)

/-- Between 1 and a number of Nodes the conversion changes nothing, and it brings nothing else
there. -/
theorem expectedSize_iff {options : CentralOptions} {bound : ℕ} (hbound : bound < 2 ^ 63)
    (hlow : -2 ^ 31 ≤ options.expectedClient) (hhigh : options.expectedClient < 2 ^ 31) :
    0 < options.expectedSize ∧ options.expectedSize ≤ bound ↔
      0 < options.expectedClient ∧ options.expectedClient ≤ bound := by
  rw [CentralOptions.expectedSize, BitVec.toNat_ofInt]
  omega

/-- The same, read off what the constructor sets. -/
theorem serves_iff {file : Option CentralFile} {binds : String → Bool} {nodes : ℕ}
    (hint : ∀ f n, file = some f → f.expectedClient = some n → -2 ^ 31 ≤ n ∧ n < 2 ^ 31)
    (hnodes : nodes < 2 ^ 63) :
    CentralFile.Serves file binds nodes ↔
      binds (Central.construct file).url = true ∧ 0 < (Central.construct file).expectedSize ∧
        (Central.construct file).expectedSize ≤ nodes := by
  by_cases hfile : ∃ f address n, file = some f ∧ f.Expects address n
  · obtain ⟨f, address, n, rfl, hf⟩ := hfile
    have hconstruct := construct_of_expects hf
    have hnumber : f.expectedClient = some n := by
      obtain ⟨_, _, -, -, -, hn⟩ := hf
      exact hn
    obtain ⟨hlow, hhigh⟩ := hint f n rfl hnumber
    rw [hconstruct]
    rw [expectedSize_iff hnodes hlow hhigh]
    constructor
    · rintro ⟨f', address', n', hsame, hf', hbinds, hbounds⟩
      obtain rfl := Option.some.inj hsame
      obtain ⟨rfl, rfl⟩ :=
        CentralOptions.mk.inj (hconstruct.symm.trans (construct_of_expects hf'))
      exact ⟨hbinds, hbounds⟩
    · rintro ⟨hbinds, hbounds⟩
      exact ⟨f, address, n, rfl, hf, hbinds, hbounds⟩
  · have hzero := construct_of_not_expects fun f address n hf hn => hfile ⟨f, address, n, hf, hn⟩
    constructor
    · rintro ⟨f, address, n, hf, hn, -⟩
      exact absurd ⟨f, address, n, hf, hn⟩ hfile
    · rintro ⟨-, hpos, -⟩
      simp [CentralOptions.expectedSize, hzero] at hpos

namespace System

variable {ι : Type} {D : Deployment ι} {order : HashOrder String} {yaml : YamlCpp}
  {s s' : System ι} {binds : String → Bool} {options : CentralOptions}

theorem launch_of_binds (hbinds : binds options.url = true)
    (hexpected : D.expectedClient = options.expectedSize) : launch binds options = init D := by
  simp [launch, Central.launch, init, hbinds, hexpected]

section Run

variable [DecidableEq ι]

/-! ## Where nobody is answered -/

/-- A thread that has ended does nothing more. -/
theorem central_eq_of_fault {e : Event ι} (hfault : s.central.fault ≠ none)
    (hstep : step D order yaml s e = some s') : s'.central = s.central := by
  cases e with
  | act i action =>
    obtain ⟨_, -, rfl⟩ := Option.map_eq_some_iff.mp hstep
    rfl
  | deliver i =>
    simp only [step] at hstep
    split at hstep
    · simp at hstep
    · obtain ⟨_, -, rfl⟩ := Option.map_eq_some_iff.mp hstep
      rfl
  | central i =>
    obtain ⟨_, _, -, hnone, -⟩ := central_of_step hstep
    exact absurd hnone hfault

/-- If the address cannot be bound Central never takes a message. -/
theorem central_of_not_binds (hbinds : binds options.url = false)
    (hreach : Transition.Reachable (step D order yaml) (launch binds options) s) :
    s.central = Central.launch binds options := by
  refine hreach.induction (I := fun s => s.central = Central.launch binds options) rfl ?_
  intro s e s' _ hsame hstep
  have hfault : s.central.fault ≠ none := by simp [hsame, Central.launch, hbinds]
  exact (central_eq_of_fault hfault hstep).trans hsame

/-- If Central expects nobody it never leaves the request loop: it has no clients, and nobody
else sends a request. -/
theorem phase_ne_subscribing (hzero : D.expectedClient = 0) (hreach : Reachable D order yaml s)
    (requestMap : UnorderedMap String (List String)) (toCheckSubscriptions : List String) :
    s.central.phase ≠ .subscribing requestMap toCheckSubscriptions := by
  refine central_induction (I := fun c => ∀ requestMap toCheckSubscriptions,
    c.phase ≠ .subscribing requestMap toCheckSubscriptions)
    (Central.phase_init_ne D.expectedClient) ?_ hreach requestMap toCheckSubscriptions
  intro s i msgState data rest hreach hfault hup ih requestMap toCheckSubscriptions hphase
  have hinv := reachable_inv hreach
  rcases Central.subscribing_of_moves (Central.onMessage_moves hfault hinv.central.few) hphase with
    ⟨_, hbefore⟩ | ⟨⟨requestMap', hcollecting⟩, hstate, -⟩
  · exact ih _ _ hbefore
  · have hreg := (Central.collecting_eq hcollecting).1
    rw [hinv.central.toString_later hreg] at hstate
    have hclient := hinv.mem_clients_of_state hup hstate
    have hnone : s.central.connectedClients = [] := by
      rw [← List.length_eq_zero_iff, (reachable_expected hreach).2 hreg, hzero]
    simp [Central.clients, hcollecting, hnone] at hclient

/-- Past the registration loop Central has all the clients it expects, and they are Nodes. -/
theorem card_le_of_registered [Fintype ι] (hreach : Reachable D order yaml s)
    (hreg : s.central.registering = false) : D.expectedClient ≤ Fintype.card ι := by
  have hinv := reachable_inv hreach
  have hlen := hinv.clients_subperm.length_le
  rw [Central.clients_of_left hreg, (reachable_expected hreach).2 hreg, List.length_map,
    Finset.length_toList, Finset.card_univ] at hlen
  exact hlen

/-- **Nobody is answered** if the address cannot be bound, or if Central expects nobody or more
clients than there are Nodes. -/
theorem never_answers [Fintype ι] (hexpected : D.expectedClient = options.expectedSize)
    (hbad : ¬ (binds options.url = true ∧ 0 < options.expectedSize ∧
      options.expectedSize ≤ Fintype.card ι))
    (hreach : Transition.Reachable (step D order yaml) (launch binds options) s)
    (requestMap : UnorderedMap String (List String)) (toCheckSubscriptions : List String) :
    s.central.phase ≠ .subscribing requestMap toCheckSubscriptions := by
  cases hbinds : binds options.url with
  | false =>
    rw [central_of_not_binds hbinds hreach, Central.launch, hbinds]
    exact Central.phase_init_ne options.expectedSize requestMap toCheckSubscriptions
  | true =>
    rw [launch_of_binds hbinds hexpected] at hreach
    intro hphase
    have hcard := card_le_of_registered hreach (Central.subscribing_eq hphase).1
    rw [← hexpected] at hbad
    refine phase_ne_subscribing (Nat.eq_zero_of_not_pos fun hpos => ?_) hreach _ _ hphase
    exact hbad ⟨hbinds, hpos, hcard⟩

/-- A Node in its final loop has taken some message for its packets, and no message is empty. -/
theorem subscriptions_ne_nil (hreach : Reachable D order yaml s) {i : ι}
    (hservice : (s.node i).service = .loop) : (s.node i).subscriptions ≠ [] := by
  refine node_induction (I := fun st => st.service = .loop → st.subscriptions ≠ []) ?_ ?_ ?_ hreach
    hservice
  · intro h
    simp [NodeState.init] at h
  · intro s st sent _ ih hmove hloop
    rw [NodeState.subscriptions_moves hmove]
    rcases NodeState.service_moves hmove with hsame | ⟨-, hboot⟩
    · exact ih (hsame ▸ hloop)
    · simp [hboot] at hloop
  · intro s msg rest st sent hreach ih hdown hreceive hloop
    cases hreceive with
    | ack => simp at hloop
    | state => simp at hloop
    | packets => exact (reachable_inv hreach).down i msg (by simp [hdown])
    | allSubscribed hservice => exact ih hservice
    | ignore hservice => exact ih hservice
    | stop => simp at hloop

/-! ## Who asks for nothing -/

/-- The answer to an empty request is empty where no flag is up, and ROUTER drops it. -/
theorem not_filled_of_asks_nothing [Fintype ι]
    (hreadable : ∀ i, ReadableConfig yaml (D.config i))
    (hreads : ∀ i, yaml.ReadsBack (D.config i).sendingPackets) (hdeclared : AllDeclared D yaml)
    (hcard : D.expectedClient = Fintype.card ι) {es : List (Event ι)}
    (hrun : Run (step D order yaml) (NoneReconfirmed D) (init D) es s) {i : ι}
    (hnothing : Central.requestedNames yaml (D.config i).requestedData = some []) :
    (s.node i).service.filled = false := by
  by_contra hfilled
  have hsettled := settled_of_run hreadable hrun
  have hanswered := (hsettled.ordered i).answered (by simpa using hfilled)
  obtain ⟨requestMap, toCheckSubscriptions, hphase⟩ := hanswered.phase
  have hne := subscriptions_ne_nil hrun.reachable hanswered.service
  obtain ⟨reply, hreply, -, hnames, hprovided, hsubscriptions⟩ := hsettled.agree hanswered
  have hrequest : reply.request = [] := Option.some.inj (hnames.symm.trans hnothing)
  have hdb := (reachable_provided hrun.reachable reply hreply).1
  have hflags := unselected_reply hcard hreads hrun.reachable hsettled.kept hdeclared hphase
    hreply
  -- nothing is selected for an empty request
  have hnone : (reply.db.providePackets order reply.request).1 = [] := by
    rw [List.eq_nil_iff_forall_not_mem]
    intro packName
    rw [hrequest, DataBase.mem_answer_iff_gives hdb.valid hflags order
      (by simp [DataBase.rejects_iff])]
    simp [DataBase.Gives]
  rw [hsubscriptions, hprovided, hnone] at hne
  exact hne rfl

/-- A Node that is still without its packets keeps the barrier closed. -/
theorem not_released_of_not_filled [Fintype ι] (hcard : D.expectedClient = Fintype.card ι)
    (hreach : Reachable D order yaml s) {i : ι} (hfilled : (s.node i).service.filled = false)
    (requestMap : UnorderedMap String (List String)) :
    s.central.phase ≠ .subscribing requestMap [] := by
  intro hphase
  have hinv := reachable_inv hreach
  have hclient := mem_clients_of_card hcard hreach (Central.subscribing_eq hphase).1 i
  rw [(Central.subscribing_eq hphase).2.1] at hclient
  obtain ⟨j, hj, hsubscribed⟩ :=
    subscribed_of_released hinv (reachable_guarded hreach) hphase _ hclient
  obtain rfl := D.distinct hj
  have hlater := (hinv.node j).filled_of_queue (by simp [hsubscribed.1])
  exact absurd (hlater.symm.trans hfilled) (by decide)

end Run

/-! ## Completion -/

section Completion

variable [DecidableEq ι] [Fintype ι]

/-- With clients enough, and requests that ask for something. -/
theorem inevitable_of_bounds (hreadable : ∀ i, ReadableConfig yaml (D.config i))
    (hnames : ∀ i, Central.requestedNames yaml (D.config i).requestedData ≠ some [])
    (hpos : 0 < D.expectedClient) (hcard : D.expectedClient ≤ Fintype.card ι) :
    Inevitable (step D order yaml) Prompt (Complete D order yaml) (init D) := by
  refine (reachable_terminates .refl).inevitable (I := CleanRun D order yaml)
    (fun hrun hnext => hrun.next hreadable hnext) ?_ cleanRun_init
  intro s hrun hstuck
  obtain ⟨-, es, hrun⟩ := hrun
  exact complete_of_stuck hreadable hnames hpos hcard hrun hstuck

/-- A socket that takes addresses with a port. -/
def bindsPort (address : String) : Bool := address.toList.count ':' == 2

/-- **Who asks for nothing stops everybody.** Where everything asked for is declared and all
Nodes are expected, the answer to an empty request is a message without frames, which ROUTER
drops; so everybody is served, in whatever order things happen without a timeout, if and only if
every Node asks for something. As long as nobody is confirmed again, a Node that asks for nothing
has no subscriptions, and Central releases nobody. -/
theorem comes_up_iff_all_ask (hreadable : ∀ i, ReadableConfig yaml (D.config i))
    (hreads : ∀ i, yaml.ReadsBack (D.config i).sendingPackets) (hdeclared : AllDeclared D yaml)
    (hpos : 0 < D.expectedClient) (hcard : D.expectedClient = Fintype.card ι) :
    (Inevitable (step D order yaml) Prompt (Complete D order yaml) (init D) ↔
      ∀ i, Central.requestedNames yaml (D.config i).requestedData ≠ some []) ∧
    ∀ i, Central.requestedNames yaml (D.config i).requestedData = some [] → ∀ es s,
      Run (step D order yaml) (NoneReconfirmed D) (init D) es s →
        (s.node i).subscriptions = [] ∧
        (∀ requestMap, s.central.phase ≠ .subscribing requestMap []) ∧
        ∀ j, syncMSG "AllSubscribed" ∉ s.down j := by
  have hunfilled {i : ι} {es : List (Event ι)} {s : System ι}
      (hnothing : Central.requestedNames yaml (D.config i).requestedData = some [])
      (hrun : Run (step D order yaml) (NoneReconfirmed D) (init D) es s) :=
    not_filled_of_asks_nothing hreadable hreads hdeclared hcard hrun hnothing
  constructor
  · constructor
    · intro hinevitable i hnothing
      obtain ⟨s, ⟨-, es, hrun⟩, hcomplete⟩ := hinevitable.exists_kept (I := CleanRun D order yaml)
        (fun hrun hnext => hrun.next hreadable hnext) cleanRun_init
      obtain ⟨requestMap, hphase⟩ := hcomplete.released
      exact not_released_of_not_filled hcard hrun.reachable (hunfilled hnothing hrun) requestMap
        hphase
    · intro hnames
      exact inevitable_of_bounds hreadable hnames hpos hcard.le
  · intro i hnothing es s hrun
    have hfilled := hunfilled hnothing hrun
    have hreleased := not_released_of_not_filled hcard hrun.reachable hfilled
    refine ⟨?_, hreleased, fun j hdown => ?_⟩
    · rw [((reachable_inv hrun.reachable).node i).quiet hfilled]
      rfl
    · obtain ⟨requestMap, hphase⟩ := released_of_down hrun.reachable hdown
      exact hreleased requestMap hphase

/-- The first Node asks for what both send, the second for nothing. -/
def quietDeployment : Deployment Bool :=
  { sampleDeployment 2 with
    config := fun i =>
      { identity := if i then "B" else "A"
        sendingPackets := samplePackets
        requestedData := if i then .scalar "" else sampleRequest }
    routingId_eq := fun _ _ => rfl }

theorem readable_quiet (i : Bool) : ReadableConfig sampleYaml (quietDeployment.config i) where
  packets := (readable_sample i).packets
  request := by cases i <;> rfl
  names := by
    cases i with
    | false => exact (readable_sample false).names
    | true => exact ⟨[], rfl⟩

theorem allDeclared_quiet : AllDeclared quietDeployment sampleYaml := by
  intro j names hnames dataName hdata
  cases j with
  | false =>
    obtain ⟨k, packName, hdeclares⟩ := allDeclared_sample false names hnames dataName hdata
    exact ⟨k, packName, hdeclares⟩
  | true =>
    obtain rfl : [] = names := Option.some.inj hnames
    simp at hdata

theorem comes_up_iff_all_ask_sample :
    Inevitable (sampleStep 2) Prompt
      (Complete (sampleDeployment 2) (HashOrder.insertion String) sampleYaml)
      (init (sampleDeployment 2)) ∧
    ¬ Inevitable (step quietDeployment (HashOrder.insertion String) sampleYaml) Prompt
      (Complete quietDeployment (HashOrder.insertion String) sampleYaml)
      (init quietDeployment) := by
  constructor
  · refine (comes_up_iff_all_ask readable_sample (fun _ => rfl) allDeclared_sample (by decide)
      rfl).1.mpr fun _ => ?_
    show Central.requestedNames sampleYaml sampleRequest ≠ some []
    decide
  · intro hinevitable
    exact (comes_up_iff_all_ask readable_quiet (fun _ => rfl) allDeclared_quiet (by decide)
      rfl).1.mp hinevitable true rfl

end Completion

end System

end ComuFrame
