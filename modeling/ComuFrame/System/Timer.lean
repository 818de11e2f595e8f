import ComuFrame.Lib.Simulation
import ComuFrame.System.Completion
import ComuFrame.System.Verdict

/-!
# ComuFrame — Central's main thread and its timer

`initCentral` runs beside the service thread. It waits for the notice that the requests are
answered, starts the timer thread, and from then on takes the timer's messages off its channel.
`initTimerThread` sends ten of them and ends. How long it sleeps between them is left out, and
so is the polling itself: in its last loop the main thread reads nothing but the timer channel.

The notice is made of a string literal, terminator included. The main thread compares it with
`strcmp`, which does not see the difference.

* `project_iff` — with the two threads beside it the system has the runs it has without them;
* `timer_of_run` — the timer starts behind the last answer and sends ten messages at most, and
  the main thread receives nothing else from it;
* `completion_with_timer` — where the system comes to its end, so does the timer.
-/

namespace ComuFrame

open Cpp Transition

/-- `message_t("...")`: the bytes of a string literal, with the terminator. -/
def literalMessage (text : String) : String := text.push '\x00'

/-- Where Central's main thread is. -/
inductive MainThread where
  /-- In the loop that waits for the notice. -/
  | waiting
  /-- In the last loop. -/
  | polling
  deriving DecidableEq, Repr

/-- Central's process, and the Nodes. -/
structure Process (ι : Type) where
  system : System ι
  main : MainThread
  /-- From the service thread to the main thread. -/
  serviceChannel : List String
  /-- The rounds that the timer thread has to go, once it is started. -/
  timer : Option ℕ
  /-- From the timer thread to the main thread. -/
  timerChannel : List String

namespace Central

/-- What the service thread sends to the main thread with one message of a Node: the notice,
where it leaves the request loop. -/
def notices (yaml : YamlCpp) (c : Central) (msg : Multipart) : List String :=
  match c.fault, c.phase with
  | none, .collecting requestMap =>
    match requestRound yaml c.state requestMap msg with
    | .ok (some requestMap) =>
      if requestMap.size = c.connectedClients.length then
        [literalMessage "syncronization Completed"]
      else []
    | _ => []
  | _, _ => []

/-- Behind the request loop. -/
def answering (c : Central) : Bool :=
  match c.phase with
  | .registering _ => false
  | .collecting _ => false
  | .subscribing _ _ => true

theorem answering_iff {c : Central} : c.answering = true ↔
    ∃ requestMap toCheckSubscriptions, c.phase = .subscribing requestMap toCheckSubscriptions := by
  unfold answering
  cases hphase : c.phase with
  | registering => simp
  | collecting => simp
  | subscribing requestMap toCheckSubscriptions =>
    exact iff_of_true rfl ⟨requestMap, toCheckSubscriptions, rfl⟩

@[simp] theorem answering_registrationHead (c : Central) (clients : List String) :
    (registrationHead c clients).1.answering = false := by
  by_cases hmore : clients.length < c.expectedClient
  · rw [registrationHead_lt hmore]
    rfl
  · rw [registrationHead_ge hmore]
    rfl

/-- The notice is sent once, by the step that answers everybody. -/
theorem notices_onMessage (order : HashOrder String) (yaml : YamlCpp) {c : Central}
    (hfault : c.fault = none) (msg : Multipart) :
    c.notices yaml msg = [] ∧ (c.onMessage order yaml msg).1.answering = c.answering ∨
    c.notices yaml msg = [literalMessage "syncronization Completed"] ∧
      c.answering = false ∧ (c.onMessage order yaml msg).1.answering = true := by
  unfold notices onMessage
  cases hphase : c.phase with
  | registering clients =>
    have hbefore : c.answering = false := by simp [answering, hphase]
    left
    simp only [hfault, hbefore, true_and]
    cases registerRound order yaml c.state c.db clients msg with
    | error fault => simp [answering]
    | ok round => exact answering_registrationHead _ round.1
  | collecting requestMap =>
    have hbefore : c.answering = false := by simp [answering, hphase]
    simp only [hfault, hbefore]
    cases requestRound yaml c.state requestMap msg with
    | error fault => left; simp [answering]
    | ok taken =>
      cases taken with
      | none => left; simp [hbefore]
      | some requestMap' =>
        simp only
        split
        · right; simp [answering, answerRequests]
        · left; simp [answering]
  | subscribing requestMap toCheckSubscriptions =>
    have hbefore : c.answering = true := by simp [answering, hphase]
    left
    simp only [hfault, hbefore, true_and]
    cases subscriptionRound c.state c.connectedClients toCheckSubscriptions msg with
    | error fault => simp [answering]
    | ok round => simp [answering]

/-- Behind the request loop every client is answered. -/
theorem Coherent.exists_reply {order : HashOrder String} {yaml : YamlCpp} {c : Central}
    (hc : Coherent order yaml c) (hanswering : c.answering = true) {client : String}
    (hclient : client ∈ c.connectedClients) : ∃ reply ∈ c.replies, reply.client = client := by
  obtain ⟨requestMap, toCheckSubscriptions, hphase⟩ := answering_iff.mp hanswering
  obtain ⟨db, -, hreplies⟩ := hc.replies _ _ hphase
  have hkey := hc.everyone _ _ hphase client hclient
  obtain ⟨request, hnode⟩ := UnorderedMap.mem_keys.mp hkey
  have hpair : (client, request) ∈ requestMap.iterate order := UnorderedMap.mem_iterate.mpr hnode
  have hpairs : c.replies.map (fun reply => (reply.client, reply.request))
      = requestMap.iterate order := by rw [hreplies, map_replyLoop]
  rw [← hpairs] at hpair
  obtain ⟨reply, hreply, heq⟩ := List.mem_map.mp hpair
  exact ⟨reply, hreply, congrArg Prod.fst heq⟩

end Central

namespace Process

variable {ι : Type}

inductive Event (ι : Type) where
  /-- A step of a Node or of the service thread. -/
  | system (e : ComuFrame.Event ι)
  /-- The main thread receives from the service channel. -/
  | mainService
  /-- The main thread receives from the timer channel. -/
  | mainTimer
  /-- One round of the timer's loop. -/
  | tick
  deriving DecidableEq

def init (D : Deployment ι) : Process ι :=
  { system := System.init D, main := .waiting, serviceChannel := [], timer := none,
    timerChannel := [] }

/-- The notices of an event. -/
def noticesOf (D : Deployment ι) (yaml : YamlCpp) (s : System ι) :
    ComuFrame.Event ι → List String
  | .central i =>
    match s.up i with
    | [] => []
    | msg :: _ => s.central.notices yaml (D.routingId i :: msg)
  | _ => []

/-- A message of the service thread: it is looked at only in the waiting loop. -/
def mainService (p : Process ι) : Option (Process ι) :=
  match p.main, p.serviceChannel with
  | .waiting, msg :: rest =>
    if strcmpEq msg "syncronization Completed" then
      some { p with serviceChannel := rest, main := .polling, timer := some 10 }
    else some { p with serviceChannel := rest }
  | _, _ => none

def mainTimer (p : Process ι) : Option (Process ι) :=
  match p.main, p.timerChannel with
  | .polling, _ :: rest => some { p with timerChannel := rest }
  | _, _ => none

def tick (p : Process ι) : Option (Process ι) :=
  match p.timer with
  | some (rounds + 1) =>
    some { p with
      timer := some rounds, timerChannel := p.timerChannel ++ [literalMessage "message"] }
  | _ => none

/-- An exception in the service thread ends the process. -/
def step [DecidableEq ι] (D : Deployment ι) (order : HashOrder String) (yaml : YamlCpp)
    (p : Process ι) : Event ι → Option (Process ι)
  | .system e =>
    (System.step D order yaml p.system e).map fun system =>
      { p with system, serviceChannel := p.serviceChannel ++ noticesOf D yaml p.system e }
  | .mainService => if p.system.central.fault = none then p.mainService else none
  | .mainTimer => if p.system.central.fault = none then p.mainTimer else none
  | .tick => if p.system.central.fault = none then p.tick else none

variable {p p' : Process ι}

/-! ## The system inside -/

/-- The step of the system in an event. -/
def Event.inside : Event ι → List (ComuFrame.Event ι)
  | .system e => [e]
  | .mainService => []
  | .mainTimer => []
  | .tick => []

/-- What the main thread and the timer have left to do, were the system to stand still. -/
def left (p : Process ι) : ℕ :=
  (match p.main with
    | .waiting => 21 + p.serviceChannel.length
    | .polling => 0) + 2 * p.timer.getD 0 + p.timerChannel.length

/-- The main thread and the timer leave the system alone, and come nearer to their end. -/
theorem mainService_spec (h : p.mainService = some p') :
    p'.system = p.system ∧ p'.left < p.left := by
  unfold mainService at h
  split at h
  · next msg rest hmain hservice =>
    split at h
    · simp only [Option.some.injEq] at h
      rw [← h]
      refine ⟨rfl, ?_⟩
      simp [left, hmain]
      omega
    · simp only [Option.some.injEq] at h
      rw [← h]
      refine ⟨rfl, ?_⟩
      simp [left, hmain, hservice]
  · simp at h

theorem mainTimer_spec (h : p.mainTimer = some p') :
    p'.system = p.system ∧ p'.left < p.left := by
  unfold mainTimer at h
  split at h
  · next msg rest hmain hchannel =>
    simp only [Option.some.injEq] at h
    rw [← h]
    refine ⟨rfl, ?_⟩
    simp [left, hmain, hchannel]
  · simp at h

theorem tick_spec (h : p.tick = some p') : p'.system = p.system ∧ p'.left < p.left := by
  unfold tick at h
  split at h
  · next rounds htimer =>
    simp only [Option.some.injEq] at h
    rw [← h]
    refine ⟨rfl, ?_⟩
    simp [left, htimer]
    omega
  · simp at h

variable [DecidableEq ι] {D : Deployment ι} {order : HashOrder String} {yaml : YamlCpp}
  {es : List (Event ι)}

/-- Steps of the system that are allowed. -/
abbrev Inside (ok : System ι → ComuFrame.Event ι → Prop) (p : Process ι) (e : Event ι) : Prop :=
  ∀ e' ∈ e.inside, ok p.system e'

/-- A step is one of the system, or leaves the system alone. -/
theorem step_inside {e : Event ι} (hstep : step D order yaml p e = some p') :
    (∃ e', e.inside = [e'] ∧ System.step D order yaml p.system e' = some p'.system) ∨
    e.inside = [] ∧ p'.system = p.system ∧ p'.left < p.left := by
  cases e with
  | system e =>
    obtain ⟨system, hsystem, rfl⟩ := Option.map_eq_some_iff.mp hstep
    exact .inl ⟨e, rfl, hsystem⟩
  | mainService => exact .inr ⟨rfl, mainService_spec (Option.ite_none_right_eq_some.mp hstep).2⟩
  | mainTimer => exact .inr ⟨rfl, mainTimer_spec (Option.ite_none_right_eq_some.mp hstep).2⟩
  | tick => exact .inr ⟨rfl, tick_spec (Option.ite_none_right_eq_some.mp hstep).2⟩

theorem forgets (ok : System ι → ComuFrame.Event ι → Prop) :
    Simulation (step D order yaml) (Inside ok) (init D) (System.step D order yaml) ok
      (System.init D) (fun _ e => e.inside) (fun p s => p.system = s) where
  init := rfl
  matched := by
    rintro es p ds s e p' - - rfl hok hstep
    rcases step_inside hstep with ⟨e', hinside, hsystem⟩ | ⟨hinside, hsystem, -⟩
    · rw [hinside]
      exact ⟨_, .one (hok e' (by simp [hinside])) hsystem, rfl⟩
    · rw [hinside]
      exact ⟨_, .nil, hsystem⟩

theorem accompanies : Simulation (System.step D order yaml) Always (System.init D)
    (step D order yaml) Always (init D) (fun _ e => [.system e]) (fun s p => p.system = s) where
  init := rfl
  matched := by
    rintro es s ds p e s' - - rfl - hstep
    exact ⟨_, .one trivial (by rw [step, hstep]; rfl), rfl⟩

/-- The run of the system inside. -/
theorem system_run {ok : System ι → ComuFrame.Event ι → Prop}
    (hrun : Run (step D order yaml) (Inside ok) (init D) es p) :
    Run (System.step D order yaml) ok (System.init D) (es.flatMap Event.inside) p.system := by
  obtain ⟨s, hrun', hs⟩ := (forgets ok).run hrun
  rw [hrun.outputs_event, ← hs] at hrun'
  exact hrun'

theorem reachable_system (hreach : Transition.Reachable (step D order yaml) (init D) p) :
    System.Reachable D order yaml p.system := by
  obtain ⟨es, hrun⟩ := hreach
  exact ⟨_, system_run (hrun.mono fun _ _ _ _ _ => trivial)⟩

/-- **The other threads are not seen.** Beside Central's main thread and its timer, the system
has the runs it has without them. -/
theorem project_iff {ds : List (ComuFrame.Event ι)} {s : System ι} :
    Run (System.step D order yaml) Always (System.init D) ds s ↔
      ∃ es p, es.flatMap Event.inside = ds ∧ Run (step D order yaml) Always (init D) es p ∧
        p.system = s := by
  constructor
  · intro hrun
    obtain ⟨p, hrun', hp⟩ := accompanies.run hrun
    rw [hrun.outputs_event] at hrun'
    refine ⟨_, p, ?_, hrun', hp⟩
    rw [List.flatMap_assoc]
    exact List.flatMap_singleton' ds
  · intro ⟨es, p, hes, hrun, hp⟩
    rw [← hes, ← hp]
    exact system_run (hrun.mono fun _ _ _ _ _ => trivial)

/-! ## The stages of the two threads -/

/-- Nothing but a step of Central changes what Central is. -/
theorem noticesOf_spec {s s' : System ι} {e : ComuFrame.Event ι}
    (hstep : System.step D order yaml s e = some s') :
    noticesOf D yaml s e = [] ∧ s'.central.answering = s.central.answering ∨
    noticesOf D yaml s e = [literalMessage "syncronization Completed"] ∧
      s.central.answering = false ∧ s'.central.answering = true := by
  cases e with
  | act i action =>
    obtain ⟨moved, hact, rfl⟩ := Option.map_eq_some_iff.mp hstep
    exact .inl ⟨rfl, rfl⟩
  | deliver i =>
    obtain ⟨msg, rest, st, sent, hdown, hreceive, rfl⟩ := System.step_deliver_iff.mp hstep
    exact .inl ⟨rfl, rfl⟩
  | central i =>
    obtain ⟨msg, rest, hup, hfault, rfl⟩ := System.central_of_step hstep
    simp only [noticesOf, hup]
    exact Central.notices_onMessage order yaml hfault (D.routingId i :: msg)

/-- How far the main thread and the timer are, behind the events `es`. -/
inductive Stage (es : List (Event ι)) (p : Process ι) : Prop where
  /-- The notice is on its way as soon as everybody is answered. -/
  | waiting (hmain : p.main = .waiting) (htimer : p.timer = none) (hchannel : p.timerChannel = [])
      (hservice : p.serviceChannel = if p.system.central.answering
        then [literalMessage "syncronization Completed"] else [])
      (hnotice : es.count .mainService = 0) (hticks : es.count .tick = 0)
      (hreceived : es.count .mainTimer = 0)
  /-- The notice was received, and the timer has `rounds` to go. -/
  | polling (rounds : ℕ) (hmain : p.main = .polling) (htimer : p.timer = some rounds)
      (hanswering : p.system.central.answering = true) (hservice : p.serviceChannel = [])
      (hnotice : es.count .mainService = 1) (hticks : es.count .tick + rounds = 10)
      (hreceived : es.count .tick = es.count .mainTimer + p.timerChannel.length)

theorem Stage.system (hstage : Stage es p) {e : ComuFrame.Event ι} {s : System ι}
    (hstep : System.step D order yaml p.system e = some s) :
    Stage (es ++ [.system e])
      { p with system := s, serviceChannel := p.serviceChannel ++ noticesOf D yaml p.system e } := by
  cases hstage with
  | waiting hmain htimer hchannel hservice hnotice hticks hreceived =>
    refine .waiting hmain htimer hchannel ?_ (by simpa using hnotice) (by simpa using hticks)
      (by simpa using hreceived)
    rcases noticesOf_spec hstep with ⟨hnone, hsame⟩ | ⟨hone, hbefore, hafter⟩
    · show p.serviceChannel ++ _ = _
      rw [hnone, hsame, List.append_nil, hservice]
    · show p.serviceChannel ++ _ = _
      simp [hone, hafter, hservice, hbefore]
  | polling rounds hmain htimer hanswering hservice hnotice hticks hreceived =>
    rcases noticesOf_spec hstep with ⟨hnone, hsame⟩ | ⟨-, hbefore, -⟩
    · refine .polling rounds hmain htimer (hsame.trans hanswering) ?_ (by simpa using hnotice)
        (by simpa using hticks) (by simpa using hreceived)
      show p.serviceChannel ++ _ = _
      rw [hservice, hnone, List.append_nil]
    · simp [hanswering] at hbefore

theorem Stage.mainService (hstage : Stage es p) (hthread : p.mainService = some p') :
    Stage (es ++ [.mainService]) p' := by
  unfold Process.mainService at hthread
  cases hstage with
  | waiting hmain htimer hchannel hservice hnotice hticks hreceived =>
    cases hanswering : p.system.central.answering with
    | false => simp [hmain, hservice, hanswering] at hthread
    | true =>
      have hequal : strcmpEq (literalMessage "syncronization Completed") "syncronization Completed"
          = true := by decide
      simp only [hmain, hservice, hanswering, if_true, hequal, Option.some.injEq] at hthread
      rw [← hthread]
      exact .polling 10 rfl rfl hanswering rfl (by simp [hnotice]) (by simp [hticks])
        (by simp [hticks, hreceived, hchannel])
  | polling rounds hmain => simp [hmain] at hthread

theorem Stage.mainTimer (hstage : Stage es p) (hthread : p.mainTimer = some p') :
    Stage (es ++ [.mainTimer]) p' := by
  unfold Process.mainTimer at hthread
  cases hstage with
  | waiting hmain => simp [hmain] at hthread
  | polling rounds hmain htimer hanswering hservice hnotice hticks hreceived =>
    cases hchannel : p.timerChannel with
    | nil => simp [hmain, hchannel] at hthread
    | cons msg rest =>
      simp only [hmain, hchannel, Option.some.injEq] at hthread
      rw [hchannel, List.length_cons] at hreceived
      rw [← hthread]
      refine .polling rounds rfl htimer hanswering hservice (by simpa using hnotice)
        (by simpa using hticks) ?_
      simp
      omega

theorem Stage.tick (hstage : Stage es p) (hthread : p.tick = some p') :
    Stage (es ++ [.tick]) p' := by
  unfold Process.tick at hthread
  cases hstage with
  | waiting hmain htimer => simp [htimer] at hthread
  | polling rounds hmain htimer hanswering hservice hnotice hticks hreceived =>
    cases rounds with
    | zero => simp [htimer] at hthread
    | succ rounds =>
      simp only [htimer, Option.some.injEq] at hthread
      rw [← hthread]
      refine .polling rounds hmain rfl hanswering hservice (by simpa using hnotice) ?_ ?_
      · simp
        omega
      · simp
        omega

theorem stage_of_run (hrun : Run (step D order yaml) Always (init D) es p) : Stage es p := by
  induction hrun with
  | nil => exact .waiting rfl rfl rfl (by simp [init, System.init, Central.init]) rfl rfl rfl
  | @snoc es p p' e hrun _ hstep ih =>
    cases e with
    | system e =>
      obtain ⟨system, hsystem, rfl⟩ := Option.map_eq_some_iff.mp hstep
      exact ih.system hsystem
    | mainService => exact ih.mainService (Option.ite_none_right_eq_some.mp hstep).2
    | mainTimer => exact ih.mainTimer (Option.ite_none_right_eq_some.mp hstep).2
    | tick => exact ih.tick (Option.ite_none_right_eq_some.mp hstep).2

/-- **The timer.** It starts once, behind the answers to all the clients that Central expects, and
sends ten messages at most; the main thread has received what is no longer in its channel. -/
theorem timer_of_run (hrun : Run (step D order yaml) Always (init D) es p) :
    es.count .mainService ≤ 1 ∧ es.count .tick ≤ 10 ∧
    es.count .tick = es.count .mainTimer + p.timerChannel.length ∧
    (0 < es.count .mainService →
      p.system.central.connectedClients.length = D.expectedClient ∧
      ∀ client ∈ p.system.central.connectedClients,
        ∃ reply ∈ p.system.central.replies, reply.client = client) ∧
    (p.timer = none → es.count .mainService = 0 ∧ es.count .tick = 0) ∧
    ∀ rounds, p.timer = some rounds →
      es.count .mainService = 1 ∧ es.count .tick + rounds = 10 := by
  have hreach := reachable_system hrun.reachable
  have hc := (System.reachable_inv hreach).central
  cases stage_of_run hrun with
  | waiting hmain htimer hchannel hservice hnotice hticks hreceived =>
    simp [htimer, hchannel, hnotice, hticks, hreceived]
  | polling rounds hmain htimer hanswering hservice hnotice hticks hreceived =>
    have hreg : p.system.central.registering = false := by
      obtain ⟨requestMap, toCheckSubscriptions, hphase⟩ := Central.answering_iff.mp hanswering
      exact (Central.subscribing_eq hphase).1
    refine ⟨by omega, by omega, hreceived, fun _ => ⟨(System.reachable_expected hreach).2 hreg,
      fun client hclient => hc.exists_reply hanswering hclient⟩, by simp [htimer], ?_⟩
    intro rounds' htimer'
    rw [htimer, Option.some.injEq] at htimer'
    exact ⟨hnotice, htimer' ▸ hticks⟩

/-- Two Nodes are answered, and the first message of the timer is received. -/
theorem timer_of_run_sample :
    ∃ p : Process Bool, Run (step (System.sampleDeployment 2) (HashOrder.insertion String) System.sampleYaml)
        Always (init (System.sampleDeployment 2))
        (System.firstAnswered.map .system ++ [.mainService, .tick, .mainTimer]) p ∧
      p.timer = some 9 ∧ p.system.central.connectedClients.length = 2 ∧
      ∀ client ∈ p.system.central.connectedClients,
        ∃ reply ∈ p.system.central.replies, reply.client = client := by
  obtain ⟨p, hrun, htimer⟩ : ∃ p : Process Bool,
      Run (step (System.sampleDeployment 2) (HashOrder.insertion String) System.sampleYaml) Always
        (init (System.sampleDeployment 2))
        (System.firstAnswered.map .system ++ [.mainService, .tick, .mainTimer]) p ∧
      p.timer = some 9 := Run.of_exec (by decide)
  obtain ⟨-, -, -, hanswered, -, -⟩ := timer_of_run hrun
  exact ⟨p, hrun, htimer, hanswered (by decide)⟩

/-! ## Completion -/

/-- Everything but the registration timeouts. -/
def Prompt (e : Event ι) : Prop := ∀ e' ∈ e.inside, System.Prompt e'

theorem next_inside (hnext : Next (step D order yaml) Prompt p' p) :
    Next (System.step D order yaml) System.Prompt p'.system p.system ∨
    p'.system = p.system ∧ p'.left < p.left := by
  obtain ⟨e, he, hstep⟩ := hnext
  rcases step_inside hstep with ⟨e', hinside, hsystem⟩ | ⟨-, hsame⟩
  · exact .inl ⟨e', he e' (by simp [hinside]), hsystem⟩
  · exact .inr hsame

/-- Where the two threads can do nothing and everybody is answered, the timer has run down. -/
theorem Stage.run_down (hstage : Stage es p) (hfault : p.system.central.fault = none)
    (hanswering : p.system.central.answering = true)
    (hstuck : ∀ p', ¬ Next (step D order yaml) Prompt p' p) :
    p.timer = some 0 ∧ p.serviceChannel = [] ∧ p.timerChannel = [] := by
  have hidle {e : Event ι} (he : e.inside = []) : step D order yaml p e = none := by
    rw [Option.eq_none_iff_forall_ne_some]
    intro p' hstep
    exact hstuck p' ⟨e, by simp [Prompt, he], hstep⟩
  have hservice := hidle (e := .mainService) rfl
  have htimer := hidle (e := .mainTimer) rfl
  have htick := hidle (e := .tick) rfl
  simp only [step, hfault, if_true] at hservice htimer htick
  cases hstage with
  | waiting hmain _ _ hchannel =>
    simp [Process.mainService, hmain, hchannel, hanswering] at hservice
    split at hservice <;> simp at hservice
  | polling rounds hmain hrounds _ hchannel =>
    have hempty : p.timerChannel = [] := by
      cases hqueue : p.timerChannel with
      | nil => rfl
      | cons msg rest => simp [Process.mainTimer, hmain, hqueue] at htimer
    have hzero : rounds = 0 := by
      cases rounds with
      | zero => rfl
      | succ rounds => simp [Process.tick, hrounds] at htick
    exact ⟨hzero ▸ hrounds, hchannel, hempty⟩

/-- **Everything comes to its end.** Under the conditions of `complete_of_stuck`, every way of
continuing a run that has confirmed nobody again, whatever the threads of Central and of the
Nodes do in between, comes to the point where all expected clients are released and the main
thread has received all ten messages of the timer. -/
theorem completion_with_timer [Fintype ι] (hreadable : ∀ i, ReadableConfig yaml (D.config i))
    (hnames : ∀ i, Central.requestedNames yaml (D.config i).requestedData ≠ some [])
    (hpos : 0 < D.expectedClient) (hcard : D.expectedClient ≤ Fintype.card ι)
    (hrun : Run (step D order yaml) (Inside (System.NoneReconfirmed D)) (init D) es p)
    (hclean : System.Clean D p.system) :
    Inevitable (step D order yaml) Prompt (fun p => System.Complete D order yaml p.system ∧
      p.timer = some 0 ∧ p.serviceChannel = [] ∧ p.timerChannel = []) p := by
  have hterm : Terminates (step D order yaml) Prompt p :=
    Terminates.lift Process.system left next_inside
      (System.reachable_terminates (system_run hrun).reachable)
  refine hterm.inevitable (I := fun p => System.Clean D p.system ∧
    ∃ es, Run (step D order yaml) (Inside (System.NoneReconfirmed D)) (init D) es p) ?_ ?_
    ⟨hclean, es, hrun⟩
  · intro p p' hI hnext
    obtain ⟨hclean, es, hrun⟩ := hI
    obtain ⟨e, he, hstep⟩ := hnext
    have hsettled := System.settled_of_run hreadable (system_run hrun)
    rcases step_inside hstep with ⟨e', hinside, hsystem⟩ | ⟨hinside, hsystem, -⟩
    · have hnone := hclean.noneReconfirmed hsettled hsystem
      exact ⟨hclean.step hsettled (he e' (by simp [hinside])) hsystem, _,
        hrun.snoc (by simpa [Inside, hinside] using hnone) hstep⟩
    · exact ⟨hsystem ▸ hclean, _, hrun.snoc (by simp [Inside, hinside]) hstep⟩
  · intro p hI hstuck
    obtain ⟨-, es, hrun⟩ := hI
    have hsystem : System.Stuck D order yaml p.system := by
      intro s hnext
      obtain ⟨e, he, hstep⟩ := hnext
      refine hstuck _ ⟨.system e, ?_, by rw [step, hstep]; rfl⟩
      simpa [Prompt, Event.inside] using he
    have hcomplete := System.complete_of_stuck hreadable hnames hpos hcard (system_run hrun) hsystem
    obtain ⟨requestMap, hphase⟩ := hcomplete.released
    have hstage := stage_of_run (hrun.mono fun _ _ _ => trivial)
    obtain ⟨htimer, hservice, hchannel⟩ := hstage.run_down hcomplete.fault
      (Central.answering_iff.mpr ⟨requestMap, [], hphase⟩) hstuck
    exact ⟨hcomplete, htimer, hservice, hchannel⟩

/-- From the start, for two Nodes. -/
theorem completion_with_timer_sample :
    Inevitable (step (System.sampleDeployment 2) (HashOrder.insertion String) System.sampleYaml) Prompt
      (fun p => System.Complete (System.sampleDeployment 2) (HashOrder.insertion String) System.sampleYaml
          p.system ∧
        p.timer = some 0 ∧ p.serviceChannel = [] ∧ p.timerChannel = [])
      (init (System.sampleDeployment 2)) :=
  completion_with_timer System.readable_sample
    (fun _ => show Central.requestedNames System.sampleYaml System.sampleRequest ≠ some [] by decide)
    (by decide) (by decide) .nil System.clean_init

end Process

end ComuFrame
