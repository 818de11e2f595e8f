import ComuFrame.Central.Moves
import ComuFrame.DataBase.Answers
import ComuFrame.DataBase.Choices
import ComuFrame.DataBase.Isolation
import ComuFrame.Lib.Arrivals

/-!
# ComuFrame — the reply loop: does every client get an answer?

The answer to a client consists of the packets `providePackets` returns and of nothing else, so
the message of an empty answer is the identity alone, which ROUTER drops without a word. The
Node blocks until its answer comes.

`everyoneAnswered_iff` says when all clients of a reply loop are answered: only an empty request
has an empty answer (`answer_ne_nil_iff`), and only while no flag is up. A call of the search
that runs off its end counts as false there; it happens only where a requested name has no
provider, and without such requests nothing depends on it (`everyoneAnswered_of_offered`).
-/

namespace ComuFrame

open Cpp Arrivals

namespace Central

variable {order : HashOrder String} {db : DataBase}

/-- Each reply is computed on the database as the requests before it have left it. -/
theorem replyLoop_split (before : List (String × List String)) (client : String)
    (request : List String) (after : List (String × List String)) (db : DataBase) :
    (⟨client, request, db.afterRequests order (before.map Prod.snd),
      ((db.afterRequests order (before.map Prod.snd)).providePackets order request).1⟩ : Reply)
      ∈ (replyLoop order db (before ++ (client, request) :: after)).2 := by
  induction before generalizing db with
  | nil => exact List.mem_cons_self
  | cons first before ih => exact List.mem_cons_of_mem _ (ih (db.providePackets order first.2).2)

/-- What the reply loop sends. -/
def replyMessages (order : HashOrder String) (db : DataBase)
    (requestMap : UnorderedMap String (List String)) : List Multipart :=
  (replyLoop order db (requestMap.iterate order)).2.map Reply.message

/-- Each of the clients is sent exactly one message, and that has a frame behind its
identity. -/
def EveryoneAnswered (order : HashOrder String) (db : DataBase)
    (requestMap : UnorderedMap String (List String)) (connectedClients : List String) : Prop :=
  ∀ client ∈ connectedClients, ∃ frame frames,
    (replyMessages order db requestMap).filter (fun msg => msg.head? = some client)
      = [client :: frame :: frames]

/-- One message for each client, whatever is in it. -/
theorem replyMessages_filter {requestMap : UnorderedMap String (List String)} {client : String}
    {request : List String} {before after : List (String × List String)}
    (heq : requestMap.iterate order = before ++ (client, request) :: after) :
    (replyMessages order db requestMap).filter (fun msg => msg.head? = some client)
      = [client :: ((db.afterRequests order (before.map Prod.snd)).providePackets order
          request).1] := by
  have hmem : _ ∈ (replyLoop order db _).2 := replyLoop_split before client request after db
  have hclients : (replyLoop order db (requestMap.iterate order)).2.map Reply.client
      = (requestMap.iterate order).map Prod.fst := by
    have hpairs : (replyLoop order db _).2.map _ = requestMap.iterate order :=
      map_replyLoop db (requestMap.iterate order)
    have hfst := congrArg (List.map Prod.fst) hpairs
    simpa [Function.comp_def] using hfst
  have hnodup : ((replyLoop order db (requestMap.iterate order)).2.map Reply.client).Nodup := by
    rw [hclients]
    exact requestMap.iterate_keys_nodup order
  rw [← heq] at hmem
  have hone := filter_key_eq_singleton Reply.client hnodup hmem
  rw [replyMessages, List.filter_map]
  have hpred : ((fun msg : Multipart => decide (msg.head? = some client)) ∘ Reply.message)
      = fun reply => decide (reply.client = client) := by
    funext reply
    simp [Reply.message]
  rw [hpred, hone]
  rfl

/-- The client of a request is answered if the request is not empty, or if some flag is up when
its turn comes. -/
theorem answered_iff (hdb : db.Valid) {requestMap : UnorderedMap String (List String)}
    {client : String} {request : List String} {before after : List (String × List String)}
    (heq : requestMap.iterate order = before ++ (client, request) :: after) :
    (∃ frame frames, (replyMessages order db requestMap).filter
        (fun msg => msg.head? = some client) = [client :: frame :: frames]) ↔
      request ≠ [] ∨ ∃ ptr packName, db.packOf ptr = some packName ∧
        (db.KeptSelected (before.map Prod.snd) ptr ∨
          db.LeftSelected (before.map Prod.snd) ptr) := by
  rw [replyMessages_filter heq, ← DataBase.exists_flag_afterRequests_iff order,
    ← DataBase.answer_ne_nil_iff (hdb.afterRequests order _) order]
  constructor
  · rintro ⟨frame, frames, hsent⟩
    rw [List.singleton_inj, List.cons.injEq] at hsent
    rw [hsent.2]
    exact List.cons_ne_nil _ _
  · intro hne
    obtain ⟨frame, frames, hanswer⟩ := List.exists_cons_of_ne_nil hne
    exact ⟨frame, frames, by rw [hanswer]⟩

/-- Where each client has a request, it has its turn. -/
theorem exists_turn {requestMap : UnorderedMap String (List String)} {client : String}
    (hkey : client ∈ requestMap.keys) :
    ∃ before request after, requestMap.iterate order = before ++ (client, request) :: after := by
  obtain ⟨request, hrequest⟩ := UnorderedMap.mem_keys.mp hkey
  have hturn : (client, request) ∈ requestMap.iterate order := UnorderedMap.mem_iterate.mpr hrequest
  obtain ⟨before, after, heq⟩ := List.append_of_mem hturn
  exact ⟨before, request, after, heq⟩

/-- **When the reply loop answers everybody**: exactly when some packet's flag is up at every
empty request, because it was up before the loop or because a rejected request has left it
up. -/
theorem everyoneAnswered_iff (hdb : db.Valid)
    {requestMap : UnorderedMap String (List String)} {connectedClients : List String}
    (hkeys : ∀ client, client ∈ requestMap.keys ↔ client ∈ connectedClients) :
    EveryoneAnswered order db requestMap connectedClients ↔
      ∀ before client after, requestMap.iterate order = before ++ (client, []) :: after →
        ∃ ptr packName, db.packOf ptr = some packName ∧
          (db.KeptSelected (before.map Prod.snd) ptr ∨
            db.LeftSelected (before.map Prod.snd) ptr) := by
  constructor
  · intro hall before client after heq
    have hclient : client ∈ connectedClients := by
      rw [← hkeys, UnorderedMap.mem_keys]
      exact ⟨[], UnorderedMap.mem_iterate.mp (by rw [heq]; simp)⟩
    exact ((answered_iff hdb heq).mp (hall client hclient)).resolve_left (by simp)
  · intro hcond client hclient
    obtain ⟨before, request, after, heq⟩ := exists_turn ((hkeys client).mpr hclient)
    rw [answered_iff hdb heq, or_iff_not_imp_left, not_not]
    intro hempty
    exact hcond before client after (by rw [heq, hempty])

/-- A packet for the datum the only client asks for. -/
theorem everyoneAnswered_sample :
    let db := DataBase.empty.addFields (HashOrder.insertion String)
      (UnorderedMap.empty.insert "a" "t") "node" "P"
    ¬ db.Rejects ["a_t"] ∧
    EveryoneAnswered (HashOrder.insertion String) db
      (UnorderedMap.empty.assign "A" ["a_t"]) ["A"] := by
  intro db
  refine ⟨by decide, (everyoneAnswered_iff (DataBase.valid_empty.addFields _ _ _ _)
    (fun client => Iff.rfl)).mpr fun before client after heq => ?_⟩
  have hiterate : (UnorderedMap.empty.assign "A" ["a_t"]).iterate
      (HashOrder.insertion String) = [("A", ["a_t"])] := by decide
  have hmem : (client, ([] : List String)) ∈ before ++ (client, []) :: after := by simp
  rw [← heq, hiterate] at hmem
  simp at hmem

/-- Whatever `tuneFunctions` gives where it runs off its end: if no request is empty and every
name asked for has a provider everybody is answered, and no call runs off. -/
theorem everyoneAnswered_of_offered (hdb : db.Valid)
    {requestMap : UnorderedMap String (List String)} {connectedClients : List String}
    (hkeys : ∀ client ∈ connectedClients, client ∈ requestMap.keys)
    (hasks : ∀ client request, (client, request) ∈ requestMap.nodes →
      request ≠ [] ∧ ¬ db.Rejects request) :
    EveryoneAnswered order db requestMap connectedClients ∧
      ∀ before client request after,
        requestMap.iterate order = before ++ (client, request) :: after →
          ∀ call ∈ (db.afterRequests order (before.map Prod.snd)).searchCalls request,
            call.result = some true := by
  have hturn {before after : List (String × List String)} {client : String}
      {request : List String}
      (heq : requestMap.iterate order = before ++ (client, request) :: after) :
      request ≠ [] ∧ ¬ db.Rejects request :=
    hasks client request (UnorderedMap.mem_iterate.mp (by rw [heq]; simp))
  constructor
  · intro client hclient
    obtain ⟨before, request, after, heq⟩ := exists_turn (hkeys client hclient)
    exact (answered_iff hdb heq).mpr (.inl (hturn heq).1)
  · intro before client request after heq call hcall
    refine DataBase.result_of_mem_searchCalls ?_ hcall
    rw [DataBase.rejects_afterRequests]
    exact (hturn heq).2

/-- A client that asks for nothing is sent its identity, which ROUTER drops. -/
theorem not_everyoneAnswered : ¬ ∀ (order : HashOrder String) (yaml : YamlCpp) (db : DataBase),
    DataBase.Reachable order yaml db →
      ∀ (requestMap : UnorderedMap String (List String)) (connectedClients : List String),
        connectedClients ≠ [] →
        (∀ client, client ∈ requestMap.keys ↔ client ∈ connectedClients) →
          EveryoneAnswered order db requestMap connectedClients := by
  intro hanswered
  obtain ⟨frame, frames, hsent⟩ := hanswered (HashOrder.insertion String)
    YamlCpp.textless DataBase.empty .empty
    (UnorderedMap.empty.assign "A" []) ["A"] (by decide) (fun client => Iff.rfl) "A" (by decide)
  have halone : (replyMessages (HashOrder.insertion String) DataBase.empty
      (UnorderedMap.empty.assign "A" [])).filter (fun msg => msg.head? = some "A") = [["A"]] := by
    decide
  rw [halone] at hsent
  simp at hsent

end Central

end ComuFrame
