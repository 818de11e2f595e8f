import ComuFrame.DataBase.Answers
import ComuFrame.System.Basic

/-!
# ComuFrame — what a Node makes of a rejected request

`providePackets` reports a request it cannot satisfy by a text in the place of a packet name.
The reply loop puts the frames of any answer into a message, and the Node pops every frame of
it into its subscriptions. Neither compares a frame with that text.

`StoresOnlyPackets` is what the three should make sure of together, for one request on one
database; `storesOnlyPackets_iff` says when they do.
-/

namespace ComuFrame

open Cpp

namespace Central

/-- The reply to a request on a database. -/
def answerTo (order : HashOrder String) (db : DataBase) (client : String)
    (request : List String) : Reply :=
  { client, request, db, packetNeeded := (db.providePackets order request).1 }

end Central

namespace System

variable (order : HashOrder String) (yaml : YamlCpp)

/-- A Node that waits for its packets and receives the answer to the request adds names of
packets to its subscriptions, and none if some name it asked for has no provider. -/
def StoresOnlyPackets (db : DataBase) (request : List String) : Prop :=
  ∀ (identity : String) (cfg : NodeConfig) (st st' : NodeState) (frames : Multipart)
      (sent : List Multipart),
    st.service = .awaitingPackets →
    routed identity (Central.answerTo order db identity request).message = some frames →
    st.receive yaml cfg frames = some (st', sent) →
      ∃ added, st'.subscriptions = st.subscriptions ++ added ∧
        (∀ packName ∈ added, packName ∈ db.avaiablePacks.keys) ∧
        ((∃ dataName ∈ request, ∀ packName, ¬ db.Offers dataName packName) → added = [])

variable {order yaml}

/-- The frames of an answer are the answer. -/
theorem frames_of_routed {db : DataBase} {request : List String} {identity : String}
    {frames : Multipart}
    (h : routed identity (Central.answerTo order db identity request).message = some frames) :
    frames = (db.providePackets order request).1 := by
  unfold Reply.message Central.answerTo at h
  cases hanswer : (db.providePackets order request).1 with
  | nil => simp [hanswer, routed] at h
  | cons packName rest =>
    simp only [hanswer, routed, if_true, Option.some.injEq] at h
    exact h.symm

/-- Whatever arrives while a Node waits for its packets is stored. -/
theorem subscriptions_of_receive {cfg : NodeConfig} {st st' : NodeState} {frames : Multipart}
    {sent : List Multipart} (hservice : st.service = .awaitingPackets)
    (h : st.receive yaml cfg frames = some (st', sent)) :
    st'.subscriptions = st.subscriptions ++ frames := by
  unfold NodeState.receive at h
  rw [hservice] at h
  simp only [Option.some.injEq, Prod.mk.injEq] at h
  rw [← h.1]

/-- A rejected request leaves the text among the subscriptions. -/
theorem stores_notFound (yaml : YamlCpp) {db : DataBase} {request : List String}
    (hrejects : db.Rejects request) : ¬ StoresOnlyPackets order yaml db request := by
  intro hstores
  have hanswer : (db.providePackets order request).1 = [DataBase.notFound] :=
    (DataBase.providePackets_rejects order hrejects).1
  let st : NodeState := { NodeState.init with service := .awaitingPackets }
  have hrouted : routed "node" (Central.answerTo order db "node" request).message =
      some [DataBase.notFound] := by
    simp [Reply.message, Central.answerTo, hanswer, routed]
  obtain ⟨added, hadded, -, hnone⟩ := hstores "node" ⟨"node", .null, .null⟩ st _ _ _ rfl
    hrouted rfl
  rw [hnone (DataBase.rejects_iff.mp hrejects)] at hadded
  exact absurd hadded (by simp [st, NodeState.init])

/-- **When a Node stores only packets**: exactly if every name of the request has a
provider. -/
theorem storesOnlyPackets_iff (order : HashOrder String) (yaml : YamlCpp) (db : DataBase)
    (request : List String) :
    StoresOnlyPackets order yaml db request ↔
      ∀ dataName ∈ request, ∃ packName, db.Offers dataName packName := by
  have hrejects : (∀ dataName ∈ request, ∃ packName, db.Offers dataName packName) ↔
      ¬ db.Rejects request := by
    rw [DataBase.rejects_iff]
    simp only [not_exists, not_and, not_forall, not_not]
  rw [hrejects]
  constructor
  · exact fun hstores hrejected => stores_notFound yaml hrejected hstores
  · intro hfound identity cfg st st' frames sent hservice hrouted hreceive
    refine ⟨frames, subscriptions_of_receive hservice hreceive, fun packName hmem => ?_, ?_⟩
    · rw [frames_of_routed hrouted] at hmem
      exact DataBase.mem_keys_of_mem_answer hfound hmem
    · intro hnone
      exact absurd (DataBase.rejects_iff.mpr hnone) hfound

/-- A request to a database without packets. -/
theorem not_storesOnlyPackets :
    ¬ ∀ (order : HashOrder String) (yaml : YamlCpp) (db : DataBase),
      DataBase.Reachable order yaml db →
        ∀ request : List String, StoresOnlyPackets order yaml db request := by
  intro hstores
  have hrejected : DataBase.empty.Rejects ["notPresentData"] :=
    ⟨"notPresentData", List.mem_singleton_self _, rfl⟩
  exact stores_notFound _ hrejected (hstores (HashOrder.insertion String)
    YamlCpp.textless DataBase.empty DataBase.Reachable.empty _)

end System

end ComuFrame
