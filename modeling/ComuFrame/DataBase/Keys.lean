import ComuFrame.DataBase.Index
import ComuFrame.Lib.Text

/-!
# ComuFrame — joined names as keys

Packets are filed under `name_sender` and data under `field_type`, and nothing escapes the
separator inside the parts. `keepsApart_iff` says exactly for which calls this is good
enough: names and senders of packets with fields must be free of the separator, and where a
declared datum can be read in several ways its packet must declare all of them. If only
packets are looked up that some call has added, the separator may stand in their names, as
long as no two of them join to the same one (`keepsAddedApart_iff`).
-/

namespace ComuFrame

open Cpp

theorem toList_joined (left right : String) :
    (joined left right).toList = left.toList ++ '_' :: right.toList := by
  simp [joined]

theorem joined_inj_of_notMem {left right left' right' : String}
    (hleft : '_' ∉ left.toList) (hright : '_' ∉ right.toList)
    (h : joined left' right' = joined left right) : left' = left ∧ right' = right := by
  have hlist := congrArg String.toList h
  rw [toList_joined, toList_joined] at hlist
  obtain ⟨hl, hr⟩ := join_inj_of_notMem hleft hright hlist
  exact ⟨String.toList_injective hl, String.toList_injective hr⟩

/-- A separator inside a part gives the key a second reading. -/
theorem exists_joined_eq {left right : String}
    (h : '_' ∈ left.toList ∨ '_' ∈ right.toList) :
    ∃ left' right', joined left' right' = joined left right ∧ left' ≠ left := by
  obtain ⟨a, b, heq, hne⟩ := exists_other_split h
  refine ⟨String.ofList a, String.ofList b, String.toList_injective ?_, ?_⟩
  · rw [toList_joined, toList_joined, String.toList_ofList, String.toList_ofList]
    exact heq
  · rintro rfl
    exact hne String.toList_ofList.symm

namespace DataBase

/-- Some call added this packet. -/
def Registered (calls : List AddCall) (name sender : String) : Prop :=
  ∃ call ∈ calls, call.name = name ∧ call.sender = sender

/-- Some call declared exactly this field with exactly this type for exactly this packet. -/
def Declared (calls : List AddCall) (name sender field type : String) : Prop :=
  ∃ call ∈ calls, call.name = name ∧ call.sender = sender ∧
    (field, type) ∈ call.packToAdd.nodes

/-- The database finds a packet for a datum if and only if the packet declared it, and two
packets never share a node of `avaiablePacks`. -/
structure KeepsApart (order : HashOrder String) (calls : List AddCall) : Prop where
  lookup : ∀ field type name sender,
    (DataBase.empty.addAll order calls).Offers (joined field type) (joined name sender) ↔
      Declared calls name sender field type
  flags : ∀ name sender name' sender', Registered calls name sender →
    Registered calls name' sender' → (name, sender) ≠ (name', sender') →
      (DataBase.empty.addAll order calls).avaiablePacks.slot (joined name sender) ≠
        (DataBase.empty.addAll order calls).avaiablePacks.slot (joined name' sender')

/-- The joined names of these calls can be told apart. -/
structure Separable (calls : List AddCall) : Prop where
  packs : ∀ name sender field type, Declared calls name sender field type →
    '_' ∉ name.toList ∧ '_' ∉ sender.toList
  data : ∀ name sender field type, Declared calls name sender field type →
    ∀ field' type', joined field' type' = joined field type →
      Declared calls name sender field' type'
  names : ∀ name sender name' sender', Registered calls name sender →
    Registered calls name' sender' → joined name sender = joined name' sender' →
      (name, sender) = (name', sender')

/-- The same, of the packets that some call has added. -/
structure KeepsAddedApart (order : HashOrder String) (calls : List AddCall) : Prop where
  lookup : ∀ name sender, Registered calls name sender → ∀ field type,
    (DataBase.empty.addAll order calls).Offers (joined field type) (joined name sender) ↔
      Declared calls name sender field type
  flags : ∀ name sender name' sender', Registered calls name sender →
    Registered calls name' sender' → (name, sender) ≠ (name', sender') →
      (DataBase.empty.addAll order calls).avaiablePacks.slot (joined name sender) ≠
        (DataBase.empty.addAll order calls).avaiablePacks.slot (joined name' sender')

/-- No two packets of these calls join to one name, and no declared datum can be taken for one
that its packet does not declare. -/
structure Distinct (calls : List AddCall) : Prop where
  data : ∀ name sender field type, Declared calls name sender field type →
    ∀ field' type', joined field' type' = joined field type →
      Declared calls name sender field' type'
  names : ∀ name sender name' sender', Registered calls name sender →
    Registered calls name' sender' → joined name sender = joined name' sender' →
      (name, sender) = (name', sender')

theorem Separable.distinct {calls : List AddCall} (h : Separable calls) : Distinct calls where
  data := h.data
  names := h.names

theorem Declared.registered {calls : List AddCall} {name sender field type : String}
    (h : Declared calls name sender field type) : Registered calls name sender := by
  obtain ⟨call, hcall, hname, hsender, _⟩ := h
  exact ⟨call, hcall, hname, hsender⟩

/-- The lookup only sees the joined names. -/
theorem offers_joined_iff {order : HashOrder String} {calls : List AddCall}
    {dataName packName : String} :
    (DataBase.empty.addAll order calls).Offers dataName packName ↔
      ∃ name sender field type, Declared calls name sender field type ∧
        packName = joined name sender ∧ joined field type = dataName := by
  have hempty : ¬ DataBase.empty.Offers dataName packName := by
    simp [Offers, providers, DataBase.empty]
  rw [offers_addAll, or_iff_right hempty]
  constructor
  · rintro ⟨call, hcall, hpack, field, hfield, hdata⟩
    exact ⟨call.name, call.sender, field.1, field.2, ⟨call, hcall, rfl, rfl, hfield⟩,
      hpack, hdata⟩
  · rintro ⟨name, sender, field, type, ⟨call, hcall, rfl, rfl, hfield⟩, hpack, hdata⟩
    exact ⟨call, hcall, hpack, (field, type), hfield, hdata⟩

/-- Registered packets have their own node exactly when their joined names differ. -/
theorem slot_eq_iff_joined {order : HashOrder String} {calls : List AddCall}
    {name sender name' sender' : String} (h : Registered calls name sender)
    (h' : Registered calls name' sender') :
    (DataBase.empty.addAll order calls).avaiablePacks.slot (joined name sender) =
        (DataBase.empty.addAll order calls).avaiablePacks.slot (joined name' sender') ↔
      joined name sender = joined name' sender' := by
  have hmem : ∀ name sender, Registered calls name sender →
      joined name sender ∈ (DataBase.empty.addAll order calls).avaiablePacks.keys := by
    rintro name sender ⟨call, hcall, rfl, rfl⟩
    exact mem_keys_addAll.mpr (Or.inr ⟨call, hcall, rfl⟩)
  exact UnorderedMap.slot_inj (hmem name sender h) (hmem name' sender' h')

/-- Two packets with one node are one packet. -/
theorem KeepsAddedApart.names {order : HashOrder String} {calls : List AddCall}
    (h : KeepsAddedApart order calls) {name sender name' sender' : String}
    (hreg : Registered calls name sender) (hreg' : Registered calls name' sender')
    (heq : joined name sender = joined name' sender') : (name, sender) = (name', sender') := by
  by_contra hne
  exact h.flags _ _ _ _ hreg hreg' hne ((slot_eq_iff_joined hreg hreg').mpr heq)

theorem KeepsAddedApart.distinct {order : HashOrder String} {calls : List AddCall}
    (h : KeepsAddedApart order calls) : Distinct calls where
  data name sender field type hdecl field' type' heq := by
    have hreg := hdecl.registered
    rw [← h.lookup name sender hreg, heq, h.lookup name sender hreg]
    exact hdecl
  names _ _ _ _ := h.names

theorem Distinct.keepsAddedApart {calls : List AddCall} (h : Distinct calls)
    (order : HashOrder String) : KeepsAddedApart order calls where
  lookup name sender hreg field type := by
    rw [offers_joined_iff]
    constructor
    · rintro ⟨name', sender', field', type', hdecl, hpack, hdata⟩
      obtain ⟨rfl, rfl⟩ := Prod.mk.inj (h.names _ _ _ _ hreg hdecl.registered hpack)
      exact h.data _ _ _ _ hdecl field type hdata.symm
    · exact fun hdecl => ⟨name, sender, field, type, hdecl, rfl, rfl⟩
  flags _ _ _ _ hreg hreg' hne heq :=
    hne (h.names _ _ _ _ hreg hreg' ((slot_eq_iff_joined hreg hreg').mp heq))

/-- **When the database keeps the packets it has apart**: exactly when they and what they
declare can be told apart by the joined names. -/
theorem keepsAddedApart_iff (order : HashOrder String) (calls : List AddCall) :
    KeepsAddedApart order calls ↔ Distinct calls :=
  ⟨KeepsAddedApart.distinct, fun h => h.keepsAddedApart order⟩

/-- **When the database keeps packets and data apart.** -/
theorem keepsApart_iff (order : HashOrder String) (calls : List AddCall) :
    KeepsApart order calls ↔ Separable calls := by
  constructor
  · intro h
    have hadded : KeepsAddedApart order calls :=
      ⟨fun name sender _ field type => h.lookup field type name sender, h.flags⟩
    obtain ⟨hdata, hnames⟩ := hadded.distinct
    refine ⟨fun name sender field type hdecl => ?_, hdata, hnames⟩
    by_contra hsep
    rw [not_and_or, not_not, not_not] at hsep
    -- a second reading of the packet's key would be a second packet under it
    obtain ⟨name', sender', heq, hne⟩ := exists_joined_eq hsep
    have hoffers := (h.lookup field type name sender).mpr hdecl
    rw [← heq] at hoffers
    have hdecl' := (h.lookup field type name' sender').mp hoffers
    have hsame := hnames _ _ _ _ hdecl'.registered hdecl.registered heq
    exact hne (congrArg Prod.fst hsame)
  · intro h
    refine ⟨fun field type name sender => ?_, (h.distinct.keepsAddedApart order).flags⟩
    rw [offers_joined_iff]
    constructor
    · rintro ⟨name', sender', field', type', hdecl, hpack, hdata⟩
      obtain ⟨hname, hsender⟩ := h.packs _ _ _ _ hdecl
      obtain ⟨rfl, rfl⟩ := joined_inj_of_notMem hname hsender hpack
      exact h.data _ _ _ _ hdecl field type hdata.symm
    · exact fun hdecl => ⟨name, sender, field, type, hdecl, rfl, rfl⟩

/-- Calls that never use the separator are fine. -/
theorem separable_of_notMem {calls : List AddCall}
    (hpacks : ∀ call ∈ calls, '_' ∉ call.name.toList ∧ '_' ∉ call.sender.toList)
    (hfields : ∀ call ∈ calls, ∀ field ∈ call.packToAdd.nodes,
      '_' ∉ field.1.toList ∧ '_' ∉ field.2.toList) : Separable calls where
  packs := by
    rintro name sender field type ⟨call, hcall, rfl, rfl, _⟩
    exact hpacks call hcall
  data := by
    rintro name sender field type ⟨call, hcall, hname, hsender, hfield⟩ field' type' heq
    obtain ⟨hfst, hsnd⟩ := hfields call hcall _ hfield
    obtain ⟨rfl, rfl⟩ := joined_inj_of_notMem hfst hsnd heq
    exact ⟨call, hcall, hname, hsender, hfield⟩
  names := by
    rintro _ _ name' sender' ⟨call, hcall, rfl, rfl⟩ ⟨call', hcall', rfl, rfl⟩ heq
    obtain ⟨hname, hsender⟩ := hpacks call' hcall'
    obtain ⟨hn, hs⟩ := joined_inj_of_notMem hname hsender heq
    rw [hn, hs]

/-- A packet that declares `a : b_t` is found for the datum `a_b : t`. -/
theorem not_keepsApart : ¬ ∀ (order : HashOrder String) (calls : List AddCall),
    KeepsApart order calls := by
  intro h
  have hlookup := (h (HashOrder.insertion String)
    [⟨UnorderedMap.empty.insert "a" "b_t", "node", "P"⟩]).lookup "a_b" "t" "P" "node"
  have hdecl : ¬ Declared [⟨UnorderedMap.empty.insert "a" "b_t", "node", "P"⟩]
      "P" "node" "a_b" "t" := by
    rintro ⟨call, hcall, _, _, hfield⟩
    rw [List.mem_singleton] at hcall
    subst hcall
    exact absurd hfield (by decide)
  exact hdecl (hlookup.mp (by decide))

end DataBase

end ComuFrame
