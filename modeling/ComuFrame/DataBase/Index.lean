import ComuFrame.DataBase.Basic

/-!
# ComuFrame — the index and its pointers

`db.providers d` is what `index[d]` reads: the packets listed under `d`, none if there is
no entry. Adding a packet appends to these lists and to `avaiablePacks`, never moves a node
and never removes one, so a pointer taken once keeps pointing to the flag of its packet.
`DataBase.Valid` says so, and every reachable database is valid (`Reachable.valid`).
-/

namespace ComuFrame

open Cpp

namespace DataBase

/-- What `index[dataName]` reads. -/
def providers (db : DataBase) (dataName : String) : List (String × BoolPtr) :=
  (db.index.find? dataName).getD []

/-- `index` lists `packName` under `dataName`. -/
def Offers (db : DataBase) (dataName packName : String) : Prop :=
  packName ∈ (db.providers dataName).map Prod.fst

instance (db : DataBase) (dataName packName : String) :
    Decidable (db.Offers dataName packName) :=
  inferInstanceAs (Decidable (_ ∈ _))

/-- The packet whose flag `ptr` points to. -/
def packOf (db : DataBase) (ptr : BoolPtr) : Option String := db.avaiablePacks.keys[ptr.node]?

/-- `&avaiablePacks[packName]`, for a packet that is there. -/
def flagOf (db : DataBase) (packName : String) : BoolPtr := ⟨db.avaiablePacks.slot packName⟩

/-- No flag is set. -/
def Unselected (db : DataBase) : Prop := ∀ ptr, db.flags ptr = false

/-! ## Flags -/

theorem packOf_isSome_iff {db : DataBase} {ptr : BoolPtr} :
    (∃ packName, db.packOf ptr = some packName) ↔ ptr.node < db.avaiablePacks.nodes.length := by
  rw [packOf, ← Option.isSome_iff_exists]
  simp [UnorderedMap.keys]

/-- A pointer that points to a packet reads what was written through it. -/
theorem flags_withFlags {db : DataBase} {ptr : BoolPtr} {packName : String}
    (hptr : db.packOf ptr = some packName) (flags : Flags) :
    (db.withFlags flags).flags ptr = flags ptr := by
  have hlt := packOf_isSome_iff.mp ⟨packName, hptr⟩
  simp [DataBase.flags, withFlags, List.getElem?_eq_getElem hlt]

@[simp] theorem packOf_withFlags (db : DataBase) (flags : Flags) (ptr : BoolPtr) :
    (db.withFlags flags).packOf ptr = db.packOf ptr := by
  simp [packOf, withFlags]

@[simp] theorem providers_withFlags (db : DataBase) (flags : Flags) (dataName : String) :
    (db.withFlags flags).providers dataName = db.providers dataName := rfl

@[simp] theorem keys_withFlags (db : DataBase) (flags : Flags) :
    (db.withFlags flags).avaiablePacks.keys = db.avaiablePacks.keys := by
  simp [withFlags]

@[simp] theorem packOf_resetPackets (db : DataBase) (ptr : BoolPtr) :
    db.resetPackets.packOf ptr = db.packOf ptr := by
  simp [packOf, resetPackets]

@[simp] theorem providers_resetPackets (db : DataBase) (dataName : String) :
    db.resetPackets.providers dataName = db.providers dataName := rfl

@[simp] theorem keys_resetPackets (db : DataBase) :
    db.resetPackets.avaiablePacks.keys = db.avaiablePacks.keys := by
  simp [resetPackets]

theorem unselected_resetPackets (db : DataBase) : db.resetPackets.Unselected := by
  intro ptr
  simp only [DataBase.flags, resetPackets, UnorderedMap.nodes_getElem?_mapSlots]
  cases db.avaiablePacks.nodes[ptr.node]? <;> rfl

/-- A key with its flag, read through a pointer. -/
theorem mem_nodes_iff {db : DataBase} {packName : String} {taken : Bool} :
    (packName, taken) ∈ db.avaiablePacks.nodes ↔
      ∃ ptr, db.packOf ptr = some packName ∧ db.flags ptr = taken := by
  constructor
  · intro hmem
    obtain ⟨node, hnode⟩ := List.mem_iff_getElem?.mp hmem
    exact ⟨⟨node⟩, by simp [packOf, UnorderedMap.keys, hnode], by simp [DataBase.flags, hnode]⟩
  · rintro ⟨ptr, hptr, hflag⟩
    simp only [packOf, UnorderedMap.keys, List.getElem?_map, Option.map_eq_some_iff] at hptr
    obtain ⟨entry, hentry, rfl⟩ := hptr
    simp only [DataBase.flags, hentry, Option.map_some, Option.getD_some] at hflag
    rw [← hflag]
    exact List.mem_of_getElem? hentry

/-- Two pointers to the same packet are the same pointer. -/
theorem packOf_injective {db : DataBase} {ptr ptr' : BoolPtr} {packName : String}
    (h : db.packOf ptr = some packName) (h' : db.packOf ptr' = some packName) : ptr = ptr' := by
  obtain ⟨node⟩ := ptr
  obtain ⟨node'⟩ := ptr'
  obtain ⟨hlt, hget⟩ := List.getElem?_eq_some_iff.mp h
  obtain ⟨hlt', hget'⟩ := List.getElem?_eq_some_iff.mp h'
  have := (List.Nodup.getElem_inj_iff db.avaiablePacks.keys_nodup).mp (hget.trans hget'.symm)
  simpa using this

/-- A packet that is there has one pointer. -/
theorem packOf_eq_some_iff {db : DataBase} {ptr : BoolPtr} {packName : String} :
    db.packOf ptr = some packName ↔
      packName ∈ db.avaiablePacks.keys ∧ ptr = db.flagOf packName := by
  constructor
  · intro hptr
    have hmem : packName ∈ db.avaiablePacks.keys := List.mem_of_getElem? hptr
    refine ⟨hmem, packOf_injective hptr ?_⟩
    exact UnorderedMap.keys_getElem?_slot hmem
  · intro ⟨hmem, heq⟩
    rw [heq]
    exact UnorderedMap.keys_getElem?_slot hmem

theorem flagOf_inj {db : DataBase} {packName other : String}
    (hmem : packName ∈ db.avaiablePacks.keys) (hother : other ∈ db.avaiablePacks.keys) :
    db.flagOf packName = db.flagOf other ↔ packName = other := by
  rw [flagOf, flagOf, BoolPtr.mk.injEq, UnorderedMap.slot_inj hmem hother]
/-! ## Adding a packet -/

/-- Both branches of the loop append one entry to what the index lists. -/
theorem addField_eq (packName : String) (db : DataBase) (field : String × String) :
    addField packName db field =
      { index := db.index.assign (joined field.1 field.2)
          (db.providers (joined field.1 field.2) ++
            [(packName, ⟨(db.avaiablePacks.insert packName false).slot packName⟩)])
        avaiablePacks := db.avaiablePacks.insert packName false } := by
  simp only [addField, providers]
  cases hfind : db.index.find? (joined field.1 field.2) with
  | none => rfl
  | some dataToUpdate => rfl

theorem avaiablePacks_addField (packName : String) (db : DataBase) (field : String × String) :
    (addField packName db field).avaiablePacks = db.avaiablePacks.insert packName false := by
  rw [addField_eq]

theorem providers_addField (packName : String) (db : DataBase) (field : String × String)
    (dataName : String) :
    (addField packName db field).providers dataName
      = db.providers dataName ++ if joined field.1 field.2 = dataName
          then [(packName, ⟨(db.avaiablePacks.insert packName false).slot packName⟩)] else [] := by
  rw [addField_eq]
  simp only [providers, UnorderedMap.find?_assign]
  by_cases h : dataName = joined field.1 field.2
  · subst h; simp
  · simp [h, Ne.symm h]

/-- The loop of `addPacket`, once its packet is in the map: every field appends one entry,
and the pointer is the same each time. Induction on the fields. -/
theorem foldl_addField {packName : String} (fields : List (String × String)) (db : DataBase)
    (hmem : packName ∈ db.avaiablePacks.keys) :
    (fields.foldl (addField packName) db).avaiablePacks = db.avaiablePacks ∧
    ∀ dataName, (fields.foldl (addField packName) db).providers dataName
      = db.providers dataName ++
        (fields.filter fun field => joined field.1 field.2 = dataName).map
          fun _ => (packName, ⟨db.avaiablePacks.slot packName⟩) := by
  induction fields generalizing db with
  | nil => simp
  | cons field fields ih =>
    have hsame : (addField packName db field).avaiablePacks = db.avaiablePacks := by
      rw [avaiablePacks_addField, UnorderedMap.insert_of_mem hmem]
    obtain ⟨hpacks, hproviders⟩ := ih (addField packName db field) (by rwa [hsame])
    refine ⟨by rw [List.foldl_cons, hpacks, hsame], fun dataName => ?_⟩
    rw [List.foldl_cons, hproviders, providers_addField, hsame,
      UnorderedMap.insert_of_mem hmem, List.append_assoc]
    congr 1
    by_cases h : joined field.1 field.2 = dataName
    · simp [h]
    · simp [h]

section AddFields

variable (order : HashOrder String) (db : DataBase) (packToAdd : UnorderedMap String String)
  (sender name : String)

@[simp] theorem avaiablePacks_addFields :
    (db.addFields order packToAdd sender name).avaiablePacks
      = db.avaiablePacks.insert (joined name sender) false :=
  (foldl_addField _ { db with
    avaiablePacks := db.avaiablePacks.insert (joined name sender) false } (by simp)).1

theorem providers_addFields (dataName : String) :
    (db.addFields order packToAdd sender name).providers dataName
      = db.providers dataName ++
        ((packToAdd.iterate order).filter fun field => joined field.1 field.2 = dataName).map
          fun _ => (joined name sender,
            ⟨(db.avaiablePacks.insert (joined name sender) false).slot (joined name sender)⟩) :=
  (foldl_addField _ { db with
    avaiablePacks := db.avaiablePacks.insert (joined name sender) false } (by simp)).2 dataName

/-- **What `addPacket` adds to the index**: its own packet, under the name of each of its
fields. -/
theorem offers_addFields {dataName packName : String} :
    (db.addFields order packToAdd sender name).Offers dataName packName ↔
      db.Offers dataName packName ∨ (packName = joined name sender ∧
        ∃ field ∈ packToAdd.nodes, joined field.1 field.2 = dataName) := by
  simp only [Offers, providers_addFields, List.map_append, List.mem_append, List.map_map,
    List.mem_map, List.mem_filter, UnorderedMap.mem_iterate, decide_eq_true_eq,
    Function.comp_def]
  constructor
  · rintro (h | ⟨field, ⟨hfield, hdata⟩, hpack⟩)
    · exact Or.inl h
    · exact Or.inr ⟨hpack.symm, field, hfield, hdata⟩
  · rintro (h | ⟨hpack, field, hfield, hdata⟩)
    · exact Or.inl h
    · exact Or.inr ⟨field, ⟨hfield, hdata⟩, hpack.symm⟩

/-- The packets already there keep their nodes. -/
theorem packOf_addFields {ptr : BoolPtr} {packName : String}
    (hptr : db.packOf ptr = some packName) :
    (db.addFields order packToAdd sender name).packOf ptr = some packName := by
  obtain ⟨rest, hrest⟩ := db.avaiablePacks.keys_prefix_insert (joined name sender) false
  obtain ⟨hlt, _⟩ := List.getElem?_eq_some_iff.mp hptr
  rw [packOf, avaiablePacks_addFields, ← hrest, List.getElem?_append_left hlt]
  exact hptr

theorem mem_keys_addFields {packName : String} :
    packName ∈ (db.addFields order packToAdd sender name).avaiablePacks.keys ↔
      packName = joined name sender ∨ packName ∈ db.avaiablePacks.keys := by
  simp

/-- A packet is added with its flag down. -/
theorem unselected_addFields (hdb : db.Unselected) :
    (db.addFields order packToAdd sender name).Unselected := by
  intro ptr
  by_cases hmem : joined name sender ∈ db.avaiablePacks.keys
  · have := hdb ptr
    simpa [DataBase.flags, UnorderedMap.insert_of_mem hmem] using this
  · simp only [DataBase.flags, avaiablePacks_addFields,
      UnorderedMap.nodes_insert_of_notMem hmem, List.getElem?_append]
    split
    · exact hdb ptr
    · cases h : [(joined name sender, false)][ptr.node - db.avaiablePacks.nodes.length]? with
      | none => rfl
      | some entry =>
        have := List.mem_singleton.mp (List.mem_of_getElem? h)
        simp [this]

end AddFields

/-! ## Validity -/

/-- Every entry of the index points to the flag of the packet it names, and every packet
has a joined name. -/
structure Valid (db : DataBase) : Prop where
  pointsTo : ∀ dataName, ∀ entry ∈ db.providers dataName, db.packOf entry.2 = some entry.1
  named : ∀ packName ∈ db.avaiablePacks.keys, ∃ name sender, packName = joined name sender

theorem valid_empty : Valid DataBase.empty where
  pointsTo dataName entry hentry := by simp [providers, DataBase.empty] at hentry
  named packName hmem := by simp [DataBase.empty] at hmem

theorem Valid.addFields {db : DataBase} (hdb : db.Valid) (order : HashOrder String)
    (packToAdd : UnorderedMap String String) (sender name : String) :
    (db.addFields order packToAdd sender name).Valid where
  pointsTo dataName entry hentry := by
    rw [providers_addFields, List.mem_append] at hentry
    rcases hentry with hold | hnew
    · exact packOf_addFields order db packToAdd sender name (hdb.pointsTo dataName entry hold)
    · obtain ⟨_, _, rfl⟩ := List.mem_map.mp hnew
      rw [packOf, avaiablePacks_addFields]
      exact UnorderedMap.keys_getElem?_slot (by simp)
  named packName hmem := by
    rcases (mem_keys_addFields order db packToAdd sender name).mp hmem with rfl | hold
    · exact ⟨name, sender, rfl⟩
    · exact hdb.named packName hold

/-- Validity only reads the index and the keys. -/
theorem Valid.congr {db db' : DataBase} (hdb : db.Valid)
    (hproviders : ∀ dataName, db'.providers dataName = db.providers dataName)
    (hkeys : db'.avaiablePacks.keys = db.avaiablePacks.keys) : db'.Valid where
  pointsTo dataName entry hentry := by
    rw [hproviders] at hentry
    rw [packOf, hkeys]
    exact hdb.pointsTo dataName entry hentry
  named packName hmem := hdb.named packName (hkeys ▸ hmem)

/-- A successful `addPacket` is an `addFields` on the converted packet. -/
theorem addPacket_eq_some {order : HashOrder String} {yaml : YamlCpp} {db db' : DataBase}
    {YPack : Yaml} {sender name : String} :
    db.addPacket order yaml YPack sender name = some db' ↔
      ∃ packToAdd, yaml.asStringMap YPack = some packToAdd ∧
        db.addFields order packToAdd sender name = db' := by
  simp [addPacket, Option.bind_eq_some_iff]

/-- Where every map of fields is what some packet converts to, it can be added. -/
theorem exists_addPacket {yaml : YamlCpp} (hcovers : yaml.CoversStringMaps)
    (order : HashOrder String) (db : DataBase) (packToAdd : UnorderedMap String String)
    (sender name : String) :
    ∃ YPack, db.addPacket order yaml YPack sender name
      = some (db.addFields order packToAdd sender name) := by
  obtain ⟨YPack, hconvert⟩ := hcovers packToAdd
  exact ⟨YPack, addPacket_eq_some.mpr ⟨packToAdd, hconvert, rfl⟩⟩

/-! ## A sequence of `addPacket` calls -/

/-- The arguments of one call, the packet already converted. -/
structure AddCall where
  packToAdd : UnorderedMap String String
  sender : String
  name : String

/-- The database after the calls, one after the other, on `db`. -/
def addAll (order : HashOrder String) (db : DataBase) (calls : List AddCall) : DataBase :=
  calls.foldl (fun db call => db.addFields order call.packToAdd call.sender call.name) db

theorem addAll_cons (order : HashOrder String) (db : DataBase) (call : AddCall)
    (calls : List AddCall) :
    db.addAll order (call :: calls)
      = (db.addFields order call.packToAdd call.sender call.name).addAll order calls := rfl

theorem Valid.addAll {db : DataBase} (hdb : db.Valid) (order : HashOrder String)
    (calls : List AddCall) : (db.addAll order calls).Valid := by
  induction calls generalizing db with
  | nil => exact hdb
  | cons call calls ih => exact ih (hdb.addFields order _ _ _)

theorem unselected_addAll {db : DataBase} (hdb : db.Unselected) (order : HashOrder String)
    (calls : List AddCall) : (db.addAll order calls).Unselected := by
  induction calls generalizing db with
  | nil => exact hdb
  | cons call calls ih => exact ih (unselected_addFields order db _ _ _ hdb)

theorem unselected_empty : DataBase.empty.Unselected := fun _ => rfl

/-- What the index lists after the calls: the packet of a call, under its fields. -/
theorem offers_addAll {db : DataBase} {order : HashOrder String} {calls : List AddCall}
    {dataName packName : String} :
    (db.addAll order calls).Offers dataName packName ↔ db.Offers dataName packName ∨
      ∃ call ∈ calls, packName = joined call.name call.sender ∧
        ∃ field ∈ call.packToAdd.nodes, joined field.1 field.2 = dataName := by
  induction calls generalizing db with
  | nil => simp [addAll]
  | cons call calls ih =>
    rw [addAll_cons, ih, offers_addFields]
    simp only [List.mem_cons, exists_eq_or_imp, or_assoc]

theorem mem_keys_addAll {db : DataBase} {order : HashOrder String} {calls : List AddCall}
    {packName : String} :
    packName ∈ (db.addAll order calls).avaiablePacks.keys ↔
      packName ∈ db.avaiablePacks.keys ∨
        ∃ call ∈ calls, packName = joined call.name call.sender := by
  induction calls generalizing db with
  | nil => simp [addAll]
  | cons call calls ih =>
    rw [addAll_cons, ih, mem_keys_addFields]
    simp only [List.mem_cons, exists_eq_or_imp]
    tauto

end DataBase

end ComuFrame
