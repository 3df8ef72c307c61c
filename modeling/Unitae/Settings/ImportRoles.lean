import Mathlib.Data.Set.Finite.Basic
import Unitae.Base.Forest
import Unitae.Roles.Chart
import Unitae.Settings.Archive

/-!
# Unitae — importing roles (`import-configuration.server.ts`)

A first pass finds each archived role by its key, or creates it, and records its id; a second one writes the
parents, translated. A record without a parent is passed over by the second pass, and an id that the
map does not have is an error there: `importRoles_rebuilds_iff` says for which archives the chart is
rebuilt all the same.
-/

namespace Unitae.Settings

open Roles

/-- A line of `roles.ndjson`; archives older than the chart lack its columns. -/
structure RoleRecord where
  id : Int
  key : String
  name : Option String
  description : Option String
  isBuiltIn : Bool
  parentRoleId : Option Int
  showInOrganigram : Option Bool
  organigramOrder : Option Int
  isSinglePerson : Option Bool
deriving DecidableEq, Repr

abbrev RolesTx (α : Type) := Tx RoleDb Failure α

/-- What a record writes on the role that has its key. -/
def RoleRecord.refresh (record : RoleRecord) (role : Role) : Role :=
  { role with
    name := record.name
    description := record.description
    isBuiltIn := record.isBuiltIn
    showInOrganigram := record.showInOrganigram.getD false
    organigramOrder := record.organigramOrder
    isSinglePerson := record.isSinglePerson.getD role.isSinglePerson }

/-- The role a record creates; its parent waits for the second pass. -/
def RoleRecord.row (record : RoleRecord) (id : Nat) : Role where
  id := id
  key := record.key
  name := record.name
  description := record.description
  isBuiltIn := record.isBuiltIn
  parentRoleId := none
  showInOrganigram := record.showInOrganigram.getD false
  organigramOrder := record.organigramOrder
  isSinglePerson := record.isSinglePerson.getD false

/-- One turn of the first pass. -/
def importRole (idMap : EntityIdMap) (record : RoleRecord) : RolesTx EntityIdMap := do
  let db ← get
  match db.roleByKey record.key with
  | some existing =>
    modify (·.updateRoles (·.id == existing.id) record.refresh)
    return idMap.set .roles record.id existing.id
  | none =>
    modify (·.createRole record.row)
    return idMap.set .roles record.id db.nextRoleId

/-- `db.role.update({ data: { parentRoleId } })`. -/
def setParent (target parent : Nat) (db : RoleDb) : RoleDb :=
  db.updateRoles (·.id == target) fun r => { r with parentRoleId := some parent }

/-- One turn of the second pass. -/
def resolveOrganigramParent (idMap : EntityIdMap) (record : RoleRecord) : RolesTx PUnit :=
  match record.parentRoleId with
  | none => pure ()
  | some parentRoleId => do
    let target ← Tx.check (idMap.getOrThrow .roles record.id)
    let parent ← Tx.check (idMap.getOrThrow .roles parentRoleId)
    modify (setParent target parent)

def importRoles (records : List RoleRecord) (idMap : EntityIdMap) : RolesTx EntityIdMap := do
  let idMap ← records.foldlM importRole idMap
  records.forM (resolveOrganigramParent idMap)
  return idMap

/-! ## The first pass -/

/-- The key of the last record with the id, whose role the map has for it in the end. -/
def keyOf : List RoleRecord → Int → Option String
  | [], _ => none
  | record :: records, oldId =>
    (keyOf records oldId).orElse fun _ => if record.id = oldId then some record.key else none

theorem keyOf_cons (record : RoleRecord) (records : List RoleRecord) (oldId : Int) :
    keyOf (record :: records) oldId =
      (keyOf records oldId).orElse fun _ => if record.id = oldId then some record.key else none := rfl

theorem keyOf_single (record : RoleRecord) (oldId : Int) :
    keyOf [record] oldId = if record.id = oldId then some record.key else none := rfl

section FirstPass

variable {db db' db'' : RoleDb} {idMap idMap' : EntityIdMap} {records : List RoleRecord}
  {record : RoleRecord} {oldId : Int}

theorem keyOf_isSome : (∃ key, keyOf records oldId = some key) ↔ ∃ r ∈ records, r.id = oldId := by
  induction records with
  | nil => simp [keyOf]
  | cons record records ih =>
    have hcons : (∃ r ∈ record :: records, r.id = oldId) ↔
        record.id = oldId ∨ ∃ key, keyOf records oldId = some key := by
      rw [ih]
      simp
    rw [hcons, keyOf_cons]
    cases keyOf records oldId with
    | some key => simp
    | none => by_cases hid : record.id = oldId <;> simp [hid]

/-- The key of an id is that of a record. -/
theorem keyOf_mem {key : String} (h : keyOf records oldId = some key) :
    ∃ r ∈ records, r.id = oldId ∧ r.key = key := by
  induction records with
  | nil => simp [keyOf] at h
  | cons record records ih =>
    rw [keyOf_cons] at h
    cases hlast : keyOf records oldId with
    | some last =>
      rw [hlast] at h
      obtain rfl : last = key := Option.some.inj h
      obtain ⟨r, hr, hrest⟩ := ih hlast
      exact ⟨r, List.mem_cons_of_mem record hr, hrest⟩
    | none =>
      rw [hlast] at h
      by_cases hid : record.id = oldId
      · have hkey : some record.key = some key := by simpa [hid] using h
        exact ⟨record, List.mem_cons_self, hid, Option.some.inj hkey⟩
      · simp [hid] at h

/-- What the first pass leaves: no parent moved, ids kept or fresh, and the map of the keys. -/
structure FirstPass (records : List RoleRecord) (idMap : EntityIdMap) (db : RoleDb)
    (idMap' : EntityIdMap) (db' : RoleDb) : Prop where
  valid : db'.Valid
  next_le : db.nextRoleId ≤ db'.nextRoleId
  parents : ∀ y, db'.parentOf y = db.parentOf y
  kept : ∀ key id, db.idOfKey key = some id → db'.idOfKey key = some id
  fresh : ∀ key id, db'.idOfKey key = some id → db.idOfKey key = none → db.nextRoleId ≤ id
  found : ∀ r ∈ records, ∃ id, db'.idOfKey r.key = some id
  mapped : ∀ oldId, idMap'.find .roles oldId =
    match keyOf records oldId with
    | some key => db'.idOfKey key
    | none => idMap.find .roles oldId

theorem idOfKey_createRole_of_none {row : Nat → Role} {key : String}
    (hid : ∀ n, (row n).id = n) (hnone : db.roleByKey (row db.nextRoleId).key = none) :
    (db.createRole row).idOfKey key =
      if (row db.nextRoleId).key = key then some db.nextRoleId else db.idOfKey key := by
  unfold RoleDb.idOfKey RoleDb.roleByKey
  rw [RoleDb.createRole_roles, List.find?_append, List.find?_singleton]
  by_cases hkey : (row db.nextRoleId).key = key
  · have hmiss : db.roles.find? (·.key == key) = none := by
      rw [← hkey]
      exact hnone
    rw [hmiss, if_pos hkey]
    simp [hkey, hid]
  · simp [hkey]

/-- One turn finds the role or makes it. -/
theorem importRole_first (hdb : db.Valid) :
    ∃ idMap' db', (importRole idMap record).exec db = (.ok idMap', db') ∧
      FirstPass [record] idMap db idMap' db' := by
  cases hfound : db.roleByKey record.key with
  | some existing =>
    obtain ⟨hmem, hkey⟩ := RoleDb.roleByKey_mem hfound
    have hbyId : db.roleById existing.id = some existing := hdb.roleById_iff.mpr ⟨hmem, rfl⟩
    have hid : ∀ r, (record.refresh r).id = r.id := fun _ => rfl
    have hrefreshKey : ∀ r, (record.refresh r).key = r.key := fun _ => rfl
    have hids : ∀ key, (db.updateRoles (·.id == existing.id) record.refresh).idOfKey key =
        db.idOfKey key := fun key => RoleDb.roleByKey_id_updateRoles hid hrefreshKey
    have hself : db.idOfKey record.key = some existing.id := by
      rw [RoleDb.idOfKey, hfound]
      rfl
    refine ⟨idMap.set .roles record.id existing.id,
      db.updateRoles (·.id == existing.id) record.refresh, ?_, ?_⟩
    · unfold importRole
      rw [Tx.exec_bind_get, hfound]
      rfl
    · refine ⟨hdb.updateRoles _ hid hrefreshKey, Nat.le_refl _, ?_, ?_, ?_, ?_, ?_⟩
      · intro y
        rw [parentOf_updateRole hbyId hid]
        by_cases hy : y = existing.id
        · rw [if_pos hy, hy, RoleDb.parentOf, hbyId]
          rfl
        · rw [if_neg hy]
      · intro key id hid
        rw [hids, hid]
      · intro key id hid hnone
        rw [hids, hnone] at hid
        cases hid
      · intro r hr
        rw [List.mem_singleton.mp hr]
        exact ⟨existing.id, (hids _).trans hself⟩
      · intro oldId
        rw [EntityIdMap.find_set, keyOf_single]
        by_cases hid : record.id = oldId
        · simp [hid, hids, hself]
        · simp [hid]
  | none =>
    have hfree : ∀ r ∈ db.roles, r.key ≠ record.key := by
      intro r hr hkey
      have hmiss := List.find?_eq_none.mp hfound r hr
      simp [hkey] at hmiss
    have hids : ∀ key, (db.createRole record.row).idOfKey key =
        if record.key = key then some db.nextRoleId else db.idOfKey key :=
      fun key => idOfKey_createRole_of_none (fun _ => rfl) hfound
    have hnone : db.idOfKey record.key = none := by
      rw [RoleDb.idOfKey, hfound]
      rfl
    refine ⟨idMap.set .roles record.id db.nextRoleId, db.createRole record.row, ?_, ?_⟩
    · unfold importRole
      rw [Tx.exec_bind_get, hfound]
      rfl
    · refine ⟨hdb.createRole (fun _ => rfl) hfree, Nat.le_succ _,
        fun y => parentOf_createRole fun _ => rfl, ?_, ?_, ?_, ?_⟩
      · intro key id hid
        have hne : record.key ≠ key := by
          intro hsame
          rw [← hsame, hnone] at hid
          cases hid
        rw [hids, if_neg hne, hid]
      · intro key id hid hold
        rw [hids] at hid
        split at hid
        · exact Nat.le_of_eq (Option.some.inj hid)
        · rw [hold] at hid
          cases hid
      · intro r hr
        rw [List.mem_singleton.mp hr, hids, if_pos rfl]
        exact ⟨_, rfl⟩
      · intro oldId
        rw [EntityIdMap.find_set, keyOf_single]
        by_cases hid : record.id = oldId
        · simp [hid, hids]
        · simp [hid]

/-- Two stretches of the pass, one after the other. -/
theorem FirstPass.trans {idMap'' : EntityIdMap} (h : FirstPass [record] idMap db idMap' db')
    (h' : FirstPass records idMap' db' idMap'' db'') :
    FirstPass (record :: records) idMap db idMap'' db'' := by
  refine ⟨h'.valid, Nat.le_trans h.next_le h'.next_le, fun y => (h'.parents y).trans (h.parents y),
    fun key id hid => h'.kept key id (h.kept key id hid), ?_, ?_, ?_⟩
  · intro key id hid hnone
    cases hmid : db'.idOfKey key with
    | none => exact Nat.le_trans h.next_le (h'.fresh key id hid hmid)
    | some id' =>
      have hsame : some id = some id' := hid.symm.trans (h'.kept key id' hmid)
      rw [Option.some.inj hsame]
      exact h.fresh key id' hmid hnone
  · intro r hr
    rcases List.mem_cons.mp hr with rfl | hr
    · obtain ⟨id, hid⟩ := h.found r (List.mem_singleton_self r)
      exact ⟨id, h'.kept _ _ hid⟩
    · exact h'.found r hr
  · intro oldId
    rw [h'.mapped, h.mapped, keyOf_single, keyOf_cons]
    cases hlast : keyOf records oldId with
    | some key => simp
    | none =>
      by_cases hid : record.id = oldId
      · obtain ⟨id, hfound⟩ := h.found record (List.mem_singleton_self record)
        have hkept := h'.kept _ _ hfound
        simp [hid, hfound, hkept]
      · simp [hid]

theorem importRoles_first (records : List RoleRecord) (hdb : db.Valid) :
    ∃ idMap' db', (records.foldlM importRole idMap).exec db = (.ok idMap', db') ∧
      FirstPass records idMap db idMap' db' := by
  induction records generalizing idMap db with
  | nil =>
    refine ⟨idMap, db, rfl, hdb, Nat.le_refl _, fun _ => rfl, fun _ _ h => h, ?_, ?_, fun _ => rfl⟩
    · intro key id hid hnone
      rw [hid] at hnone
      cases hnone
    · exact fun r hr => absurd hr List.not_mem_nil
  | cons record records ih =>
    obtain ⟨idMap₁, db₁, hexec, hfirst⟩ := @importRole_first db idMap record hdb
    obtain ⟨idMap', db', hrest, hpass⟩ := @ih db₁ idMap₁ hfirst.valid
    refine ⟨idMap', db', ?_, hfirst.trans hpass⟩
    rw [List.foldlM_cons, Tx.exec_bind, hexec]
    exact hrest

end FirstPass

/-! ## The second pass -/

/-- The pointer the second pass writes for a record: a role and its new parent. -/
def moveOf (idMap : EntityIdMap) (r : RoleRecord) : Option (Nat × Nat) :=
  r.parentRoleId.bind fun p =>
    (idMap.find .roles r.id).bind fun target => (idMap.find .roles p).map fun parent => (target, parent)

def movesOf (idMap : EntityIdMap) (records : List RoleRecord) : List (Nat × Nat) :=
  records.filterMap (moveOf idMap)

/-- Where the last of the moves of a role leads. -/
def movedTo : List (Nat × Nat) → Nat → Option Nat
  | [], _ => none
  | move :: moves, y => (movedTo moves y).orElse fun _ => if move.1 = y then some move.2 else none

theorem movedTo_cons (move : Nat × Nat) (moves : List (Nat × Nat)) (y : Nat) :
    movedTo (move :: moves) y =
      (movedTo moves y).orElse fun _ => if move.1 = y then some move.2 else none := rfl

section SecondPass

variable {db db' : RoleDb} {idMap : EntityIdMap} {records : List RoleRecord} {record : RoleRecord}
  {moves : List (Nat × Nat)} {y : Nat}

theorem movedTo_mem {parent : Nat} (h : movedTo moves y = some parent) : (y, parent) ∈ moves := by
  induction moves with
  | nil => cases h
  | cons move moves ih =>
    rw [movedTo_cons] at h
    cases hlast : movedTo moves y with
    | some last =>
      rw [hlast] at h
      obtain rfl : last = parent := Option.some.inj h
      exact List.mem_cons_of_mem move (ih hlast)
    | none =>
      rw [hlast] at h
      by_cases hy : move.1 = y
      · have hparent : some move.2 = some parent := by simpa [hy] using h
        rw [← hy, ← Option.some.inj hparent]
        exact List.mem_cons_self
      · simp [hy] at h

theorem movedTo_none (h : movedTo moves y = none) : ∀ move ∈ moves, move.1 ≠ y := by
  induction moves with
  | nil => exact fun move hmove => absurd hmove List.not_mem_nil
  | cons move moves ih =>
    rw [movedTo_cons] at h
    cases hlast : movedTo moves y with
    | some last => simp [hlast] at h
    | none =>
      rw [hlast] at h
      refine List.forall_mem_cons.mpr ⟨fun hy => ?_, ih hlast⟩
      simp [hy] at h

theorem mem_movesOf {target parent : Nat} :
    (target, parent) ∈ movesOf idMap records ↔ ∃ r ∈ records, ∃ p, r.parentRoleId = some p ∧
      idMap.find .roles r.id = some target ∧ idMap.find .roles p = some parent := by
  unfold movesOf
  rw [List.mem_filterMap]
  simp only [moveOf, Option.bind_eq_some_iff, Option.map_eq_some_iff, Prod.mk.injEq]
  constructor
  · rintro ⟨r, hr, p, hp, _, htarget, _, hparent, rfl, rfl⟩
    exact ⟨r, hr, p, hp, htarget, hparent⟩
  · rintro ⟨r, hr, p, hp, htarget, hparent⟩
    exact ⟨r, hr, p, hp, _, htarget, _, hparent, rfl, rfl⟩

/-- The moves leave a chart in which each moved role hangs from its last new parent. -/
theorem parentOf_setParents (hroles : ∀ move ∈ moves, db.roleById move.1 ≠ none) :
    (moves.foldl (fun db move => setParent move.1 move.2 db) db).parentOf y =
      (movedTo moves y).orElse fun _ => db.parentOf y := by
  induction moves generalizing db with
  | nil => rfl
  | cons move moves ih =>
    obtain ⟨hrole, hrest⟩ := List.forall_mem_cons.mp hroles
    obtain ⟨role, hrole⟩ := Option.ne_none_iff_exists'.mp hrole
    have hid : ∀ r : Role, ({ r with parentRoleId := some move.2 } : Role).id = r.id := fun _ => rfl
    have hkept : ∀ move' ∈ moves, (setParent move.1 move.2 db).roleById move'.1 ≠ none := by
      intro move' hmove'
      unfold setParent
      rw [roleById_updateRoles hid, ne_eq, Option.map_eq_none_iff]
      exact hrest move' hmove'
    rw [List.foldl_cons, ih hkept, movedTo_cons]
    cases movedTo moves y with
    | some parent => rfl
    | none =>
      show (setParent move.1 move.2 db).parentOf y = _
      unfold setParent
      rw [parentOf_updateRole hrole hid]
      by_cases hy : y = move.1
      · simp [hy]
      · have hy' : ¬move.1 = y := fun h => hy h.symm
        simp [hy, hy']

/-- The map has the id of each record that has a parent, and the parent. -/
def Resolves (idMap : EntityIdMap) (record : RoleRecord) : Prop :=
  ∀ p, record.parentRoleId = some p →
    (∃ target, idMap.find .roles record.id = some target) ∧ ∃ parent, idMap.find .roles p = some parent

theorem getOrThrow_some {oldId : Int} {newId : Nat} (h : idMap.find .roles oldId = some newId) :
    idMap.getOrThrow .roles oldId = .ok newId := by
  unfold EntityIdMap.getOrThrow EntityIdMap.get
  rw [h]

theorem getOrThrow_none {oldId : Int} (h : idMap.find .roles oldId = none) :
    ∃ e, idMap.getOrThrow .roles oldId = .error e := by
  unfold EntityIdMap.getOrThrow EntityIdMap.get
  rw [h]
  exact ⟨_, rfl⟩

/-- The pass completes when the map has every id it asks for, and has made the moves then. -/
theorem resolve_exec (h : ∀ r ∈ records, Resolves idMap r) :
    (records.forM (resolveOrganigramParent idMap)).exec db =
      (.ok (), (movesOf idMap records).foldl (fun db move => setParent move.1 move.2 db) db) := by
  induction records generalizing db with
  | nil => rfl
  | cons record records ih =>
    obtain ⟨hrecord, hrest⟩ := List.forall_mem_cons.mp h
    show (resolveOrganigramParent idMap record >>= fun _ =>
      records.forM (resolveOrganigramParent idMap)).exec db = _
    rw [Tx.exec_bind]
    unfold movesOf
    cases hparent : record.parentRoleId with
    | none =>
      have hskip : (resolveOrganigramParent idMap record).exec db = (.ok (), db) := by
        unfold resolveOrganigramParent
        rw [hparent]
        rfl
      have hstay : moveOf idMap record = none := by
        rw [moveOf, hparent]
        rfl
      rw [hskip, List.filterMap_cons_none hstay]
      exact ih hrest
    | some p =>
      obtain ⟨⟨target, htarget⟩, parent, hp⟩ := hrecord p hparent
      have hmove : (resolveOrganigramParent idMap record).exec db = (.ok (), setParent target parent db) := by
        unfold resolveOrganigramParent
        simp only [hparent]
        rw [Tx.exec_bind, Tx.exec_check, getOrThrow_some htarget]
        show ((Tx.check _ >>= fun parent => modify (setParent target parent)) : RolesTx PUnit).exec db = _
        rw [Tx.exec_bind, Tx.exec_check, getOrThrow_some hp]
        rfl
      have hpair : moveOf idMap record = some (target, parent) := by
        rw [moveOf, hparent, Option.bind_some, htarget, Option.bind_some, hp]
        rfl
      rw [hmove, List.filterMap_cons_some hpair]
      exact ih hrest

/-- A pass that completes has found every id it asked for. -/
theorem resolves_of_ok (h : (records.forM (resolveOrganigramParent idMap)).exec db = (.ok (), db')) :
    ∀ r ∈ records, Resolves idMap r := by
  induction records generalizing db with
  | nil => exact fun r hr => absurd hr List.not_mem_nil
  | cons record records ih =>
    have hturns : (resolveOrganigramParent idMap record >>= fun _ =>
        records.forM (resolveOrganigramParent idMap)).exec db = (.ok (), db') := h
    obtain ⟨_, s, hrecord, hrest⟩ := Tx.exec_bind_ok.mp hturns
    refine List.forall_mem_cons.mpr ⟨fun p hparent => ?_, ih hrest⟩
    unfold resolveOrganigramParent at hrecord
    simp only [hparent] at hrecord
    cases htarget : idMap.find .roles record.id with
    | none =>
      obtain ⟨e, he⟩ := getOrThrow_none htarget
      rw [Tx.exec_bind, Tx.exec_check, he] at hrecord
      cases (Prod.mk.inj hrecord).1
    | some target =>
      refine ⟨⟨target, rfl⟩, ?_⟩
      cases hp : idMap.find .roles p with
      | some parent => exact ⟨parent, rfl⟩
      | none =>
        obtain ⟨e, he⟩ := getOrThrow_none hp
        rw [Tx.exec_bind_check_ok] at hrecord
        obtain ⟨_, _, hrecord⟩ := hrecord
        rw [Tx.exec_bind, Tx.exec_check, he] at hrecord
        cases (Prod.mk.inj hrecord).1

end SecondPass

/-! ## The chart rebuilt -/

/-- Every climb ends. -/
def TreeAcyclic (db : RoleDb) : Prop := ∀ roleId, ∃ path, RootPath db.parentOf roleId path

/-- A record of the first id names the second as its parent. -/
def ParentIn (records : List RoleRecord) (oldId parent : Int) : Prop :=
  ∃ r ∈ records, r.id = oldId ∧ r.parentRoleId = some parent

/-- Each archived role hangs from the translation of its archived parent, or from none when it has no
parent or one the map does not have; and the whole tree has no cycle. -/
structure Rebuilt (records : List RoleRecord) (idMap : EntityIdMap) (db : RoleDb) : Prop where
  parents : ∀ r ∈ records, ∃ target, idMap.find .roles r.id = some target ∧
    db.parentOf target = r.parentRoleId.bind (idMap.find .roles)
  acyclic : TreeAcyclic db

/-- The archives that the importer rebuilds in a congregation: they have every parent they name, records
for one role agree on its parent, and a record without a parent meets no role that has one. -/
structure Importable (records : List RoleRecord) (db : RoleDb) : Prop where
  closed : ∀ r ∈ records, ∀ p ∈ r.parentRoleId, ∃ r' ∈ records, r'.id = p
  agreed : ∀ r ∈ records, ∀ r' ∈ records, keyOf records r.id = keyOf records r'.id →
    r.parentRoleId.bind (keyOf records) = r'.parentRoleId.bind (keyOf records)
  bare : ∀ r ∈ records, r.parentRoleId = none → ∀ role ∈ db.roles,
    keyOf records r.id = some role.key → role.parentRoleId = none

/-- Records as the export writes them, each under its own id and key, agree. -/
theorem agreed_of_keyed {records : List RoleRecord} (hids : Keyed RoleRecord.id records)
    (hkeys : Keyed RoleRecord.key records) {r r' : RoleRecord} (hr : r ∈ records) (hr' : r' ∈ records)
    (h : keyOf records r.id = keyOf records r'.id) : r = r' := by
  obtain ⟨key, hkey⟩ := keyOf_isSome.mpr ⟨r, hr, rfl⟩
  obtain ⟨a, ha, haid, hakey⟩ := keyOf_mem hkey
  obtain ⟨b, hb, hbid, hbkey⟩ := keyOf_mem (h.symm.trans hkey)
  rw [← hids.eq_of_key ha hr haid, ← hids.eq_of_key hb hr' hbid]
  exact hkeys.eq_of_key ha hb (hakey.trans hbkey.symm)

section Rebuild

variable {db db₁ db' : RoleDb} {idMap idMap₁ idMap' : EntityIdMap} {records : List RoleRecord}

theorem idOfKey_mem {key : String} {id : Nat} (h : db.idOfKey key = some id) :
    ∃ role ∈ db.roles, role.id = id ∧ role.key = key := by
  obtain ⟨role, hrole, hid⟩ := Option.map_eq_some_iff.mp h
  obtain ⟨hmem, hkey⟩ := RoleDb.roleByKey_mem hrole
  exact ⟨role, hmem, hid, hkey⟩

theorem idOfKey_inj (hdb : db.Valid) {key key' : String} {id : Nat} (h : db.idOfKey key = some id)
    (h' : db.idOfKey key' = some id) : key = key' := by
  obtain ⟨role, hmem, hid, hkey⟩ := idOfKey_mem h
  obtain ⟨role', hmem', hid', hkey'⟩ := idOfKey_mem h'
  rw [← hkey, ← hkey', hdb.eq_of_id hmem hmem' (hid.trans hid'.symm)]

/-- The map after the first pass: an archived id stands for the role of its key, and no other for any. -/
theorem FirstPass.find_iff (h : FirstPass records idMap db idMap₁ db₁)
    (hempty : ∀ oldId, idMap.find .roles oldId = none) {oldId : Int} {target : Nat} :
    idMap₁.find .roles oldId = some target ↔
      ∃ key, keyOf records oldId = some key ∧ db₁.idOfKey key = some target := by
  rw [h.mapped]
  cases keyOf records oldId with
  | none => simp [hempty]
  | some key => simp

theorem FirstPass.find_of_mem (h : FirstPass records idMap db idMap₁ db₁)
    (hempty : ∀ oldId, idMap.find .roles oldId = none) {r : RoleRecord} (hr : r ∈ records) :
    ∃ target, idMap₁.find .roles r.id = some target := by
  obtain ⟨key, hkey⟩ := keyOf_isSome.mpr ⟨r, hr, rfl⟩
  obtain ⟨r', hr', _, hr'key⟩ := keyOf_mem hkey
  obtain ⟨target, htarget⟩ := h.found r' hr'
  rw [hr'key] at htarget
  exact ⟨target, (h.find_iff hempty).mpr ⟨key, hkey, htarget⟩⟩

/-- Two archived ids stand for one role just when they have one key. -/
theorem FirstPass.keyOf_eq (h : FirstPass records idMap db idMap₁ db₁)
    (hempty : ∀ oldId, idMap.find .roles oldId = none) {oldId oldId' : Int} {target : Nat}
    (hfind : idMap₁.find .roles oldId = some target)
    (hfind' : idMap₁.find .roles oldId' = some target) : keyOf records oldId = keyOf records oldId' := by
  obtain ⟨key, hkey, hid⟩ := (h.find_iff hempty).mp hfind
  obtain ⟨key', hkey', hid'⟩ := (h.find_iff hempty).mp hfind'
  rw [hkey, hkey', idOfKey_inj h.valid hid hid']

theorem FirstPass.find_eq (h : FirstPass records idMap db idMap₁ db₁)
    (hempty : ∀ oldId, idMap.find .roles oldId = none) {oldId oldId' : Int}
    (hkey : keyOf records oldId = keyOf records oldId') :
    idMap₁.find .roles oldId = idMap₁.find .roles oldId' := by
  rw [h.mapped, h.mapped, hkey, hempty, hempty]

/-- What the role of an archived id had for a parent before the import. -/
theorem FirstPass.parent_of_new (h : FirstPass records idMap db idMap₁ db₁) (hdb : db.Valid)
    {key : String} {target : Nat} (hid : db₁.idOfKey key = some target) :
    (∃ role ∈ db.roles, role.id = target ∧ role.key = key ∧ db.parentOf target = role.parentRoleId) ∨
      db.parentOf target = none := by
  cases hold : db.idOfKey key with
  | some target' =>
    have hsame : target' = target := Option.some.inj ((h.kept key target' hold).symm.trans hid)
    rw [hsame] at hold
    obtain ⟨role, hmem, hroleId, hrolekey⟩ := idOfKey_mem hold
    refine .inl ⟨role, hmem, hroleId, hrolekey, ?_⟩
    rw [RoleDb.parentOf, hdb.roleById_iff.mpr ⟨hmem, hroleId⟩]
    rfl
  | none =>
    -- the role is new: its id was not given out before
    refine .inr ?_
    have hfresh := h.fresh key target hid hold
    have hnone : db.roleById target = none := by
      cases hfound : db.roleById target with
      | none => rfl
      | some role =>
        obtain ⟨hmem, hroleId⟩ := RoleDb.roleById_mem hfound
        have hlt := hdb.roleIds_lt role hmem
        omega
    rw [RoleDb.parentOf, hnone]
    rfl

theorem importRoles_exec (hfirst : (records.foldlM importRole idMap).exec db = (.ok idMap₁, db₁)) :
    (importRoles records idMap).exec db = (.ok idMap', db') ↔
      idMap' = idMap₁ ∧ (records.forM (resolveOrganigramParent idMap₁)).exec db₁ = (.ok (), db') := by
  unfold importRoles
  rw [Tx.exec_bind, hfirst]
  show ((records.forM (resolveOrganigramParent idMap₁) >>= fun _ => pure idMap₁) :
    RolesTx EntityIdMap).exec db₁ = _ ↔ _
  rw [Tx.exec_bind_ok]
  constructor
  · rintro ⟨_, s, hresolve, hdone⟩
    obtain ⟨rfl, rfl⟩ := Tx.exec_pure_ok.mp hdone
    exact ⟨rfl, hresolve⟩
  · rintro ⟨rfl, hresolve⟩
    exact ⟨(), db', hresolve, rfl⟩

/-- The parents after both passes. -/
theorem parentOf_imported (hpass : FirstPass records idMap db idMap₁ db₁)
    (hempty : ∀ oldId, idMap.find .roles oldId = none)
    (hresolve : (records.forM (resolveOrganigramParent idMap₁)).exec db₁ = (.ok (), db')) (y : Nat) :
    db'.parentOf y = (movedTo (movesOf idMap₁ records) y).orElse fun _ => db.parentOf y := by
  have hmoves := @resolve_exec db₁ idMap₁ records (resolves_of_ok hresolve)
  rw [hresolve, Prod.mk.injEq] at hmoves
  rw [hmoves.2, parentOf_setParents fun move hmove => ?_, hpass.parents]
  obtain ⟨r, _, p, _, htarget, _⟩ := mem_movesOf.mp hmove
  obtain ⟨key, _, hid⟩ := (hpass.find_iff hempty).mp htarget
  obtain ⟨role, hmem, hroleId, _⟩ := idOfKey_mem hid
  rw [hpass.valid.roleById_iff.mpr ⟨hmem, hroleId⟩]
  exact Option.some_ne_none role

/-- Each archived role's parent, when the archive is one the importer can rebuild. -/
theorem Importable.parents (h : Importable records db) (hdb : db.Valid)
    (hpass : FirstPass records idMap db idMap₁ db₁)
    (hempty : ∀ oldId, idMap.find .roles oldId = none)
    (hafter : ∀ y, db'.parentOf y =
      (movedTo (movesOf idMap₁ records) y).orElse fun _ => db.parentOf y)
    {r : RoleRecord} (hr : r ∈ records) {target : Nat} (htarget : idMap₁.find .roles r.id = some target) :
    db'.parentOf target = r.parentRoleId.bind (idMap₁.find .roles) := by
  -- whoever moved this role last agrees with the record
  have hagree : ∀ r' ∈ records, idMap₁.find .roles r'.id = some target →
      r'.parentRoleId.bind (idMap₁.find .roles) = r.parentRoleId.bind (idMap₁.find .roles) := by
    intro r' hr' htarget'
    have hkeys := h.agreed r' hr' r hr (hpass.keyOf_eq hempty htarget' htarget)
    have hclosed : ∀ r ∈ records, ∀ p, r.parentRoleId = some p →
        ∃ key, keyOf records p = some key := by
      intro r hr p hp
      obtain ⟨r'', hr'', hid⟩ := h.closed r hr p hp
      exact keyOf_isSome.mpr ⟨r'', hr'', hid⟩
    cases hparent : r.parentRoleId with
    | none =>
      cases hparent' : r'.parentRoleId with
      | none => rfl
      | some p' =>
        obtain ⟨key, hkey⟩ := hclosed r' hr' p' hparent'
        simp [hparent, hparent', hkey] at hkeys
    | some p =>
      obtain ⟨key, hkey⟩ := hclosed r hr p hparent
      cases hparent' : r'.parentRoleId with
      | none => simp [hparent, hparent', hkey] at hkeys
      | some p' =>
        rw [hparent, hparent', Option.bind_some, Option.bind_some] at hkeys
        exact hpass.find_eq hempty hkeys
  rw [hafter]
  cases hmoved : movedTo (movesOf idMap₁ records) target with
  | some parent =>
    obtain ⟨r', hr', p, hp, htarget', hparent⟩ := mem_movesOf.mp (movedTo_mem hmoved)
    rw [← hagree r' hr' htarget', hp]
    exact hparent.symm
  | none =>
    cases hparent : r.parentRoleId with
    | some p =>
      -- a record with a parent moves its role
      obtain ⟨r'', hr'', hid⟩ := h.closed r hr p hparent
      obtain ⟨parent, hp⟩ := hpass.find_of_mem hempty hr''
      rw [hid] at hp
      have hmove := mem_movesOf.mpr ⟨r, hr, p, hparent, htarget, hp⟩
      exact absurd rfl (movedTo_none hmoved _ hmove)
    | none =>
      obtain ⟨key, hkey, hid⟩ := (hpass.find_iff hempty).mp htarget
      show db.parentOf target = none
      rcases hpass.parent_of_new hdb hid with ⟨role, hmem, _, hrolekey, hold⟩ | hnone
      · rw [hold]
        exact h.bare r hr hparent role hmem (hrolekey ▸ hkey)
      · exact hnone

/-- The imported tree: an archived role climbs as its record does, any other as before up to one. -/
theorem treeAcyclic_imported (htree : TreeAcyclic db)
    (hacyclic : ∀ oldId, ¬Relation.TransGen (ParentIn records) oldId oldId)
    (hclosed : ∀ r ∈ records, ∀ p ∈ r.parentRoleId, ∃ r' ∈ records, r'.id = p)
    (hpass : FirstPass records idMap db idMap₁ db₁)
    (hempty : ∀ oldId, idMap.find .roles oldId = none)
    (hafter : ∀ y, db'.parentOf y =
      (movedTo (movesOf idMap₁ records) y).orElse fun _ => db.parentOf y)
    (hparents : ∀ r ∈ records, ∀ target, idMap₁.find .roles r.id = some target →
      db'.parentOf target = r.parentRoleId.bind (idMap₁.find .roles)) : TreeAcyclic db' := by
  have harchived : ∀ oldId ∈ {oldId | ∃ r ∈ records, r.id = oldId}, ∀ target,
      idMap₁.find .roles oldId = some target → ∃ path, RootPath db'.parentOf target path := by
    have hfinite : {oldId | ∃ r ∈ records, r.id = oldId}.Finite := by
      have himage : {oldId | ∃ r ∈ records, r.id = oldId} = {oldId | oldId ∈ records.map (·.id)} := by
        ext oldId
        simp
      rw [himage]
      exact List.finite_toSet _
    refine acyclic_induction hfinite hacyclic ?_
    rintro oldId ⟨r, hr, rfl⟩ ih target htarget
    have hparent := hparents r hr target htarget
    cases hp : r.parentRoleId with
    | none =>
      rw [hp] at hparent
      exact ⟨_, .root hparent⟩
    | some p =>
      obtain ⟨r', hr', hid⟩ := hclosed r hr p hp
      obtain ⟨parent, hfind⟩ := hpass.find_of_mem hempty hr'
      rw [hid] at hfind
      rw [hp, Option.bind_some, hfind] at hparent
      obtain ⟨path, hpath⟩ := ih p ⟨r', hr', hid⟩ ⟨r, hr, rfl, hp⟩ parent hfind
      exact ⟨_, .child hparent hpath⟩
  intro y
  obtain ⟨path, hpath⟩ := htree y
  have hsame : ∀ z, ¬(∃ oldId, idMap₁.find .roles oldId = some z) → db'.parentOf z = db.parentOf z := by
    intro z hz
    rw [hafter]
    cases hmoved : movedTo (movesOf idMap₁ records) z with
    | none => rfl
    | some parent =>
      obtain ⟨r, _, _, _, htarget, _⟩ := mem_movesOf.mp (movedTo_mem hmoved)
      exact absurd ⟨r.id, htarget⟩ hz
  rcases RootPath.relocate hsame hpath with hkept | ⟨k, z, hcut, hmoved⟩
  · exact ⟨path, hkept⟩
  · obtain ⟨oldId, hfind⟩ := hcut.cut_last
    obtain ⟨key, hkey, _⟩ := (hpass.find_iff hempty).mp hfind
    obtain ⟨above, habove⟩ := harchived oldId (keyOf_isSome.mp ⟨key, hkey⟩) z hfind
    obtain ⟨path', hpath', _⟩ := hmoved above habove
    exact ⟨path', hpath'⟩

/-- **The archived chart is rebuilt** in a congregation, by an importer that completes, just when the archive
is importable there. -/
theorem importRoles_rebuilds_iff (hdb : db.Valid) (htree : TreeAcyclic db)
    (hacyclic : ∀ oldId, ¬Relation.TransGen (ParentIn records) oldId oldId)
    (hempty : ∀ oldId, idMap.find .roles oldId = none) :
    (∃ idMap' db', (importRoles records idMap).exec db = (.ok idMap', db') ∧
      Rebuilt records idMap' db') ↔ Importable records db := by
  obtain ⟨idMap₁, db₁, hfirst, hpass⟩ := @importRoles_first db idMap records hdb
  constructor
  · rintro ⟨idMap', db', hexec, hrebuilt⟩
    obtain ⟨rfl, hresolve⟩ := (importRoles_exec hfirst).mp hexec
    have hresolves := resolves_of_ok hresolve
    have hafter := parentOf_imported hpass hempty hresolve
    have hparents : ∀ r ∈ records, ∀ target, idMap'.find .roles r.id = some target →
        db'.parentOf target = r.parentRoleId.bind (idMap'.find .roles) := by
      intro r hr target htarget
      obtain ⟨target', htarget', hparent⟩ := hrebuilt.parents r hr
      rw [← Option.some.inj (htarget'.symm.trans htarget)]
      exact hparent
    refine ⟨fun r hr p hp => ?_, fun r hr r' hr' hkey => ?_, fun r hr hnone role hrole hkey => ?_⟩
    · obtain ⟨_, parent, hparent⟩ := hresolves r hr p hp
      obtain ⟨key, hkey, _⟩ := (hpass.find_iff hempty).mp hparent
      exact keyOf_isSome.mp ⟨key, hkey⟩
    · -- the records stand for one role, which has one parent
      obtain ⟨target, htarget⟩ := hpass.find_of_mem hempty hr
      have htarget' : idMap'.find .roles r'.id = some target :=
        (hpass.find_eq hempty hkey).symm.trans htarget
      have hone := (hparents r hr target htarget).symm.trans (hparents r' hr' target htarget')
      have hsome : ∀ r ∈ records, ∀ p, r.parentRoleId = some p →
          ∃ parent, idMap'.find .roles p = some parent := fun r hr p hp => (hresolves r hr p hp).2
      cases hp : r.parentRoleId with
      | none =>
        cases hp' : r'.parentRoleId with
        | none => rfl
        | some p' =>
          obtain ⟨parent, hparent⟩ := hsome r' hr' p' hp'
          simp [hp, hp', hparent] at hone
      | some p =>
        obtain ⟨parent, hparent⟩ := hsome r hr p hp
        cases hp' : r'.parentRoleId with
        | none => simp [hp, hp', hparent] at hone
        | some p' =>
          rw [hp, hp', Option.bind_some, Option.bind_some, hparent] at hone
          exact hpass.keyOf_eq hempty hparent hone.symm
    · -- the second pass writes no null, so a role that had a parent still has one
      have hroleId : db₁.idOfKey role.key = some role.id := by
        refine hpass.kept _ _ ?_
        rw [RoleDb.idOfKey, hdb.roleByKey_iff.mpr ⟨hrole, rfl⟩]
        rfl
      have htarget := (hpass.find_iff hempty).mpr ⟨role.key, hkey, hroleId⟩
      have hparent := hparents r hr role.id htarget
      rw [hnone, Option.bind_none, hafter] at hparent
      cases hmoved : movedTo (movesOf idMap' records) role.id with
      | some parent => simp [hmoved] at hparent
      | none =>
        rw [hmoved] at hparent
        have hold : db.parentOf role.id = none := hparent
        rw [RoleDb.parentOf, hdb.roleById_iff.mpr ⟨hrole, rfl⟩] at hold
        exact hold
  · intro h
    have hresolves : ∀ r ∈ records, Resolves idMap₁ r := by
      intro r hr p hp
      obtain ⟨r', hr', hid⟩ := h.closed r hr p hp
      obtain ⟨parent, hparent⟩ := hpass.find_of_mem hempty hr'
      rw [hid] at hparent
      exact ⟨hpass.find_of_mem hempty hr, parent, hparent⟩
    have hresolve := @resolve_exec db₁ idMap₁ records hresolves
    have hafter := parentOf_imported hpass hempty hresolve
    have hparents := fun r (hr : r ∈ records) target htarget =>
      @Importable.parents _ _ _ _ _ _ h hdb hpass hempty hafter r hr target htarget
    refine ⟨idMap₁, _, (importRoles_exec hfirst).mpr ⟨rfl, hresolve⟩, fun r hr => ?_, ?_⟩
    · obtain ⟨target, htarget⟩ := hpass.find_of_mem hempty hr
      exact ⟨target, htarget, hparents r hr target htarget⟩
    · exact treeAcyclic_imported htree hacyclic h.closed hpass hempty hafter hparents

end Rebuild

/-! ## An archive that is not rebuilt -/

theorem acyclic_of_lt {records : List RoleRecord} (h : ∀ a b, ParentIn records a b → b < a)
    (oldId : Int) : ¬Relation.TransGen (ParentIn records) oldId oldId := by
  have hlt : ∀ a b, Relation.TransGen (ParentIn records) a b → b < a := by
    intro a b hab
    induction hab with
    | single hstep => exact h _ _ hstep
    | tail _ hstep ih => exact Int.lt_trans (h _ _ hstep) ih
  exact fun hcycle => Int.lt_irrefl oldId (hlt _ _ hcycle)

/-- A congregation without roles. -/
def noRoles : RoleDb where
  roles := []
  rolePermissions := []
  userRoleAssignments := []
  memberRoleAssignments := []
  accounts := []
  members := []
  permissions := []
  nextRoleId := 1

theorem noRoles_acyclic : TreeAcyclic noRoles := fun roleId => ⟨[roleId], .root rfl⟩

def service (id : Int) (key : String) (parentRoleId : Option Int) : RoleRecord :=
  ⟨id, key, none, none, false, parentRoleId, some true, none, some false⟩

theorem importRoles_rebuilds_two :
    (∃ idMap' db', (importRoles [service 1 "comite" none, service 2 "comptes" (some 1)] .empty).exec
      noRoles = (.ok idMap', db') ∧
        Rebuilt [service 1 "comite" none, service 2 "comptes" (some 1)] idMap' db') := by
  refine (importRoles_rebuilds_iff (by decide) noRoles_acyclic (acyclic_of_lt ?_) fun _ => rfl).mpr
    ⟨by decide, by decide, by decide⟩
  rintro a b ⟨r, hr, rfl, hparent⟩
  simp only [List.mem_cons, List.not_mem_nil, or_false] at hr
  rcases hr with rfl | rfl
  · cases hparent
  · have hb : (1 : Int) = b := Option.some.inj hparent
    rw [← hb]
    decide

/-- A parent that the archive lacks fails the import. -/
theorem dangling_parent_throws :
    ¬∀ (records : List RoleRecord) (db : RoleDb) (idMap : EntityIdMap), db.Valid → TreeAcyclic db →
      (∀ oldId, ¬Relation.TransGen (ParentIn records) oldId oldId) →
      (∀ oldId, idMap.find .roles oldId = none) →
      ∃ idMap' db', (importRoles records idMap).exec db = (.ok idMap', db') ∧
        Rebuilt records idMap' db' := by
  intro hall
  obtain ⟨idMap', db', hexec, _⟩ := hall [service 9 "comptes" (some 2)] noRoles .empty (by decide)
    noRoles_acyclic (acyclic_of_lt fun a b hab => by
      obtain ⟨r, hr, rfl, hparent⟩ := hab
      rw [List.mem_singleton.mp hr] at hparent ⊢
      have hb : (2 : Int) = b := Option.some.inj hparent
      rw [← hb]
      decide) fun _ => rfl
  have hthrows : ((importRoles [service 9 "comptes" (some 2)] .empty).exec noRoles).1 =
      .error (.unexpected "Missing ID mapping for roles#2") := by
    decide +kernel
  rw [hexec] at hthrows
  cases hthrows

end Unitae.Settings
