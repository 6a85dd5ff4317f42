import GeoTrack.LivePresence
import GeoTrack.ZoneAnswers

/-!
# Users do not influence each other

One batch statement joins the zones of all users, writes their presence rows and
inserts their alerts in one order; the zone operations of all users write one
table.  A user's own rows nevertheless depend on the batches and on his own
operations alone, and so does every answer he gets, once the numbers of alerts
are replaced by places.

Two databases are the same for a user when his zones, the positions, the
presence rows of his zones and his alerts agree.  What anybody else does leaves
them the same; a batch and an operation of his own keep them the same.  The ids
his zones ever have are fixed in advance, which makes it possible to speak of
the presence rows of a zone that does not exist at the moment.
-/

namespace GeoTrack

/-- Lists that agree in what passes a test are still in agreement after sorting,
when the order is linear on what passes. -/
theorem filter_insertionSort_congr {α : Type} (order : α → α → Prop) [DecidableRel order]
    [Std.Total order] [IsTrans α order] {p : α → Bool} {one two : List α}
    (permuted : (one.filter p).Perm (two.filter p))
    (antisymm : ∀ first ∈ one.filter p, ∀ second ∈ one.filter p,
      order first second → order second first → first = second) :
    (one.insertionSort order).filter p = (two.insertionSort order).filter p := by
  have fromOne := (List.perm_insertionSort order one).filter p
  have fromTwo := (List.perm_insertionSort order two).filter p
  have sameRows := (fromOne.trans permuted).trans fromTwo.symm
  apply sameRows.eq_of_pairwise _ ((List.pairwise_insertionSort order one).filter p)
    ((List.pairwise_insertionSort order two).filter p)
  intro first second isFirst isSecond
  exact antisymm first (fromOne.mem_iff.mp isFirst) second
    ((fromTwo.trans permuted.symm).mem_iff.mp isSecond)

section Orders

variable {pg : Postgis}

/-- The order of pairs of a zone and a device. -/
def pairOrder (pg : Postgis) : Uuid × DeviceId → Uuid × DeviceId → Prop :=
  Prod.Lex (· < ·) fun first second => pg.deviceOrder first second = true

/-- What alerts are ordered by. -/
def AlertBody.sortKey (alert : AlertBody) : ℤ × Uuid × DeviceId :=
  (alert.occurredAt, alert.zoneId.getD 0, alert.deviceId)

theorem pairOrder_total (collates : pg.Collates) : Std.Total (pairOrder pg) := by
  have devices : Std.Total fun first second => pg.deviceOrder first second = true :=
    ⟨collates.total⟩
  unfold pairOrder
  infer_instance

theorem pairOrder_trans (collates : pg.Collates) : IsTrans (Uuid × DeviceId) (pairOrder pg) := by
  have devices : IsTrans DeviceId fun first second => pg.deviceOrder first second = true :=
    ⟨collates.trans⟩
  unfold pairOrder
  infer_instance

theorem pairOrder_antisymm (collates : pg.Collates) : Std.Antisymm (pairOrder pg) := by
  have devices : Std.Antisymm fun first second => pg.deviceOrder first second = true :=
    ⟨collates.antisymm⟩
  unfold pairOrder
  infer_instance

theorem alertOrder_eq (pg : Postgis) :
    alertOrder pg = InvImage (Prod.Lex (· < ·) (pairOrder pg)) AlertBody.sortKey := by
  funext first second
  rw [InvImage, Prod.lex_iff, pairOrder, Prod.lex_iff]
  rfl

theorem alertOrder_total (collates : pg.Collates) : Std.Total (alertOrder pg) := by
  have pairs := pairOrder_total collates
  rw [alertOrder_eq]
  exact ⟨fun _ _ => total_of (Prod.Lex (· < ·) (pairOrder pg)) _ _⟩

theorem alertOrder_trans (collates : pg.Collates) : IsTrans AlertBody (alertOrder pg) := by
  have pairs := pairOrder_trans collates
  rw [alertOrder_eq]
  infer_instance

/-- Alerts the order does not tell apart agree in their zone and device. -/
theorem alertOrder_antisymm (collates : pg.Collates) {first second : AlertBody}
    (lower : alertOrder pg first second) (upper : alertOrder pg second first) :
    first.zoneId.getD 0 = second.zoneId.getD 0 ∧ first.deviceId = second.deviceId := by
  have pairs := pairOrder_antisymm collates
  rw [alertOrder_eq] at lower upper
  have sameKey : first.sortKey = second.sortKey :=
    antisymm_of (Prod.Lex (· < ·) (pairOrder pg)) lower upper
  exact Prod.mk.inj (Prod.mk.inj sameKey).2

end Orders

/-- Two databases agree in everything that belongs to one user, whose zones
have their ids from a given list. -/
structure SameFor (userId : Uuid) (own : List Uuid) (one two : Db) : Prop where
  account : userId ∈ one.users ↔ userId ∈ two.users
  zones : one.zonesOf userId = two.zonesOf userId
  positions : one.devicePositions = two.devicePositions
  presence : ∀ zoneId ∈ own, ∀ deviceId,
    one.zonePresence.get? (zoneId, deviceId) = two.zonePresence.get? (zoneId, deviceId)
  alerts : (one.historyOf userId).map AlertRow.toAlertBody =
    (two.historyOf userId).map AlertRow.toAlertBody

/-- The zones with these ids are the user's, and so are the alerts about
them. -/
structure Attributed (userId : Uuid) (own : List Uuid) (db : Db) : Prop where
  kept : Kept db
  zone : ∀ zoneId zone, db.geozones.get? zoneId = some zone →
    (zone.userId = userId ↔ zoneId ∈ own)
  alert : ∀ alert ∈ db.alerts, ∀ zoneId, alert.zoneId = some zoneId →
    (alert.userId = userId ↔ zoneId ∈ own)

section Reads

variable {userId : Uuid} {own : List Uuid} {one two three : Db}

theorem SameFor.symm (same : SameFor userId own one two) : SameFor userId own two one where
  account := same.account.symm
  zones := same.zones.symm
  positions := same.positions.symm
  presence zoneId mine deviceId := (same.presence zoneId mine deviceId).symm
  alerts := same.alerts.symm

theorem SameFor.trans (same : SameFor userId own one two) (more : SameFor userId own two three) :
    SameFor userId own one three where
  account := same.account.trans more.account
  zones := same.zones.trans more.zones
  positions := same.positions.trans more.positions
  presence zoneId mine deviceId :=
    (same.presence zoneId mine deviceId).trans (more.presence zoneId mine deviceId)
  alerts := same.alerts.trans more.alerts

theorem getForUser_eq (db : Db) (zoneId userId : Uuid) :
    Geozones.getForUser db zoneId userId = (db.zonesOf userId).get? zoneId := by
  rw [Db.zonesOf, Dict.get?_filter]
  rfl

theorem countForUser_eq (db : Db) (userId : Uuid) :
    Geozones.countForUser db userId = (db.zonesOf userId).size := by
  rw [Geozones.countForUser, Dict.values, List.filter_map, List.length_map]
  rfl

theorem SameFor.getForUser (same : SameFor userId own one two) (zoneId : Uuid) :
    Geozones.getForUser one zoneId userId = Geozones.getForUser two zoneId userId := by
  rw [getForUser_eq, getForUser_eq, same.zones]

theorem SameFor.countForUser (same : SameFor userId own one two) :
    Geozones.countForUser one userId = Geozones.countForUser two userId := by
  rw [countForUser_eq, countForUser_eq, same.zones]

theorem SameFor.zoneTable (same : SameFor userId own one two) (zoneId : Uuid) :
    zoneTable one userId zoneId = zoneTable two userId zoneId := by
  rw [GeoTrack.zoneTable, GeoTrack.zoneTable, same.getForUser]

theorem SameFor.listForUser (same : SameFor userId own one two) (limit offset : ℕ) :
    Geozones.listForUser one userId limit offset = Geozones.listForUser two userId limit offset := by
  have rows : (one.geozones.entries.filter fun entry => entry.2.userId = userId) =
      two.geozones.entries.filter fun entry => entry.2.userId = userId :=
    congrArg Dict.entries same.zones
  rw [Geozones.listForUser, Geozones.listForUser, rows]

theorem SameFor.devicesInside (same : SameFor userId own one two) (pg : Postgis)
    (latitude longitude radiusM : ℚ) (limit : ℕ) :
    Geozones.devicesInside pg one latitude longitude radiusM limit =
      Geozones.devicesInside pg two latitude longitude radiusM limit := by
  rw [Geozones.devicesInside, Geozones.devicesInside, same.positions]

theorem mem_own_of_zonesOf {db : Db} (attributed : Attributed userId own db) {zoneId : Uuid}
    (owned : zoneId ∈ (db.zonesOf userId).keys) : zoneId ∈ own := by
  obtain ⟨zone, stored, mine⟩ := Dict.mem_filter.mp (Dict.mem_keys_iff.mp owned)
  exact (attributed.zone zoneId zone stored).mp (of_decide_eq_true mine)

/-- The user has the same rows under the same ids. -/
theorem SameFor.stored_iff (same : SameFor userId own one two) {zoneId : Uuid} {zone : ZoneRow} :
    one.geozones.get? zoneId = some zone ∧ zone.userId = userId ↔
      two.geozones.get? zoneId = some zone ∧ zone.userId = userId := by
  rw [← getForUser_eq_some_iff, same.getForUser, getForUser_eq_some_iff]

theorem SameFor.ownedPairs_perm (same : SameFor userId own one two)
    (attributed : Attributed userId own one) :
    (one.ownedPairs userId).Perm (two.ownedPairs userId) := by
  rw [List.perm_ext_iff_of_nodup nodup_ownedPairs nodup_ownedPairs]
  rintro ⟨zoneId, deviceId⟩
  simp only [mem_ownedPairs, Db.InsideOwned, same.stored_iff, Dict.mem_def]
  rw [and_congr_left_iff]
  rintro ⟨zone, owned⟩
  have stored := same.stored_iff.mpr owned
  have mine := (attributed.zone zoneId zone stored.1).mp stored.2
  rw [same.presence zoneId mine deviceId]

/-- The rows of `inside` come in one order only. -/
theorem SameFor.sortedPairs {pg : Postgis} (collates : pg.Collates)
    (same : SameFor userId own one two) (attributed : Attributed userId own one) :
    sortedPairs pg one userId = sortedPairs pg two userId := by
  let order := fun first second : Uuid × DeviceId => first.1 < second.1 ∨
    first.1 = second.1 ∧ pg.deviceOrder first.2 second.2 = true
  have isPairOrder : pairOrder pg = order := by
    funext first second
    exact propext Prod.lex_iff
  have total : Std.Total order := isPairOrder ▸ pairOrder_total collates
  have trans : IsTrans (Uuid × DeviceId) order := isPairOrder ▸ pairOrder_trans collates
  have antisymm : Std.Antisymm order := isPairOrder ▸ pairOrder_antisymm collates
  have sorted := filter_insertionSort_congr order (p := fun _ => true)
    (by simpa using same.ownedPairs_perm attributed)
    fun first _ second _ => antisymm_of order
  rwa [List.filter_true, List.filter_true] at sorted

theorem SameFor.presenceForUser {pg : Postgis} (collates : pg.Collates)
    (same : SameFor userId own one two) (attributed : Attributed userId own one)
    (maxDevices : ℕ) :
    presenceForUser pg one userId maxDevices = presenceForUser pg two userId maxDevices := by
  have byRows : ∀ db : Db, GeoTrack.presenceForUser pg db userId maxDevices =
      ((db.zonesOf userId).keys.insertionSort (· ≤ ·)).map fun zoneId =>
        (zoneId, (((GeoTrack.sortedPairs pg db userId).take maxDevices).filter
          fun key => key.1 = zoneId).map Prod.snd) := fun _ => rfl
  rw [byRows, byRows, same.zones, same.sortedPairs collates attributed]

/-- Every question of the user is answered alike. -/
theorem SameFor.reply {pg : Postgis} (collates : pg.Collates)
    (same : SameFor userId own one two) (oneAttributed : Attributed userId own one)
    (twoAttributed : Attributed userId own two) (query : ZoneQuery) :
    query.reply pg one userId = query.reply pg two userId := by
  cases query with
  | zone zoneId => rw [ZoneQuery.reply, ZoneQuery.reply, same.zoneTable]
  | page limit offset =>
      rw [ZoneQuery.reply, ZoneQuery.reply, same.listForUser, same.countForUser]
  | presence maxDevices =>
      rw [ZoneQuery.reply, ZoneQuery.reply, same.presenceForUser collates oneAttributed]
  | devices zoneId limit =>
      simp only [ZoneQuery.reply, same.zoneTable, same.devicesInside]
  | alerts zoneId deviceId before after limit =>
      simp only [ZoneQuery.reply]
      rw [alertPage_renumber _ _ _ _ oneAttributed.kept.increasing,
        alertPage_renumber _ _ _ _ twoAttributed.kept.increasing, same.alerts]

end Reads

/-- What an operation of one user can do: write or drop a row of his own. -/
inductive RequestEffect (requester : Uuid) (newId : Option Uuid) (db : Db) : Db → Prop where
  | unchanged : RequestEffect requester newId db db
  | created (zoneId : Uuid) (zone : ZoneRow) (drawn : newId = some zoneId)
      (free : db.geozones.get? zoneId = none) (mine : zone.userId = requester) :
      RequestEffect requester newId db { db with geozones := db.geozones.set zoneId zone }
  | updated (zoneId : Uuid) (old zone : ZoneRow) (stored : db.geozones.get? zoneId = some old)
      (wasMine : old.userId = requester) (mine : zone.userId = requester) :
      RequestEffect requester newId db { db with geozones := db.geozones.set zoneId zone }
  | dropped (zoneId : Uuid) (old : ZoneRow) (stored : db.geozones.get? zoneId = some old)
      (wasMine : old.userId = requester) :
      RequestEffect requester newId db (Geozones.dropZone db zoneId)

section Effects

variable {requester : Uuid} {newId : Option Uuid} {db : Db}

theorem updateWhere_requestEffect (zoneId : Uuid) (expected : Option ℤ)
    (assign : ZoneRow → ZoneRow) (keepsOwner : ∀ zone, (assign zone).userId = zone.userId) :
    RequestEffect requester newId db
      (committed db (Geozones.updateWhere db zoneId requester expected assign)) := by
  unfold Geozones.updateWhere Geozones.explainMissingRow
  cases guarded : Geozones.writable db zoneId requester expected with
  | some zone =>
      obtain ⟨stored, mine, _⟩ := writable_eq_some_iff.mp guarded
      exact .updated zoneId zone (assign zone) stored mine ((keepsOwner zone).trans mine)
  | none => cases Geozones.getForUser db zoneId requester <;> exact .unchanged

theorem step_requestEffect (pg : Postgis) (settings : StorageSettings) {op : Op}
    (asks : op.requester = some requester) :
    RequestEffect requester op.newZoneId db (step pg settings db op) := by
  cases op with
  | batch batch => cases asks
  | create now zoneId userId payload quota =>
      obtain rfl := Option.some.inj asks
      simp only [step, Geozones.create]
      split
      · exact .unchanged
      · split
        · exact .unchanged
        · split
          case isTrue => exact .unchanged
          case isFalse free => exact .created zoneId _ rfl (Dict.not_mem_iff.mp free) rfl
  | replace now zoneId userId payload expected =>
      obtain rfl := Option.some.inj asks
      exact updateWhere_requestEffect zoneId expected _ fun _ => rfl
  | patch now zoneId userId changes expected =>
      obtain rfl := Option.some.inj asks
      simp only [step, Geozones.patch]
      split
      · exact .unchanged
      · exact updateWhere_requestEffect zoneId expected _ fun _ => rfl
  | delete zoneId userId expected =>
      obtain rfl := Option.some.inj asks
      simp only [step, Geozones.delete, Geozones.explainMissingRow]
      cases guarded : Geozones.writable db zoneId userId expected with
      | some zone =>
          obtain ⟨stored, mine, _⟩ := writable_eq_some_iff.mp guarded
          exact .dropped zoneId zone stored mine
      | none => cases Geozones.getForUser db zoneId userId <;> exact .unchanged

end Effects

section Writes

variable {userId zoneId : Uuid} {own : List Uuid} {one two db : Db} {zone : ZoneRow}

theorem zonesOf_set (mine : zone.userId = userId)
    (wasMine : ∀ old, db.geozones.get? zoneId = some old → old.userId = userId) :
    { db with geozones := db.geozones.set zoneId zone }.zonesOf userId =
      (db.zonesOf userId).set zoneId zone :=
  Dict.filter_set_of_pos (decide_eq_true mine) fun old stored => decide_eq_true (wasMine old stored)

theorem zonesOf_set_foreign (foreign : zone.userId ≠ userId)
    (wasForeign : ∀ old, db.geozones.get? zoneId = some old → old.userId ≠ userId) :
    { db with geozones := db.geozones.set zoneId zone }.zonesOf userId = db.zonesOf userId :=
  Dict.filter_set_of_neg (by simpa using foreign) fun old stored => by
    simpa using wasForeign old stored

theorem SameFor.set (same : SameFor userId own one two) (mine : zone.userId = userId)
    (oneMine : ∀ old, one.geozones.get? zoneId = some old → old.userId = userId)
    (twoMine : ∀ old, two.geozones.get? zoneId = some old → old.userId = userId) :
    SameFor userId own { one with geozones := one.geozones.set zoneId zone }
      { two with geozones := two.geozones.set zoneId zone } where
  account := same.account
  zones := by rw [zonesOf_set mine oneMine, zonesOf_set mine twoMine, same.zones]
  positions := same.positions
  presence := same.presence
  alerts := same.alerts

theorem SameFor.set_foreign (same : SameFor userId own one two) (foreign : zone.userId ≠ userId)
    (wasForeign : ∀ old, one.geozones.get? zoneId = some old → old.userId ≠ userId) :
    SameFor userId own { one with geozones := one.geozones.set zoneId zone } two where
  account := same.account
  zones := (zonesOf_set_foreign foreign wasForeign).trans same.zones
  positions := same.positions
  presence := same.presence
  alerts := same.alerts

/-- An alert outlives its zone and keeps only the name. -/
def AlertBody.forget (zoneId : Uuid) (alert : AlertBody) : AlertBody :=
  if alert.zoneId = some zoneId then { alert with zoneId := none } else alert

theorem historyOf_dropZone (db : Db) (zoneId userId : Uuid) :
    ((Geozones.dropZone db zoneId).historyOf userId).map AlertRow.toAlertBody =
      ((db.historyOf userId).map AlertRow.toAlertBody).map (AlertBody.forget zoneId) := by
  have keepsOwner : ∀ alert : AlertRow,
      (if alert.zoneId = some zoneId then { alert with zoneId := none } else alert).userId =
        alert.userId := by
    intro alert
    split <;> rfl
  rw [Db.historyOf, Geozones.dropZone, List.filter_map, List.map_map, List.map_map, Db.historyOf]
  have sameRows : db.alerts.filter ((fun alert : AlertRow => decide (alert.userId = userId)) ∘
      fun alert => if alert.zoneId = some zoneId then { alert with zoneId := none } else alert) =
        db.alerts.filter fun alert => alert.userId = userId := by
    apply List.filter_congr
    intro alert _
    simp only [Function.comp, keepsOwner]
  rw [sameRows]
  apply List.map_congr_left
  intro alert _
  simp only [Function.comp, AlertBody.forget]
  split <;> rfl

theorem zonesOf_dropZone (db : Db) (zoneId userId : Uuid) :
    (Geozones.dropZone db zoneId).zonesOf userId = (db.zonesOf userId).erase zoneId := by
  change (db.geozones.erase zoneId).filter (fun _ zone => zone.userId = userId) = _
  rw [Dict.erase, Dict.erase, Db.zonesOf, Dict.filter_comm]

theorem SameFor.dropZone (same : SameFor userId own one two) (zoneId : Uuid) :
    SameFor userId own (Geozones.dropZone one zoneId) (Geozones.dropZone two zoneId) where
  account := same.account
  zones := by rw [zonesOf_dropZone, zonesOf_dropZone, same.zones]
  positions := same.positions
  presence other mine deviceId := by
    rw [Geozones.dropZone, Geozones.dropZone, Dict.get?_filter, Dict.get?_filter,
      same.presence other mine deviceId]
  alerts := by rw [historyOf_dropZone, historyOf_dropZone, same.alerts]

theorem SameFor.dropZone_foreign (same : SameFor userId own one two)
    (attributed : Attributed userId own one) (foreign : zoneId ∉ own) :
    SameFor userId own (Geozones.dropZone one zoneId) two where
  account := same.account
  zones := by
    rw [zonesOf_dropZone, ← same.zones]
    apply Dict.ext_entries
    rw [Dict.erase, Dict.filter, List.filter_eq_self]
    intro entry listed
    have owned := mem_own_of_zonesOf attributed (List.mem_map_of_mem listed)
    simpa using ne_of_mem_of_not_mem owned foreign
  positions := same.positions
  presence other mine deviceId := by
    rw [Geozones.dropZone, Dict.get?_filter, ← same.presence other mine deviceId]
    have kept : other ≠ zoneId := ne_of_mem_of_not_mem mine foreign
    cases one.zonePresence.get? (other, deviceId) <;> simp [kept]
  alerts := by
    rw [historyOf_dropZone, ← same.alerts]
    refine (List.map_congr_left ?_).trans (List.map_id _)
    intro body listed
    obtain ⟨alert, inHistory, rfl⟩ := List.mem_map.mp listed
    obtain ⟨stored, mine⟩ := List.mem_filter.mp inHistory
    have notAbout : alert.zoneId ≠ some zoneId := fun about =>
      foreign ((attributed.alert alert stored zoneId about).mp (of_decide_eq_true mine))
    exact if_neg notAbout

theorem Attributed.set (attributed : Attributed userId own db)
    (owner : zone.userId = userId ↔ zoneId ∈ own) :
    Attributed userId own { db with geozones := db.geozones.set zoneId zone } where
  kept := attributed.kept.zoneEffect (.written zoneId zone)
  zone other row stored := by
    rcases Dict.get?_set_cases stored with ⟨rfl, rfl⟩ | ⟨_, before⟩
    · exact owner
    · exact attributed.zone other row before
  alert := attributed.alert

theorem Attributed.dropZone (attributed : Attributed userId own db) (zoneId : Uuid) :
    Attributed userId own (Geozones.dropZone db zoneId) where
  kept := attributed.kept.zoneEffect (.dropped zoneId)
  zone other row stored := attributed.zone other row (Dict.of_get?_erase stored).2
  alert := by
    intro alert listed other about
    obtain ⟨old, oldListed, rfl⟩ := List.mem_map.mp listed
    by_cases aboutDropped : old.zoneId = some zoneId
    · rw [if_pos aboutDropped] at about
      cases about
    · rw [if_neg aboutDropped] at about ⊢
      exact attributed.alert old oldListed other about

/-- A request draws its new id from the user's list exactly if it is the
user's. -/
def DrawsFor (userId : Uuid) (own : List Uuid) (happening : Happening) : Prop :=
  ∀ requester newId, happening.drawn = some (requester, newId) →
    (requester = userId ↔ newId ∈ own)

theorem RequestEffect.attributed {requester : Uuid} {newId : Option Uuid} {after : Db}
    (effect : RequestEffect requester newId db after) (attributed : Attributed userId own db)
    (draws : ∀ zoneId, newId = some zoneId → (requester = userId ↔ zoneId ∈ own)) :
    Attributed userId own after := by
  cases effect with
  | unchanged => exact attributed
  | created zoneId zone drawn free mine => exact attributed.set (mine ▸ draws zoneId drawn)
  | updated zoneId old zone stored wasMine mine =>
      have owner := attributed.zone zoneId old stored
      rw [wasMine, ← mine] at owner
      exact attributed.set owner
  | dropped zoneId old stored wasMine => exact attributed.dropZone zoneId

/-- What somebody else does to his zones leaves the user's things the same. -/
theorem RequestEffect.same_foreign {requester : Uuid} {newId : Option Uuid} {after : Db}
    (effect : RequestEffect requester newId one after) (foreign : requester ≠ userId)
    (attributed : Attributed userId own one) (same : SameFor userId own one two) :
    SameFor userId own after two := by
  cases effect with
  | unchanged => exact same
  | created zoneId zone drawn free mine =>
      refine same.set_foreign (mine ▸ foreign) ?_
      intro old stored
      cases free.symm.trans stored
  | updated zoneId old zone stored wasMine mine =>
      refine same.set_foreign (mine ▸ foreign) ?_
      intro found storedToo
      obtain rfl := Option.some.inj (stored.symm.trans storedToo)
      exact wasMine ▸ foreign
  | dropped zoneId old stored wasMine =>
      refine same.dropZone_foreign attributed ?_
      intro listed
      exact foreign (wasMine ▸ (attributed.zone zoneId old stored).mpr listed)

end Writes

section OwnRequests

variable {userId : Uuid} {own : List Uuid} {one two : Db}

theorem SameFor.writable (same : SameFor userId own one two) (zoneId : Uuid)
    (expected : Option ℤ) :
    Geozones.writable one zoneId userId expected = Geozones.writable two zoneId userId expected := by
  rw [Geozones.writable, Geozones.writable, same.getForUser]

theorem SameFor.explainMissingRow (same : SameFor userId own one two) (zoneId : Uuid) :
    Geozones.explainMissingRow one zoneId userId = Geozones.explainMissingRow two zoneId userId := by
  rw [Geozones.explainMissingRow, Geozones.explainMissingRow, same.getForUser]

theorem SameFor.updateWhere (same : SameFor userId own one two) (zoneId : Uuid)
    (expected : Option ℤ) (assign : ZoneRow → ZoneRow)
    (keepsOwner : ∀ zone, (assign zone).userId = zone.userId) :
    (Geozones.updateWhere one zoneId userId expected assign).map Prod.snd =
        (Geozones.updateWhere two zoneId userId expected assign).map Prod.snd ∧
      SameFor userId own (committed one (Geozones.updateWhere one zoneId userId expected assign))
        (committed two (Geozones.updateWhere two zoneId userId expected assign)) := by
  unfold Geozones.updateWhere
  rw [← same.writable, ← same.explainMissingRow]
  cases guarded : Geozones.writable one zoneId userId expected with
  | some zone =>
      have storedTwo := writable_eq_some_iff.mp ((same.writable zoneId expected).symm.trans guarded)
      have storedOne := writable_eq_some_iff.mp guarded
      refine ⟨rfl, same.set ((keepsOwner zone).trans storedOne.2.1) ?_ ?_⟩
      · intro old stored
        exact Option.some.inj (storedOne.1.symm.trans stored) ▸ storedOne.2.1
      · intro old stored
        exact Option.some.inj (storedTwo.1.symm.trans stored) ▸ storedTwo.2.1
  | none => cases Geozones.explainMissingRow one zoneId userId <;> exact ⟨rfl, same⟩

theorem SameFor.mem_own (same : SameFor userId own one two) (attributed : Attributed userId own one)
    {zoneId : Uuid} (mine : zoneId ∈ own) (stored : zoneId ∈ one.geozones) :
    zoneId ∈ two.geozones := by
  obtain ⟨zone, found⟩ := Dict.mem_iff_exists.mp stored
  have owned := (attributed.zone zoneId zone found).mpr mine
  exact Dict.mem_iff_exists.mpr ⟨zone, (same.stored_iff.mp ⟨found, owned⟩).1⟩

theorem SameFor.create (same : SameFor userId own one two)
    (oneAttributed : Attributed userId own one) (twoAttributed : Attributed userId own two)
    (now : ℤ) {newId : Uuid} (mine : newId ∈ own) (payload : GeozoneCreate) (quota : ℕ) :
    (Geozones.create now one newId userId payload quota).map Prod.snd =
        (Geozones.create now two newId userId payload quota).map Prod.snd ∧
      SameFor userId own (committed one (Geozones.create now one newId userId payload quota))
        (committed two (Geozones.create now two newId userId payload quota)) := by
  have taken : newId ∈ one.geozones ↔ newId ∈ two.geozones :=
    ⟨same.mem_own oneAttributed mine, same.symm.mem_own twoAttributed mine⟩
  simp only [Geozones.create, same.account, same.countForUser, taken]
  by_cases unknown : userId ∉ two.users
  · rw [if_pos unknown, if_pos unknown]
    exact ⟨rfl, same⟩
  · by_cases full : quota ≤ Geozones.countForUser two userId
    · rw [if_neg unknown, if_neg unknown, if_pos full, if_pos full]
      exact ⟨rfl, same⟩
    · by_cases used : newId ∈ two.geozones
      · rw [if_neg unknown, if_neg unknown, if_neg full, if_neg full, if_pos used, if_pos used]
        exact ⟨rfl, same⟩
      · have freeTwo := Dict.not_mem_iff.mp used
        have freeOne := Dict.not_mem_iff.mp (mt taken.mp used)
        rw [if_neg unknown, if_neg unknown, if_neg full, if_neg full, if_neg used, if_neg used]
        refine ⟨rfl, same.set rfl ?_ ?_⟩
        · intro old stored
          cases freeOne.symm.trans stored
        · intro old stored
          cases freeTwo.symm.trans stored

theorem SameFor.delete (same : SameFor userId own one two) (zoneId : Uuid)
    (expected : Option ℤ) :
    (Geozones.delete one zoneId userId expected).map Prod.snd =
        (Geozones.delete two zoneId userId expected).map Prod.snd ∧
      SameFor userId own (committed one (Geozones.delete one zoneId userId expected))
        (committed two (Geozones.delete two zoneId userId expected)) := by
  unfold Geozones.delete
  rw [← same.writable, ← same.explainMissingRow]
  cases Geozones.writable one zoneId userId expected with
  | some zone => exact ⟨rfl, same.dropZone zoneId⟩
  | none => cases Geozones.explainMissingRow one zoneId userId <;> exact ⟨rfl, same⟩

/-- An operation of the user has the same outcome, and the same effect on what
is his. -/
theorem SameFor.request (pg : Postgis) (settings : StorageSettings)
    (same : SameFor userId own one two) (oneAttributed : Attributed userId own one)
    (twoAttributed : Attributed userId own two) {op : Op} (asks : op.requester = some userId)
    (draws : DrawsFor userId own (.write op)) :
    op.reply one = op.reply two ∧
      SameFor userId own (step pg settings one op) (step pg settings two op) := by
  cases op with
  | batch batch => cases asks
  | create now newId requester payload quota =>
      obtain rfl := Option.some.inj asks
      have mine : newId ∈ own := (draws requester newId rfl).mp rfl
      obtain ⟨told, after⟩ := same.create oneAttributed twoAttributed now mine payload quota
      exact ⟨congrArg (some ∘ ZoneReply.created) told, after⟩
  | replace now zoneId requester payload expected =>
      obtain rfl := Option.some.inj asks
      obtain ⟨told, after⟩ := same.updateWhere zoneId expected (Geozones.assignAll now payload)
        fun _ => rfl
      exact ⟨congrArg (some ∘ ZoneReply.updated) told, after⟩
  | patch now zoneId requester changes expected =>
      obtain rfl := Option.some.inj asks
      simp only [Op.reply, step, Geozones.patch]
      by_cases nothing : Geozones.patchIsEmpty changes = true
      · rw [if_pos nothing, if_pos nothing, same.getForUser]
        exact ⟨rfl, same⟩
      · rw [if_neg nothing, if_neg nothing]
        obtain ⟨told, after⟩ := same.updateWhere zoneId expected
          (Geozones.assignChanges now changes) fun _ => rfl
        exact ⟨congrArg (some ∘ ZoneReply.updated) told, after⟩
  | delete zoneId requester expected =>
      obtain rfl := Option.some.inj asks
      obtain ⟨told, after⟩ := same.delete zoneId expected
      exact ⟨congrArg (some ∘ ZoneReply.deleted) told, after⟩

end OwnRequests

section Batches

variable {pg : Postgis} {settings : StorageSettings} {userId : Uuid} {own : List Uuid}
  {one two db : Db} {batch : Batch}

theorem SameFor.reports (same : SameFor userId own one two) :
    batch.reports settings one = batch.reports settings two := by
  rw [Batch.reports, Batch.reports, same.positions]

theorem SameFor.heard (same : SameFor userId own one two) (device : DeviceId) :
    batch.heard settings one device = batch.heard settings two device := by
  rw [Batch.heard, Batch.heard, same.reports]

theorem SameFor.mem_transitions (same : SameFor userId own one two)
    (attributed : Attributed userId own one) {reports : List LocationRecord}
    (distinct : (reports.map LocationRecord.deviceId).Nodup) {transition : Transition}
    (mine : transition.zone.userId = userId) (listed : transition ∈ transitions pg one reports) :
    transition ∈ transitions pg two reports := by
  obtain ⟨record, inBatch, zoneId, zone, stored, decided⟩ :=
    (GeoTrack.mem_transitions pg distinct).mp listed
  obtain ⟨-, isZone, -⟩ := transitionOf_key pg decided
  rw [isZone] at mine
  have known := same.presence zoneId ((attributed.zone zoneId zone stored).mp mine) record.deviceId
  have storedToo := (same.stored_iff.mp ⟨stored, mine⟩).1
  refine (GeoTrack.mem_transitions pg distinct).mpr ⟨record, inBatch, zoneId, zone, storedToo, ?_⟩
  rw [← decided, transitionOf, transitionOf, insideTransition, insideTransition, known]

/-- The transitions of the user's zones, in no particular order. -/
theorem SameFor.transitions_perm (same : SameFor userId own one two)
    (oneAttributed : Attributed userId own one) (twoAttributed : Attributed userId own two)
    {reports : List LocationRecord} (distinct : (reports.map LocationRecord.deviceId).Nodup) :
    ((transitions pg one reports).filter fun transition => transition.zone.userId = userId).Perm
      ((transitions pg two reports).filter fun transition => transition.zone.userId = userId) := by
  rw [List.perm_ext_iff_of_nodup ((nodup_transitions pg one distinct).of_map.filter _)
    ((nodup_transitions pg two distinct).of_map.filter _)]
  intro transition
  rw [List.mem_filter, List.mem_filter, and_congr_left_iff, decide_eq_true_eq]
  intro mine
  exact ⟨same.mem_transitions oneAttributed distinct mine,
    same.symm.mem_transitions twoAttributed distinct mine⟩

/-- A batch raises at most one alert about each pair. -/
theorem alertBody_injective (now : ℤ) {reports : List LocationRecord}
    (distinct : (reports.map LocationRecord.deviceId).Nodup) {first second : AlertBody}
    (isFirst : first ∈ (transitions pg db reports).filterMap fun transition =>
      transition.kind.map (transition.alertBody now))
    (isSecond : second ∈ (transitions pg db reports).filterMap fun transition =>
      transition.kind.map (transition.alertBody now))
    (sameZone : first.zoneId.getD 0 = second.zoneId.getD 0)
    (sameDevice : first.deviceId = second.deviceId) : first = second := by
  obtain ⟨one, oneListed, isOne⟩ := List.mem_filterMap.mp isFirst
  obtain ⟨two, twoListed, isTwo⟩ := List.mem_filterMap.mp isSecond
  have sameKey : one.key = two.key := by
    obtain ⟨_, _, rfl⟩ := Option.map_eq_some_iff.mp isOne
    obtain ⟨_, _, rfl⟩ := Option.map_eq_some_iff.mp isTwo
    exact Prod.ext sameZone sameDevice
  obtain rfl := List.inj_on_of_nodup_map (nodup_transitions pg db distinct) oneListed twoListed
    sameKey
  exact Option.some.inj (isOne.symm.trans isTwo)

/-- The user's alerts of a batch come in the same order. -/
theorem SameFor.newAlerts (collates : pg.Collates) (same : SameFor userId own one two)
    (oneAttributed : Attributed userId own one) (twoAttributed : Attributed userId own two)
    (now : ℤ) {reports : List LocationRecord}
    (distinct : (reports.map LocationRecord.deviceId).Nodup) :
    (newAlerts pg now (transitions pg one reports)).filter (fun alert => alert.userId = userId) =
      (newAlerts pg now (transitions pg two reports)).filter fun alert => alert.userId = userId := by
  have total := alertOrder_total collates
  have trans := alertOrder_trans collates
  have byZone : ∀ events : List Transition,
      (events.filterMap fun transition => transition.kind.map (transition.alertBody now)).filter
          (fun alert => alert.userId = userId) =
        (events.filter fun transition => transition.zone.userId = userId).filterMap
          fun transition => transition.kind.map (transition.alertBody now) := by
    intro events
    rw [List.filter_filterMap, List.filterMap_filter]
    apply List.filterMap_congr
    intro transition _
    cases transition.kind <;> simp [Transition.alertBody, Option.filter_some]
  apply filter_insertionSort_congr
  · rw [byZone, byZone]
    exact (same.transitions_perm oneAttributed twoAttributed distinct).filterMap _
  · intro first isFirst second isSecond lower upper
    obtain ⟨sameZone, sameDevice⟩ := alertOrder_antisymm collates lower upper
    exact alertBody_injective now distinct (List.mem_of_mem_filter isFirst)
      (List.mem_of_mem_filter isSecond) sameZone sameDevice

theorem historyOf_outcome (db : Db) (batch : Batch) (userId : Uuid) :
    ((batch.outcome settings pg db).historyOf userId).map AlertRow.toAlertBody =
      (db.historyOf userId).map AlertRow.toAlertBody ++
        (newAlerts pg batch.now (transitions pg db (batch.reports settings db))).filter
          fun alert => alert.userId = userId := by
  rw [Db.historyOf, Batch.alerts_outcome, List.filter_append, List.map_append, Batch.raised,
    filter_numberAlerts _ _ fun alert => alert.userId = userId]
  rfl

theorem SameFor.presence_outcome (same : SameFor userId own one two)
    (oneAttributed : Attributed userId own one) (twoAttributed : Attributed userId own two)
    {zoneId : Uuid} (mine : zoneId ∈ own) (deviceId : DeviceId) :
    (batch.outcome settings pg one).zonePresence.get? (zoneId, deviceId) =
      (batch.outcome settings pg two).zonePresence.get? (zoneId, deviceId) := by
  have known := same.presence zoneId mine deviceId
  cases stored : one.geozones.get? zoneId with
  | none =>
      have unstored : two.geozones.get? zoneId = none := by
        rw [← Dict.not_mem_iff] at stored ⊢
        exact mt (same.symm.mem_own twoAttributed mine) stored
      rw [Batch.presence_of_unstored deviceId stored, Batch.presence_of_unstored deviceId unstored,
        known]
  | some zone =>
      have owned := (oneAttributed.zone zoneId zone stored).mpr mine
      have storedToo := (same.stored_iff.mp ⟨stored, owned⟩).1
      cases isHeard : batch.heard settings one deviceId with
      | none =>
          rw [Batch.presence_of_not_heard isHeard,
            Batch.presence_of_not_heard ((same.heard deviceId).symm.trans isHeard), known]
      | some record =>
          obtain ⟨-, rfl⟩ := Batch.mem_of_heard isHeard
          have sameRow : presenceRow one (insideTransition one.zonePresence ⟨record, zoneId, zone⟩) =
              presenceRow two (insideTransition two.zonePresence ⟨record, zoneId, zone⟩) := by
            simp only [presenceRow, insideTransition, Transition.key, known]
          rw [Batch.presence_of_heard isHeard stored,
            Batch.presence_of_heard ((same.heard _).symm.trans isHeard) storedToo, sameRow]

/-- A batch leaves the user's things the same, whatever zones the others have. -/
theorem SameFor.outcome (collates : pg.Collates) (same : SameFor userId own one two)
    (oneAttributed : Attributed userId own one) (twoAttributed : Attributed userId own two) :
    SameFor userId own (batch.outcome settings pg one) (batch.outcome settings pg two) where
  account := same.account
  zones := same.zones
  positions := by
    change one.devicePositions.setAll ((batch.reports settings one).map _) =
      two.devicePositions.setAll ((batch.reports settings two).map _)
    rw [same.reports, same.positions]
  presence _ mine deviceId := same.presence_outcome oneAttributed twoAttributed mine deviceId
  alerts := by
    rw [historyOf_outcome, historyOf_outcome, same.alerts, ← same.reports,
      same.newAlerts collates oneAttributed twoAttributed batch.now Batch.nodup_reports]

theorem Attributed.outcome (attributed : Attributed userId own db) :
    Attributed userId own (batch.outcome settings pg db) where
  kept := attributed.kept.outcome
  zone := attributed.zone
  alert := by
    intro alert listed zoneId about
    rcases List.mem_append.mp listed with old | new
    · exact attributed.alert alert old zoneId about
    · obtain ⟨transition, isTransition, kind, body⟩ := Batch.mem_raised new
      obtain ⟨record, _, other, zone, stored, decided⟩ :=
        (mem_transitions pg Batch.nodup_reports).mp isTransition
      obtain ⟨isZoneId, isZone, -⟩ := transitionOf_key pg decided
      have isOwner : alert.userId = zone.userId :=
        (congrArg AlertBody.userId body).trans (congrArg ZoneRow.userId isZone)
      have isAbout : some zoneId = some other :=
        about.symm.trans ((congrArg AlertBody.zoneId body).trans (congrArg some isZoneId))
      rw [isOwner, Option.some.inj isAbout]
      exact attributed.zone other zone stored

end Batches

section Theorem

variable (pg : Postgis) (settings : StorageSettings) (userId : Uuid)

/-- The ids drawn for one user. -/
def drawnFor (userId : Uuid) (happenings : List Happening) : List Uuid :=
  ((happenings.filterMap Happening.drawn).filter fun draw => draw.1 = userId).map Prod.snd

/-- No id that is drawn for the user is also drawn for somebody else. -/
def DrawsApart (userId : Uuid) (happenings : List Happening) : Prop :=
  ∀ draw ∈ happenings.filterMap Happening.drawn, draw.2 ∈ drawnFor userId happenings →
    draw.1 = userId

instance (happenings : List Happening) : Decidable (DrawsApart userId happenings) :=
  inferInstanceAs (Decidable (∀ draw ∈ happenings.filterMap Happening.drawn, _ → _))

theorem concerns_of_drawn {happening : Happening} {newId : Uuid}
    (drawn : happening.drawn = some (userId, newId)) :
    Happening.concerns userId happening = true := by
  cases happening with
  | ask asker query => cases drawn
  | write op =>
      cases op with
      | create now other requester payload quota =>
          obtain rfl : requester = userId := congrArg Prod.fst (Option.some.inj drawn)
          simp [Happening.concerns, Op.requester]
      | batch batch => cases drawn
      | replace now zoneId requester payload expected => cases drawn
      | patch now zoneId requester changes expected => cases drawn
      | delete zoneId requester expected => cases drawn

theorem drawnFor_view (happenings : List Happening) :
    drawnFor userId ((tablesFor pg settings userId).view happenings) =
      drawnFor userId happenings := by
  unfold drawnFor
  congr 1
  induction happenings with
  | nil => rfl
  | cons happening rest ih =>
      by_cases seen : (tablesFor pg settings userId).visible happening = true
      · rw [Unwinding.System.view_cons_of_visible seen]
        cases draw : happening.drawn with
        | none => simpa [draw] using ih
        | some pair => by_cases mine : pair.1 = userId <;> simpa [draw, mine] using ih
      · rw [Unwinding.System.view_cons_of_hidden seen, ih]
        cases draw : happening.drawn with
        | none => simp [draw]
        | some pair =>
            have foreign : pair.1 ≠ userId := by
              rintro rfl
              exact seen (concerns_of_drawn pair.1 draw)
            simp [draw, foreign]

theorem drawsFor_of_drawsApart {happenings : List Happening} (apart : DrawsApart userId happenings) :
    ∀ happening ∈ happenings, DrawsFor userId (drawnFor userId happenings) happening := by
  intro happening listed requester newId drawn
  have draw : (requester, newId) ∈ happenings.filterMap Happening.drawn :=
    List.mem_filterMap.mpr ⟨happening, listed, drawn⟩
  constructor
  · rintro rfl
    exact List.mem_map.mpr ⟨_, List.mem_filter.mpr ⟨draw, decide_eq_true rfl⟩, rfl⟩
  · exact apart _ draw

theorem attributed_fresh (own : List Uuid) (users : KeySet Uuid) :
    Attributed userId own (Db.fresh users) where
  kept := kept_fresh users
  zone := by simp [Db.fresh]
  alert := by simp [Db.fresh]

variable {userId} {own : List Uuid} {one two db : Db} {happening : Happening}

theorem exists_batch_of_requester {op : Op} (nobody : op.requester = none) :
    ∃ batch, op = .batch batch := by
  cases op with
  | batch batch => exact ⟨batch, rfl⟩
  | create now newId requester payload quota => cases nobody
  | replace now zoneId requester payload expected => cases nobody
  | patch now zoneId requester changes expected => cases nobody
  | delete zoneId requester expected => cases nobody

theorem drawn_write {op : Op} {requester newId : Uuid} (asks : op.requester = some requester)
    (draws : op.newZoneId = some newId) :
    (Happening.write op).drawn = some (requester, newId) := by
  cases op with
  | create now drawnId owner payload quota =>
      obtain rfl := Option.some.inj asks
      obtain rfl := Option.some.inj draws
      rfl
  | batch batch => cases draws
  | replace now zoneId owner payload expected => cases draws
  | patch now zoneId owner changes expected => cases draws
  | delete zoneId owner expected => cases draws

theorem concerns_write {op : Op} {requester : Uuid} (asks : op.requester = some requester) :
    Happening.concerns userId (.write op) = true ↔ requester = userId := by
  cases op with
  | batch batch => cases asks
  | create now newId owner payload quota => simp_all [Happening.concerns, Op.requester]
  | replace now zoneId owner payload expected => simp_all [Happening.concerns, Op.requester]
  | patch now zoneId owner changes expected => simp_all [Happening.concerns, Op.requester]
  | delete zoneId owner expected => simp_all [Happening.concerns, Op.requester]

theorem Attributed.step (attributed : Attributed userId own db)
    (draws : DrawsFor userId own happening) :
    Attributed userId own ((tablesFor pg settings userId).step db happening) := by
  cases happening with
  | ask asker query => exact attributed
  | write op =>
      change Attributed userId own (GeoTrack.step pg settings db op)
      cases asks : op.requester with
      | none =>
          obtain ⟨batch, rfl⟩ := exists_batch_of_requester asks
          rw [step_batch]
          exact attributed.outcome
      | some requester =>
          exact (step_requestEffect pg settings asks).attributed attributed
            fun newId drawn => draws requester newId (drawn_write asks drawn)

/-- What others do and ask for. -/
theorem SameFor.step_hidden (same : SameFor userId own one two)
    (attributed : Attributed userId own one)
    (hidden : ¬ Happening.concerns userId happening = true) :
    SameFor userId own ((tablesFor pg settings userId).step one happening) two := by
  cases happening with
  | ask asker query => exact same
  | write op =>
      change SameFor userId own (GeoTrack.step pg settings one op) two
      cases asks : op.requester with
      | none =>
          obtain ⟨batch, rfl⟩ := exists_batch_of_requester asks
          exact absurd rfl hidden
      | some requester =>
          rw [concerns_write asks] at hidden
          exact (step_requestEffect pg settings asks).same_foreign hidden attributed same

/-- Batches, and what the user does and asks for. -/
theorem SameFor.step_visible (collates : pg.Collates) (same : SameFor userId own one two)
    (oneAttributed : Attributed userId own one) (twoAttributed : Attributed userId own two)
    (draws : DrawsFor userId own happening) (seen : Happening.concerns userId happening = true) :
    SameFor userId own ((tablesFor pg settings userId).step one happening)
        ((tablesFor pg settings userId).step two happening) ∧
      (tablesFor pg settings userId).answer one happening =
        (tablesFor pg settings userId).answer two happening := by
  cases happening with
  | ask asker query =>
      obtain rfl := of_decide_eq_true seen
      exact ⟨same, congrArg some (same.reply collates oneAttributed twoAttributed query)⟩
  | write op =>
      cases asks : op.requester with
      | none =>
          obtain ⟨batch, rfl⟩ := exists_batch_of_requester asks
          change SameFor userId own (GeoTrack.step pg settings one (.batch batch))
            (GeoTrack.step pg settings two (.batch batch)) ∧ _
          rw [step_batch, step_batch]
          exact ⟨same.outcome collates oneAttributed twoAttributed, rfl⟩
      | some requester =>
          obtain rfl := (concerns_write asks).mp seen
          exact (same.request pg settings oneAttributed twoAttributed asks draws).symm

/-- The tables with the observer's part unwind. -/
theorem unwinds_tablesFor (collates : pg.Collates) (own : List Uuid) :
    Unwinding.Unwinds (tablesFor pg settings userId) (DrawsFor userId own) fun one two =>
      SameFor userId own one two ∧ Attributed userId own one ∧ Attributed userId own two where
  symm := fun _ _ ⟨same, oneAttributed, twoAttributed⟩ => ⟨same.symm, twoAttributed, oneAttributed⟩
  trans := fun _ _ _ ⟨same, attributed, _⟩ ⟨more, _, attributedLast⟩ =>
    ⟨same.trans more, attributed, attributedLast⟩
  hidden := fun _ _ _ draws hidden ⟨same, oneAttributed, twoAttributed⟩ =>
    ⟨same.step_hidden pg settings oneAttributed hidden, oneAttributed.step pg settings draws,
      twoAttributed⟩
  visible := fun _ _ _ draws seen ⟨same, oneAttributed, twoAttributed⟩ =>
    ⟨(same.step_visible pg settings collates oneAttributed twoAttributed draws seen).1,
      oneAttributed.step pg settings draws, twoAttributed.step pg settings draws⟩
  answer := fun _ _ _ draws seen ⟨same, oneAttributed, twoAttributed⟩ =>
    (same.step_visible pg settings collates oneAttributed twoAttributed draws seen).2

/-- Two runs with the same batches and the same requests of one user, whatever
the others have and do, leave him the same zones, the same presence rows and the
same alerts, and give him the same answers. -/
theorem users_do_not_interfere (collates : pg.Collates) {users others : KeySet Uuid}
    (sameAccount : userId ∈ users ↔ userId ∈ others) {first second : List Happening}
    (firstApart : DrawsApart userId first) (secondApart : DrawsApart userId second)
    (sameView : first.filter (Happening.concerns userId) =
      second.filter (Happening.concerns userId)) :
    let tables := tablesFor pg settings userId
    let one := tables.run (Db.fresh users) first
    let two := tables.run (Db.fresh others) second
    one.zonesOf userId = two.zonesOf userId ∧
      (∀ zoneId ∈ one.zonesOf userId, ∀ deviceId,
        one.zonePresence.get? (zoneId, deviceId) = two.zonePresence.get? (zoneId, deviceId)) ∧
      (one.historyOf userId).map AlertRow.toAlertBody =
        (two.historyOf userId).map AlertRow.toAlertBody ∧
      tables.answers (Db.fresh users) first = tables.answers (Db.fresh others) second := by
  intro tables one two
  have sameDraws : drawnFor userId second = drawnFor userId first := by
    rw [← drawnFor_view pg settings userId second, ← drawnFor_view pg settings userId first]
    exact congrArg (drawnFor userId) sameView.symm
  have secondDraws := drawsFor_of_drawsApart userId secondApart
  rw [sameDraws] at secondDraws
  have start : SameFor userId (drawnFor userId first) (Db.fresh users) (Db.fresh others) :=
    ⟨sameAccount, rfl, rfl, fun _ _ _ => rfl, rfl⟩
  obtain ⟨⟨same, attributed, -⟩, told⟩ :=
    (unwinds_tablesFor pg settings collates (drawnFor userId first)).sameView
      (drawsFor_of_drawsApart userId firstApart) secondDraws sameView
      ⟨start, attributed_fresh userId _ users, attributed_fresh userId _ others⟩
  refine ⟨same.zones, ?_, same.alerts, told⟩
  intro zoneId owned
  exact same.presence zoneId (mem_own_of_zonesOf attributed (Dict.mem_keys_iff.mpr owned))

end Theorem

/-- A truck comes and goes, and the owner of the depot looks at his page. -/
def quietTown : List Happening :=
  roundTrip.map .write ++ [.ask 1 (.presence 10), .ask 1 (.alerts none none none none 200)]

/-- The same with a neighbour, who has a zone of his own around the depot and
tries to delete the depot. -/
def busyTown : List Happening :=
  .write (.create 0 3 2 ⟨"yard", 0, 0, 900, none, true, true, some 60⟩ 10) ::
    roundTrip.map .write ++
      [.write (.delete 7 2 none), .ask 1 (.presence 10), .write (.delete 3 2 none),
        .ask 1 (.alerts none none none none 200)]

/-- The neighbour shows in the numbers of the alerts and in nothing else. -/
theorem users_do_not_interfere_neighbour :
    let tables := tablesFor .tangentPlane ⟨30, 60⟩ 1
    let one := tables.run (Db.fresh (KeySet.add ∅ 1)) quietTown
    let two := tables.run (Db.fresh ((KeySet.add ∅ 1).add 2)) busyTown
    (one.historyOf 1).map AlertRow.id = [1, 2, 3] ∧
      (two.historyOf 1).map AlertRow.id = [2, 4, 6] ∧
      one.zonesOf 1 = two.zonesOf 1 ∧
      (∀ zoneId ∈ one.zonesOf 1, ∀ deviceId,
        one.zonePresence.get? (zoneId, deviceId) = two.zonePresence.get? (zoneId, deviceId)) ∧
      (one.historyOf 1).map AlertRow.toAlertBody = (two.historyOf 1).map AlertRow.toAlertBody ∧
      tables.answers (Db.fresh (KeySet.add ∅ 1)) quietTown =
        tables.answers (Db.fresh ((KeySet.add ∅ 1).add 2)) busyTown :=
  ⟨by decide +kernel, by decide +kernel,
    users_do_not_interfere .tangentPlane ⟨30, 60⟩ Postgis.collates_tangentPlane (by decide)
      (by decide) (by decide) rfl⟩

end GeoTrack
